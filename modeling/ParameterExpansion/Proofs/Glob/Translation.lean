import ParameterExpansion.Glob.Compile
import ParameterExpansion.Glob.Matches
import ParameterExpansion.Proofs.Glob.Rendering

/-!
The regular expression of a pattern is read back as one item for each token. It is refused exactly
if a class has a range that is out of order. The one class that is not read back by itself is a
lone circumflex without an exclamation mark: it becomes the beginning of a larger set.
-/
namespace ParameterExpansion

/-- The outcome is a given result under a condition, and a failure where the condition fails. -/
def OkWhen (condition : Prop) (a : α) (outcome : Except ε α) : Prop :=
  (condition → outcome = .ok a) ∧ (¬condition → ∃ e, outcome = .error e)

namespace OkWhen

theorem ok (a : α) : OkWhen True a (.ok a : Except ε α) :=
  ⟨fun _ => rfl, fun h => absurd trivial h⟩

theorem map {p : Prop} {a : α} {x : Except ε α} (f : α → β) (h : OkWhen p a x) :
    OkWhen p (f a) (x.map f) := by
  constructor
  · intro hp
    rw [h.1 hp]
    rfl
  · intro hp
    obtain ⟨e, he⟩ := h.2 hp
    exact ⟨e, by rw [he]; rfl⟩

theorem congr {p q : Prop} {a : α} {x : Except ε α} (h : OkWhen p a x) (hpq : q ↔ p) :
    OkWhen q a x :=
  ⟨fun hq => h.1 (hpq.mp hq), fun hq => h.2 fun hp => hq (hpq.mpr hp)⟩

/-- Success and the condition are the same thing. -/
theorem exists_ok_iff {p : Prop} {a : α} {x : Except ε α} (h : OkWhen p a x) :
    (∃ b, x = .ok b) ↔ p := by
  constructor
  · rintro ⟨b, hb⟩
    apply Classical.byContradiction
    intro hp
    obtain ⟨e, he⟩ := h.2 hp
    rw [hb] at he
    cases he
  · intro hp
    exact ⟨a, h.1 hp⟩

end OkWhen

namespace Regex

/-- Every interval ends where it begins or later. -/
def Ascending (intervals : List Interval) : Prop :=
  ∀ i ∈ intervals, i.first ≤ i.last

/-- A state in which the next member is the first of its interval. -/
def SetState.Fresh (state : SetState) : Prop :=
  ∀ m, state.take m = .ok ([], .pending m)

theorem fresh_opened : SetState.opened.Fresh := fun _ => rfl

theorem fresh_finished : SetState.finished.Fresh := fun _ => rfl

theorem take_hyphen (first : Member) {m : Member} (h : m.written = ['-']) :
    (SetState.pending first).take m = .ok ([], .hyphen first) := if_pos h

theorem take_pending (first : Member) {m : Member} (h : m.written ≠ ['-']) :
    (SetState.pending first).take m = .ok ([first.single], .pending m) := if_neg h

theorem take_range {first m : Member} (h : first.char ≤ m.char) :
    (SetState.hyphen first).take m = .ok ([⟨first.char, m.char⟩], .finished) :=
  if_neg (Char.not_lt.mpr h)

theorem take_badRange {first m : Member} (h : ¬first.char ≤ m.char) :
    (SetState.hyphen first).take m = .error (.badRange first.written m.written, first.pos) :=
  if_pos (Char.not_le.mp h)

end Regex

namespace Glob

open Regex

theorem head?_escapeMember_append {c d : Char} (hd : d ≠ '\\') (hc : c ≠ d) (t : Text) :
    (escapeMember c ++ t).head? ≠ some d := by
  unfold escapeMember
  split <;> simp [hc, hd.symm]

/-- How a code point can be written as a member: as it is, or behind a backslash. -/
def WrittenAs (c : Char) (written : Text) : Prop :=
  written = [c] ∧ c ≠ '\\' ∧ c ≠ ']' ∨ written = ['\\', c] ∧ c.isAlpha = false

/-- A member is taken in as itself, however it is written. -/
theorem readSet_written {c : Char} {written : Text} (h : WrittenAs c written) (start pos : Nat)
    (state : SetState) (t : Text) :
    readSet start state pos (written ++ t) =
      match state.take ⟨c, written, pos⟩ with
      | .error fault => .error fault
      | .ok (finished, next) =>
        (readSet start next (pos + written.length) t).map fun (intervals, after) =>
          (finished ++ intervals, after) := by
  rcases h with ⟨rfl, hb, hc⟩ | ⟨rfl, ha⟩
  · rw [List.singleton_append, readSet]
    · rw [if_neg hc]
      cases state.take ⟨c, [c], pos⟩ <;> rfl
    · intro _ _ e _
      exact hb e
  · simp only [List.cons_append, List.nil_append, readSet, ha]
    cases state.take ⟨c, ['\\', c], pos⟩ <;> rfl

theorem writtenAs_escapeMember (c : Char) : WrittenAs c (escapeMember c) := by
  by_cases h : c = '\\' ∨ c = '[' ∨ c = ']'
  · have ha : c.isAlpha = false := by rcases h with rfl | rfl | rfl <;> decide
    exact .inr ⟨by simp [escapeMember, h], ha⟩
  · exact .inl ⟨by simp [escapeMember, h], fun e => h (.inl e), fun e => h (.inr (.inr e))⟩

theorem readSet_of_take {start pos : Nat} {state next : SetState} {c : Char} {written : Text}
    {finished : List Interval} (hw : WrittenAs c written)
    (h : state.take ⟨c, written, pos⟩ = .ok (finished, next)) (t : Text) :
    readSet start state pos (written ++ t) =
      (readSet start next (pos + written.length) t).map fun (intervals, after) =>
        (finished ++ intervals, after) := by
  rw [readSet_written hw, h]

theorem readSet_of_fault {start pos : Nat} {state : SetState} {c : Char} {written : Text}
    {fault : Fault} (hw : WrittenAs c written)
    (h : state.take ⟨c, written, pos⟩ = .error fault) (t : Text) :
    readSet start state pos (written ++ t) = .error fault := by
  rw [readSet_written hw, h]

/-- Where no hyphen follows, a member that is waiting becomes an interval by itself. -/
theorem readSet_pending_of_head (start pos : Nat) (first : Member) {t : Text}
    (h : t.head? ≠ some '-') :
    readSet start (.pending first) pos t =
      (readSet start .finished pos t).map fun (intervals, after) =>
        (first.single :: intervals, after) := by
  have member : ∀ {c : Char} {written rest : Text}, WrittenAs c written → written ≠ ['-'] →
      readSet start (.pending first) pos (written ++ rest) =
        (readSet start .finished pos (written ++ rest)).map fun (intervals, after) =>
          (first.single :: intervals, after) := by
    intro c written rest hw hne
    rw [readSet_of_take hw (take_pending first hne), readSet_of_take hw (fresh_finished _)]
    cases readSet start (.pending ⟨c, written, pos⟩) (pos + written.length) rest <;> rfl
  cases t with
  | nil => rfl
  | cons c rest =>
    by_cases hc : c = ']'
    · subst c
      simp [readSet, SetState.close?, Except.map]
    by_cases hb : c = '\\'
    · subst c
      cases rest with
      | nil => rfl
      | cons d rest =>
        by_cases hd : d.isAlpha
        · simp [readSet, hd, Except.map]
        · exact member (.inr ⟨rfl, by simpa using hd⟩) (by simp)
    · exact member (.inl ⟨rfl, hb, hc⟩) fun e => h (by rw [List.singleton_inj.mp e]; rfl)

/-- The same where a hyphen follows but no member comes after it. -/
theorem readSet_pending (start pos : Nat) (first : Member) (members rest : Text)
    (h : ∀ last more, members ≠ '-' :: last :: more) :
    readSet start (.pending first) pos (members.flatMap escapeMember ++ ']' :: rest) =
      (readSet start .finished pos (members.flatMap escapeMember ++ ']' :: rest)).map
        fun (intervals, after) => (first.single :: intervals, after) := by
  by_cases hm : members = ['-']
  · subst members
    rfl
  · apply readSet_pending_of_head
    cases members with
    | nil => simp
    | cons c more =>
      have hc : c ≠ '-' := by
        rintro rfl
        cases more with
        | nil => exact hm rfl
        | cons last more => exact h last more rfl
      rw [List.flatMap_cons, List.append_assoc]
      exact head?_escapeMember_append (by decide) hc _

theorem ascending_cons_iff {i : Interval} {intervals : List Interval} :
    Ascending (i :: intervals) ↔ i.first ≤ i.last ∧ Ascending intervals :=
  List.forall_mem_cons

/-- Intervals that are finished first come in front of those that follow. -/
theorem okWhen_prepend {p : Prop} {intervals : List Interval} {rest : Text}
    {x : Except Fault (List Interval × Text)} (finished : List Interval)
    (h : OkWhen p (intervals, rest) x) :
    OkWhen p (finished ++ intervals, rest)
      (x.map fun (intervals, after) => (finished ++ intervals, after)) :=
  h.map _

/-- The members are written escaped, but for the first, which can be written in any way. -/
def Spells : Text → Text → Prop
  | [], t => t = []
  | c :: members, t => ∃ written, WrittenAs c written ∧ t = written ++ members.flatMap escapeMember

theorem spells_escaped (members : Text) : Spells members (members.flatMap escapeMember) := by
  cases members with
  | nil => rfl
  | cons c members => exact ⟨_, writtenAs_escapeMember c, rfl⟩

/-- Members are read back as their intervals, whatever comes after their bracket. -/
theorem readSet_members {start pos : Nat} {state : SetState} {members t : Text}
    (spelled : Spells members t) (rest : Text) (fresh : state.Fresh)
    (closes : members = [] → state = .finished) :
    OkWhen (Ascending (intervals members)) (intervals members, rest)
      (readSet start state pos (t ++ ']' :: rest)) := by
  fun_induction intervals members generalizing pos state t with
  | case1 =>
    obtain rfl := spelled
    rw [closes rfl]
    exact (OkWhen.ok _).congr (iff_true_intro fun _ h => nomatch h)
  | case2 first last more ih =>
    obtain ⟨written, hw, rfl⟩ := spelled
    simp only [List.flatMap_cons, List.append_assoc]
    rw [readSet_of_take hw (fresh _),
      readSet_of_take (writtenAs_escapeMember _) (take_hyphen _ rfl)]
    by_cases hle : first ≤ last
    · rw [readSet_of_take (writtenAs_escapeMember _) (take_range hle)]
      refine OkWhen.congr ?_ (ascending_cons_iff.trans (and_iff_right hle))
      exact okWhen_prepend [] (okWhen_prepend [] (okWhen_prepend [⟨first, last⟩]
        (ih (spells_escaped more) fresh_finished fun _ => rfl)))
    · rw [readSet_of_fault (writtenAs_escapeMember _) (take_badRange hle)]
      exact ⟨fun h => absurd (ascending_cons_iff.mp h).1 hle, fun _ => ⟨_, rfl⟩⟩
  | case3 c more h ih =>
    obtain ⟨written, hw, rfl⟩ := spelled
    rw [List.append_assoc, readSet_of_take hw (fresh _), readSet_pending _ _ _ _ _ h]
    refine OkWhen.congr ?_ (ascending_cons_iff.trans (and_iff_right (Char.le_refl c)))
    exact okWhen_prepend [] (okWhen_prepend [⟨c, c⟩]
      (ih (spells_escaped more) fresh_finished fun _ => rfl))

/-- The token is read by itself: a class has a member left to read when a circumflex in front of
its members is taken for a negation. -/
def Token.SelfContained : Token → Prop
  | .charClass false ['^'] => False
  | .charClass _ members => members ≠ []
  | _ => True

/-- The item that a token is read back as. -/
def Token.item (reach : Reach) : Token → Item
  | .literal c => .one (.char c)
  | .anyChar => .one .any
  | .anyRun => .run reach
  | .charClass negated members => .one (.oneOf (classSet negated members))

theorem splitNegation_of_head {t : Text} (h : t.head? ≠ some '^') :
    splitNegation t = (false, t) := by
  unfold splitNegation
  split
  · exact absurd rfl h
  · rfl

/-- What a class writes after its bracket splits into its negation and the members of its set. -/
theorem splitNegation_class {negated : Bool} {members : Text}
    (h : (Token.charClass negated members).SelfContained) (rest : Text) :
    ∃ negation inner, inner ≠ [] ∧ classSet negated members = ⟨negation, intervals inner⟩ ∧
      splitNegation ((if negated then ['^'] else []) ++ members.flatMap escapeMember ++ rest) =
        (negation, inner.flatMap escapeMember ++ rest) := by
  cases negated with
  | true =>
    have hm : members ≠ [] := by simpa [Token.SelfContained] using h
    exact ⟨true, members, hm, rfl, rfl⟩
  | false =>
    match members, h with
    | c :: more, h =>
      by_cases hc : c = '^'
      · subst c
        cases more with
        | nil => exact h.elim
        | cons c inner => exact ⟨true, c :: inner, List.cons_ne_nil _ _, rfl, rfl⟩
      · refine ⟨false, c :: more, List.cons_ne_nil _ _, by simp [classSet, hc], ?_⟩
        rw [List.flatMap_cons]
        simpa using splitNegation_of_head (head?_escapeMember_append (by decide) hc _)

/-- A class is read as the item for its set. -/
theorem readBracket_class {negated : Bool} {members : Text}
    (h : (Token.charClass negated members).SelfContained) (pos : Nat) (rest : Text) :
    OkWhen (Token.charClass negated members).Ordered
      (.one (.oneOf (classSet negated members)), rest)
      (readBracket pos
        ((if negated then ['^'] else []) ++ members.flatMap escapeMember ++ ']' :: rest)) := by
  obtain ⟨negation, inner, hne, hset, hs⟩ := splitNegation_class h (']' :: rest)
  rw [readBracket, hs, Token.Ordered, hset]
  exact OkWhen.map _
    (readSet_members (spells_escaped inner) rest fresh_opened fun e => absurd e hne)

/-- A text that makes no run of a dot before it, nor a shorter one of a run. -/
def RepeatsNothing (t : Text) : Prop :=
  ∀ c, t.head? = some c → c ≠ '*' ∧ c ≠ '?'

theorem readDot_any {t : Text} (h : RepeatsNothing t) : readDot t = (.one .any, t) := by
  unfold readDot
  split
  · exact absurd rfl (h '*' rfl).1
  · exact absurd rfl (h '*' rfl).1
  · rfl

theorem readDot_run (reach : Reach) {t : Text} (h : RepeatsNothing t) :
    readDot ('*' :: ((if reach = .shortest then ['?'] else []) ++ t)) = (.run reach, t) := by
  cases reach with
  | shortest => rfl
  | longest =>
    cases t with
    | nil => rfl
    | cons c t =>
      have hc : c ≠ '?' := (h c rfl).2
      simp [readDot, hc]

/-- An escaped code point is read as itself. -/
theorem readItem_escape (c : Char) (rest : Text) :
    ∃ d t, escape c ++ rest = d :: t ∧
      ∀ pos, readItem pos d t = .ok (.one (.char c), rest) := by
  by_cases hc : isSpecial c
  · have hz : c ≠ 'Z' := by
      rintro rfl
      exact absurd hc (by decide)
    refine ⟨'\\', c :: rest, by simp [escape, hc], fun pos => ?_⟩
    simp [readItem, readEscape, hz]
  · refine ⟨c, rest, by simp [escape, hc], fun pos => ?_⟩
    have hd : c ≠ '.' ∧ c ≠ '\\' ∧ c ≠ '[' ∧ c ≠ '^' := by
      refine ⟨?_, ?_, ?_, ?_⟩ <;> rintro rfl <;> exact hc (by decide)
    simp [readItem, hd]

theorem readItem_bracket (pos : Nat) (t : Text) : readItem pos '[' t = readBracket pos t := by
  rw [readItem, if_neg (by decide), if_neg (by decide), if_pos rfl]

/-- What a token writes begins with a code point that leads to its item. -/
theorem readItem_token {token : Token} (h : token.SelfContained) (reach : Reach) {rest : Text}
    (hrest : RepeatsNothing rest) :
    ∃ c t, token.regexText reach ++ rest = c :: t ∧
      ∀ pos, OkWhen token.Ordered (token.item reach, rest) (readItem pos c t) := by
  cases token with
  | literal c =>
    obtain ⟨d, t, ht, hread⟩ := readItem_escape c rest
    exact ⟨d, t, ht, fun pos => by rw [hread]; exact OkWhen.ok _⟩
  | anyChar =>
    refine ⟨'.', rest, rfl, fun pos => ?_⟩
    rw [readItem, if_pos rfl, readDot_any hrest]
    exact OkWhen.ok _
  | anyRun =>
    refine ⟨'.', '*' :: ((if reach = .shortest then ['?'] else []) ++ rest), rfl, fun pos => ?_⟩
    rw [readItem, if_pos rfl, readDot_run reach hrest]
    exact OkWhen.ok _
  | charClass negated members =>
    refine ⟨'[', _, rfl, fun pos => ?_⟩
    rw [readItem_bracket]
    simpa [Token.item] using readBracket_class h pos rest

theorem repeatsNothing_token (reach : Reach) (token : Token) (t : Text) :
    RepeatsNothing (token.regexText reach ++ t) := by
  intro c hc
  cases token with
  | literal d =>
    by_cases hd : isSpecial d
    · simp [Token.regexText, escape, hd] at hc
      subst c
      decide
    · simp [Token.regexText, escape, hd] at hc
      subst c
      constructor <;> rintro rfl <;> exact hd (by decide)
  | anyChar => cases hc; decide
  | anyRun => cases hc; decide
  | charClass negated members => cases hc; decide

theorem repeatsNothing_tokens (reach : Reach) (tokens : List Token) {t : Text}
    (ht : RepeatsNothing t) : RepeatsNothing (tokens.flatMap (Token.regexText reach) ++ t) := by
  cases tokens with
  | nil => exact ht
  | cons token tokens =>
    rw [List.flatMap_cons, List.append_assoc]
    exact repeatsNothing_token reach token _

theorem readItems_cons (pos : Nat) (c : Char) (t : Text) :
    readItems pos (c :: t) =
      match readItem pos c t with
      | .error fault => .error fault
      | .ok (item, after) =>
        (readItems (pos + (t.length + 1 - after.length)) after).map (item :: ·) := by
  rw [readItems]
  split <;> simp_all

/-- An item is read, and then the items behind it. -/
theorem okWhen_readItems_cons {p q : Prop} {pos : Nat} {c : Char} {t after : Text} {item : Item}
    {items : List Item} (hitem : OkWhen p (item, after) (readItem pos c t))
    (hitems : ∀ pos, OkWhen q items (readItems pos after)) :
    OkWhen (p ∧ q) (item :: items) (readItems pos (c :: t)) := by
  rw [readItems_cons]
  by_cases hp : p
  · rw [hitem.1 hp]
    exact ((hitems _).map _).congr (and_iff_right hp)
  · obtain ⟨fault, hf⟩ := hitem.2 hp
    rw [hf]
    exact ⟨fun h => absurd h.1 hp, fun _ => ⟨fault, rfl⟩⟩

/-- A lone circumflex is all that keeps a class from being read by itself. -/
theorem Token.WellFormed.selfContained {token : Token} (h : token.WellFormed) :
    token.SelfContained ∨ token = .charClass false ['^'] := by
  cases token with
  | charClass negated members =>
    by_cases hl : negated = false ∧ members = ['^']
    · exact .inr (by rw [hl.1, hl.2])
    · refine .inl ?_
      have hne : members ≠ [] := h.1
      unfold Token.SelfContained
      split <;> simp_all
  | _ => exact .inl trivial

theorem selfContained_of_mem_tokenize {pattern : Text} {token : Token}
    (h : token ∈ tokenize pattern) : token.SelfContained ∨ token = .charClass false ['^'] :=
  (wellFormed_tokenize pattern).wellFormed h |>.selfContained

end Glob

end ParameterExpansion
