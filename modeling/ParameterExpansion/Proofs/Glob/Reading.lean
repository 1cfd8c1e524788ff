import ParameterExpansion.Proofs.Glob.Translation

/-!
How every pattern is read, also one with a lone circumflex as a class. The set that such a class
opens is not closed by its own bracket: what the next tokens write is taken into it, up to the
closing bracket of the next class, and if there is none the set is never closed. Whether a pattern
can be read is decided by its tokens; the reach of its runs and the end that it is tied to have no
part in it.
-/
namespace ParameterExpansion.Glob

open Regex

namespace Token

def isClass : Token → Bool
  | .charClass _ _ => true
  | _ => false

/-- The members that a token other than a class adds to a set that it is taken into. -/
def taken (reach : Reach) : Token → Text
  | .literal c => [c]
  | .anyChar => ['.']
  | .anyRun => '.' :: '*' :: if reach = .shortest then ['?'] else []
  | .charClass _ _ => []

end Token

/-- The members that a class adds to a set that its bracket closes: all that it writes. -/
def closingMembers (negated : Bool) (members : Text) : Text :=
  '[' :: (if negated then ['^'] else []) ++ members

/-- Each of the code points as an interval by itself. -/
def singles (t : Text) : List Interval :=
  t.map fun c => ⟨c, c⟩

/-- Every range of the tokens is in order, and every set is closed; `opened` tells whether a lone
circumflex has opened one. -/
def Readable : Bool → List Token → Prop
  | opened, [] => opened = false
  | true, .charClass negated members :: tokens =>
    Ascending (intervals (closingMembers negated members)) ∧ Readable false tokens
  | true, _ :: tokens => Readable true tokens
  | false, .charClass false ['^'] :: tokens => Readable true tokens
  | false, token :: tokens => token.Ordered ∧ Readable false tokens

/-- The items that tokens are read as; `opened` holds what has been taken into the set that a lone
circumflex has opened. -/
def readAs (reach : Reach) : Option Text → List Token → List Item
  | _, [] => []
  | some taken, .charClass negated members :: tokens =>
    .one (.oneOf ⟨true, singles taken ++ intervals (closingMembers negated members)⟩) ::
      readAs reach none tokens
  | some taken, token :: tokens => readAs reach (some (taken ++ token.taken reach)) tokens
  | none, .charClass false ['^'] :: tokens => readAs reach (some [']']) tokens
  | none, token :: tokens => token.item reach :: readAs reach none tokens

/-! ### Tokens before, in and after an open set -/

section Tokens

variable {front tokens : List Token} {negated : Bool} {members : Text}

theorem readable_token {token : Token} (h : token ≠ .charClass false ['^']) :
    Readable false (token :: tokens) ↔ token.Ordered ∧ Readable false tokens := by
  rw [Readable]
  rintro rfl
  exact h rfl

theorem readAs_token {token : Token} (h : token ≠ .charClass false ['^']) (reach : Reach) :
    readAs reach none (token :: tokens) = token.item reach :: readAs reach none tokens := by
  rw [readAs]
  rintro rfl
  exact h rfl

theorem readable_taken {token : Token} (h : token.isClass = false) :
    Readable true (token :: tokens) ↔ Readable true tokens := by
  cases token with
  | charClass negated members => cases h
  | _ => rfl

theorem readAs_taken {token : Token} (h : token.isClass = false) (reach : Reach) (taken : Text) :
    readAs reach (some taken) (token :: tokens) =
      readAs reach (some (taken ++ token.taken reach)) tokens := by
  cases token with
  | charClass negated members => cases h
  | _ => rfl

theorem not_readable_unclosed (h : ∀ token ∈ front, token.isClass = false) :
    ¬Readable true front := by
  induction front with
  | nil => simp [Readable]
  | cons token front ih =>
    rw [readable_taken (h token List.mem_cons_self)]
    exact ih fun t ht => h t (List.mem_cons_of_mem _ ht)

theorem readable_closed (h : ∀ token ∈ front, token.isClass = false) :
    Readable true (front ++ .charClass negated members :: tokens) ↔
      Ascending (intervals (closingMembers negated members)) ∧ Readable false tokens := by
  induction front with
  | nil => rfl
  | cons token front ih =>
    rw [List.cons_append, readable_taken (h token List.mem_cons_self)]
    exact ih fun t ht => h t (List.mem_cons_of_mem _ ht)

theorem readAs_closed (h : ∀ token ∈ front, token.isClass = false) (reach : Reach)
    (taken : Text) :
    readAs reach (some taken) (front ++ .charClass negated members :: tokens) =
      .one (.oneOf ⟨true, singles (taken ++ front.flatMap (Token.taken reach)) ++
        intervals (closingMembers negated members)⟩) :: readAs reach none tokens := by
  induction front generalizing taken with
  | nil => simp [readAs]
  | cons token front ih =>
    rw [List.cons_append, readAs_taken (h token List.mem_cons_self),
      ih fun t ht => h t (List.mem_cons_of_mem _ ht), List.flatMap_cons, List.append_assoc]

end Tokens

/-- Tokens are read one after the other, or, from a lone circumflex on, up to the next class. -/
@[elab_as_elim]
theorem reading_induction {motive : List Token → Prop} (nil : motive [])
    (token : ∀ token tokens, token ≠ .charClass false ['^'] → motive tokens →
      motive (token :: tokens))
    (unclosed : ∀ front, (∀ token ∈ front, token.isClass = false) →
      motive (.charClass false ['^'] :: front))
    (closed : ∀ front negated members tokens, (∀ token ∈ front, token.isClass = false) →
      motive tokens →
      motive (.charClass false ['^'] :: (front ++ .charClass negated members :: tokens)))
    (tokens : List Token) : motive tokens := by
  induction hn : tokens.length using Nat.strongRecOn generalizing tokens with
  | ind n ih =>
    subst hn
    cases tokens with
    | nil => exact nil
    | cons first rest =>
      by_cases hf : first = .charClass false ['^']
      · subst first
        have hfront : ∀ t ∈ rest.takeWhile (!·.isClass), t.isClass = false := by
          intro t ht
          simpa using List.all_eq_true.mp List.all_takeWhile t ht
        have hsplit : rest.takeWhile (!·.isClass) ++ rest.dropWhile (!·.isClass) = rest :=
          List.takeWhile_append_dropWhile
        cases hd : rest.dropWhile (!·.isClass) with
        | nil =>
          rw [hd, List.append_nil] at hsplit
          rw [← hsplit]
          exact unclosed _ hfront
        | cons next back =>
          have hnext := List.head?_dropWhile_not (!·.isClass) rest
          rw [hd] at hsplit hnext
          rw [← hsplit]
          cases next with
          | charClass negated members =>
            refine closed _ negated members back hfront (ih back.length ?_ back rfl)
            rw [← hsplit]
            simp only [List.length_cons, List.length_append]
            omega
          | _ => simp [Token.isClass] at hnext
      · exact token first rest hf (ih rest.length (by simp) rest rfl)

/-! ### What an open set takes in -/

theorem readSet_single {start pos : Nat} {state : SetState} {c : Char} {written t : Text}
    (hw : WrittenAs c written) (fresh : state.Fresh) (ht : t.head? ≠ some '-') :
    readSet start state pos (written ++ t) =
      (readSet start .finished (pos + written.length) t).map fun (intervals, after) =>
        (⟨c, c⟩ :: intervals, after) := by
  rw [readSet_of_take hw (fresh _), readSet_pending_of_head _ _ _ ht]
  cases readSet start .finished (pos + written.length) t <;> rfl

/-- Code points without a meaning of their own are taken in as they stand. -/
theorem readSet_plain {start pos : Nat} {w t : Text}
    (hw : ∀ c ∈ w, c ≠ '\\' ∧ c ≠ ']' ∧ c ≠ '-') (ht : t.head? ≠ some '-') :
    readSet start .finished pos (w ++ t) =
      (readSet start .finished (pos + w.length) t).map fun (intervals, after) =>
        (singles w ++ intervals, after) := by
  induction w generalizing pos with
  | nil => cases h : readSet start .finished pos t <;> simp [h, singles, Except.map]
  | cons c w ih =>
    obtain ⟨hb, hc, -⟩ := hw c List.mem_cons_self
    have hnext : (w ++ t).head? ≠ some '-' := by
      cases w with
      | nil => exact ht
      | cons d w => simpa using (hw d (by simp)).2.2
    have hpos : pos + [c].length + w.length = pos + (c :: w).length := by
      simp only [List.length_cons, List.length_nil]
      omega
    rw [List.cons_append, ← List.singleton_append,
      readSet_single (.inl ⟨rfl, hb, hc⟩) fresh_finished hnext,
      ih fun d hd => hw d (List.mem_cons_of_mem _ hd), hpos]
    cases readSet start .finished (pos + (c :: w).length) t <;> rfl

theorem writtenAs_escape (c : Char) : WrittenAs c (escape c) := by
  by_cases hc : isSpecial c
  · refine .inr ⟨by simp [escape, hc], ?_⟩
    simp only [isSpecial, List.mem_cons, List.not_mem_nil, or_false, decide_eq_true_eq] at hc
    rcases hc with rfl | rfl | rfl | rfl | rfl | rfl | rfl | rfl | rfl | rfl | rfl | rfl | rfl |
      rfl | rfl | rfl | rfl | rfl | rfl | rfl | rfl | rfl | rfl | rfl <;> decide
  · refine .inl ⟨by simp [escape, hc], ?_, ?_⟩ <;> rintro rfl <;> exact hc (by decide)

theorem head?_regexText_append (reach : Reach) (token : Token) (t : Text) :
    (token.regexText reach ++ t).head? ≠ some '-' := by
  cases token with
  | literal c =>
    by_cases hc : isSpecial c
    · simp [Token.regexText, escape, hc]
    · have : c ≠ '-' := by
        rintro rfl
        exact hc (by decide)
      simpa [Token.regexText, escape, hc] using this
  | _ => simp [Token.regexText]

theorem head?_flatMap_regexText_append (reach : Reach) (tokens : List Token) {t : Text}
    (ht : t.head? ≠ some '-') :
    (tokens.flatMap (Token.regexText reach) ++ t).head? ≠ some '-' := by
  cases tokens with
  | nil => exact ht
  | cons token tokens =>
    rw [List.flatMap_cons, List.append_assoc]
    exact head?_regexText_append reach token _

theorem readSet_token {start pos : Nat} {token : Token} (h : token.isClass = false) (reach : Reach)
    {t : Text} (ht : t.head? ≠ some '-') :
    readSet start .finished pos (token.regexText reach ++ t) =
      (readSet start .finished (pos + (token.regexText reach).length) t).map
        fun (intervals, after) => (singles (token.taken reach) ++ intervals, after) := by
  cases token with
  | charClass negated members => cases h
  | literal c => exact readSet_single (writtenAs_escape c) fresh_finished ht
  | anyChar => exact readSet_plain (by simp [Token.regexText]) ht
  | anyRun => exact readSet_plain (by cases reach <;> simp [Token.regexText]) ht

/-- What tokens other than classes write is taken into an open set. -/
theorem readSet_tokens {start pos : Nat} {front : List Token}
    (h : ∀ token ∈ front, token.isClass = false) (reach : Reach) {t : Text}
    (ht : t.head? ≠ some '-') :
    readSet start .finished pos (front.flatMap (Token.regexText reach) ++ t) =
      (readSet start .finished (pos + (front.flatMap (Token.regexText reach)).length) t).map
        fun (intervals, after) =>
          (singles (front.flatMap (Token.taken reach)) ++ intervals, after) := by
  induction front generalizing pos with
  | nil => cases h : readSet start .finished pos t <;> simp [h, singles, Except.map]
  | cons token front ih =>
    rw [List.flatMap_cons, List.flatMap_cons, List.append_assoc,
      readSet_token (h token List.mem_cons_self) reach (head?_flatMap_regexText_append reach _ ht),
      ih fun t ht => h t (List.mem_cons_of_mem _ ht), List.length_append, Nat.add_assoc]
    cases readSet start .finished _ t <;> simp [singles, Except.map]

/-- The bracket of a class closes an open set, after all that the class writes before it. -/
theorem readSet_class (start pos : Nat) (reach : Reach) (negated : Bool) (members after : Text) :
    OkWhen (Ascending (intervals (closingMembers negated members)))
      (intervals (closingMembers negated members), after)
      (readSet start .finished pos
        ((Token.charClass negated members).regexText reach ++ after)) := by
  have hspell : Spells (closingMembers negated members)
      ('[' :: (if negated then ['^'] else []) ++ members.flatMap escapeMember) := by
    refine ⟨['['], .inl ⟨rfl, by decide, by decide⟩, ?_⟩
    cases negated <;> simp [escapeMember]
  have hset : OkWhen _ _ (readSet start .finished pos _) :=
    readSet_members hspell after fresh_finished (by simp)
  simpa [Token.regexText] using hset

/-- A lone circumflex opens a set with a closing bracket as its first member. -/
theorem readBracket_lone (pos : Nat) {t : Text} (ht : t.head? ≠ some '-') :
    readBracket pos ('^' :: ']' :: t) =
      (readSet pos .finished (pos + 3) t).map fun (intervals, after) =>
        (.one (.oneOf ⟨true, ⟨']', ']'⟩ :: intervals⟩), after) := by
  have h : readSet pos .opened (pos + 2) (']' :: t) =
      (readSet pos .finished (pos + 3) t).map fun (intervals, after) =>
        (⟨']', ']'⟩ :: intervals, after) := by
    rw [readSet]
    · simp only [if_true, SetState.close?, SetState.take]
      rw [readSet_pending_of_head _ _ _ ht]
      cases readSet pos .finished (pos + 2 + 1) t <;> rfl
    · intro _ _ e _
      cases e
  rw [readBracket]
  simp only [splitNegation, List.length_cons]
  rw [show pos + 1 + (t.length + 1 + 1 - (t.length + 1)) = pos + 2 by omega, h]
  cases readSet pos .finished (pos + 3) t <;> rfl

/-! ### Whole patterns -/

/-- A text that ends an expression is read as some items, and closes no set that is still open. -/
structure Ending (t : Text) (items : List Item) : Prop where
  head : t.head? ≠ some '-'
  repeats : RepeatsNothing t
  unclosed : ∀ start pos, ∃ fault, readSet start .finished pos t = .error fault
  read : ∀ pos, readItems pos t = .ok items

theorem ending_nil : Ending [] [] where
  head := by simp
  repeats := by simp [RepeatsNothing]
  unclosed start pos := ⟨_, rfl⟩
  read pos := by rw [readItems]

theorem ending_textEnd : Ending ['\\', 'Z'] [.textEnd] where
  head := by simp
  repeats := by simp [RepeatsNothing]
  unclosed start pos := ⟨_, rfl⟩
  read pos := by simp [readItems_cons, readItem, readEscape, readItems, Except.map]

theorem flatMap_regexText_lone (reach : Reach) (tokens : List Token) (t : Text) :
    (Token.charClass false ['^'] :: tokens).flatMap (Token.regexText reach) ++ t =
      '[' :: '^' :: ']' :: (tokens.flatMap (Token.regexText reach) ++ t) := by
  simp [Token.regexText, escapeMember]

/-- What tokens write can be read if they are readable, whatever the reach of their runs, and then
as their items. -/
theorem readItems_pattern {tokens : List Token}
    (h : ∀ token ∈ tokens, token.SelfContained ∨ token = .charClass false ['^']) (reach : Reach)
    {t : Text} {items : List Item} (ht : Ending t items) (pos : Nat) :
    OkWhen (Readable false tokens) (readAs reach none tokens ++ items)
      (readItems pos (tokens.flatMap (Token.regexText reach) ++ t)) := by
  induction tokens using reading_induction generalizing pos with
  | nil =>
    rw [List.flatMap_nil, List.nil_append, ht.read]
    exact (OkWhen.ok _).congr (iff_true_intro rfl)
  | token token tokens hne ih =>
    have hself := (h token List.mem_cons_self).resolve_right hne
    have hnext := repeatsNothing_tokens reach tokens ht.repeats
    obtain ⟨c, u, hu, hread⟩ := readItem_token hself reach hnext
    rw [List.flatMap_cons, List.append_assoc, hu, readAs_token hne]
    have htail := ih fun t ht => h t (List.mem_cons_of_mem _ ht)
    exact (okWhen_readItems_cons (hread pos) htail).congr (readable_token hne)
  | unclosed front hfront =>
    obtain ⟨fault, hf⟩ := ht.unclosed pos
      (pos + 3 + (front.flatMap (Token.regexText reach)).length)
    have hitem : readItem pos '[' ('^' :: ']' :: (front.flatMap (Token.regexText reach) ++ t)) =
        .error fault := by
      rw [readItem_bracket, readBracket_lone _ (head?_flatMap_regexText_append reach front ht.head),
        readSet_tokens hfront reach ht.head, hf]
      rfl
    refine ⟨fun hr => absurd hr (not_readable_unclosed hfront), fun _ => ⟨fault, ?_⟩⟩
    rw [flatMap_regexText_lone, readItems_cons, hitem]
  | closed front negated members tokens hfront ih =>
    have htail := ih fun t ht => h t (by simp [ht])
    let after := tokens.flatMap (Token.regexText reach) ++ t
    let bracket := (Token.charClass negated members).regexText reach ++ after
    have hbracket : bracket.head? ≠ some '-' := head?_regexText_append reach _ _
    have hitem : OkWhen (Ascending (intervals (closingMembers negated members)))
        (.one (.oneOf ⟨true, singles (']' :: front.flatMap (Token.taken reach)) ++
          intervals (closingMembers negated members)⟩), after)
        (readItem pos '[' ('^' :: ']' :: (front.flatMap (Token.regexText reach) ++ bracket))) := by
      rw [readItem_bracket,
        readBracket_lone _ (head?_flatMap_regexText_append reach front hbracket),
        readSet_tokens hfront reach hbracket]
      exact ((readSet_class _ _ reach negated members after).map _).map _
    have hitems : readAs reach none
        (.charClass false ['^'] :: (front ++ .charClass negated members :: tokens)) = _ :=
      readAs_closed hfront reach [']']
    rw [hitems, flatMap_regexText_lone, List.flatMap_append, List.flatMap_cons, List.append_assoc,
      List.append_assoc]
    exact (okWhen_readItems_cons hitem htail).congr (readable_closed hfront)

/-- The items of a pattern, with the assertion for the end that is tied. -/
def anchoredItems (anchoring : Anchoring) (items : List Item) : List Item :=
  match anchoring with
  | .free => items
  | .atStart => .textStart :: items
  | .atEnd => items ++ [.textEnd]

/-- The expression of a pattern is read as the items of its tokens, tied as it says. -/
theorem readItems_anchoredText (reach : Reach) (anchoring : Anchoring) (pattern : Text) :
    OkWhen (Readable false (tokenize pattern))
      (anchoredItems anchoring (readAs reach none (tokenize pattern)))
      (readItems 0 (anchoredText reach anchoring pattern)) := by
  have hself : ∀ token ∈ tokenize pattern, _ := fun _ => selfContained_of_mem_tokenize
  have hfree : ∀ pos, OkWhen (Readable false (tokenize pattern))
      (readAs reach none (tokenize pattern)) (readItems pos (regexText reach pattern)) := by
    intro pos
    simpa [regexText] using readItems_pattern hself reach ending_nil pos
  cases anchoring with
  | free => exact hfree 0
  | atStart =>
    rw [anchoredText, readItems_cons]
    exact (hfree _).map _
  | atEnd => exact readItems_pattern hself reach ending_textEnd 0

/-- Compiling succeeds exactly if the tokens of the pattern are readable. -/
theorem compile_okWhen_readable (reach : Reach) (anchoring : Anchoring) (pattern : Text) :
    OkWhen (Readable false (tokenize pattern))
      ⟨anchoredText reach anchoring pattern,
        anchoredItems anchoring (readAs reach none (tokenize pattern))⟩
      (compile reach anchoring pattern) := by
  have hr := readItems_anchoredText reach anchoring pattern
  constructor
  · intro ho
    rw [compile, Regex.read, hr.1 ho]
  · intro ho
    obtain ⟨⟨cause, position⟩, hf⟩ := hr.2 ho
    exact ⟨_, by rw [compile, Regex.read, hf]⟩

theorem items_eq_readAs {reach : Reach} {anchoring : Anchoring} {pattern : Text} {regex : Regex}
    (hr : compile reach anchoring pattern = .ok regex) :
    regex.items = anchoredItems anchoring (readAs reach none (tokenize pattern)) := by
  have hw := compile_okWhen_readable reach anchoring pattern
  rw [hw.1 (hw.exists_ok_iff.mp ⟨regex, hr⟩)] at hr
  cases hr
  rfl

/-! ### Patterns without a lone circumflex -/

end ParameterExpansion.Glob
