import ParameterExpansion.Glob.Token

/-!
Tokenizing and rendering patterns. Rendering the tokens of a pattern gives the pattern back, and the
lists of tokens that patterns have are told apart by what stands next to each bracket: a class ends
at the first closing bracket behind its first member, so an opening bracket that is no class has
none to end at, however far the pattern goes on. Everything about one token is in
`readToken_spec` and `readToken_render`, and each direction of the round trip follows from one of
them by induction.
-/
namespace ParameterExpansion.Glob

/-- The text without a given code point in front, if that is there. -/
def pass (c : Char) : Text → Text
  | [] => []
  | d :: rest => if d = c then rest else d :: rest

/-- The text ends no class that is opened before it: behind an exclamation mark and a closing
bracket in front, if they are there, it has no closing bracket. -/
def Unclosed (t : Text) : Prop :=
  ']' ∉ pass ']' (pass '!' t)

/-- The token is not written like another one. A class has a member, a closing bracket is only ever
the first one, and an exclamation mark in front of the members belongs to them only where another
one negates the class. -/
def Token.WellFormed : Token → Prop
  | .literal c => c ≠ '*' ∧ c ≠ '?'
  | .charClass negated members =>
    members ≠ [] ∧ ']' ∉ members.tail ∧ (negated = false → members.head? ≠ some '!')
  | _ => True

/-- Every token is well formed, and an opening bracket that stands for itself is closed by nothing
that is written behind it. -/
def WellFormedTokens : List Token → Prop
  | [] => True
  | token :: tokens =>
    token.WellFormed ∧ (token = .literal '[' → Unclosed (render tokens)) ∧ WellFormedTokens tokens

theorem WellFormedTokens.wellFormed {tokens : List Token} (h : WellFormedTokens tokens)
    {token : Token} (htoken : token ∈ tokens) : token.WellFormed := by
  induction tokens with
  | nil => cases htoken
  | cons first tokens ih =>
    rcases List.mem_cons.mp htoken with rfl | htoken
    · exact h.1
    · exact ih h.2.2 htoken

instance (t : Text) : Decidable (Unclosed t) :=
  inferInstanceAs (Decidable (_ ∉ _))

instance (token : Token) : Decidable token.WellFormed :=
  match token with
  | .literal _ => inferInstanceAs (Decidable (_ ∧ _))
  | .charClass _ _ => inferInstanceAs (Decidable (_ ∧ _ ∧ _))
  | .anyChar => .isTrue trivial
  | .anyRun => .isTrue trivial

instance decidableWellFormedTokens : (tokens : List Token) → Decidable (WellFormedTokens tokens)
  | [] => .isTrue trivial
  | _ :: tokens =>
    have := decidableWellFormedTokens tokens
    inferInstanceAs (Decidable (_ ∧ _ ∧ _))

/-! ### Members -/

theorem splitClosing_append {members : Text} (h : ']' ∉ members) (after : Text) :
    splitClosing (members ++ ']' :: after) = some (members, after) := by
  induction members with
  | nil => rfl
  | cons c members ih =>
    obtain ⟨hc, hm⟩ := not_or.mp (mt List.mem_cons.mpr h)
    rw [List.cons_append, splitClosing, if_neg (Ne.symm hc), ih hm, Option.map_some]

/-- Members end at the first closing bracket. -/
theorem splitClosing_eq_some_iff {t members after : Text} :
    splitClosing t = some (members, after) ↔ t = members ++ ']' :: after ∧ ']' ∉ members := by
  constructor
  · intro h
    induction t generalizing members with
    | nil => cases h
    | cons c t ih =>
      by_cases hc : c = ']'
      · rw [splitClosing, if_pos hc] at h
        cases h
        rw [hc]
        exact ⟨rfl, List.not_mem_nil⟩
      · rw [splitClosing, if_neg hc] at h
        obtain ⟨⟨m, a⟩, hs, he⟩ := Option.map_eq_some_iff.mp h
        cases he
        obtain ⟨rfl, hm⟩ := ih hs
        exact ⟨rfl, by simp [Ne.symm hc, hm]⟩
  · rintro ⟨rfl, hm⟩
    exact splitClosing_append hm after

theorem splitClosing_eq_none_iff {t : Text} : splitClosing t = none ↔ ']' ∉ t := by
  induction t with
  | nil => simp [splitClosing]
  | cons c t ih =>
    by_cases hc : c = ']'
    · simp [splitClosing, hc]
    · simp [splitClosing, hc, Ne.symm hc, ih]

theorem splitMembers_cons_of_ne {c : Char} (h : c ≠ ']') (t : Text) :
    splitMembers (c :: t) = splitClosing (c :: t) := by
  rw [splitMembers]
  rintro rest hcons
  exact h (List.cons.inj hcons).1

/-- The first member is there, and only it can be a closing bracket. -/
theorem splitMembers_eq_some_iff {t members after : Text} :
    splitMembers t = some (members, after) ↔
      t = members ++ ']' :: after ∧ members ≠ [] ∧ ']' ∉ members.tail := by
  cases t with
  | nil => simp [splitMembers, splitClosing]
  | cons c t =>
    by_cases hc : c = ']'
    · subst c
      rw [splitMembers, Option.map_eq_some_iff]
      constructor
      · rintro ⟨⟨m, a⟩, hs, he⟩
        cases he
        obtain ⟨rfl, hm⟩ := splitClosing_eq_some_iff.mp hs
        exact ⟨rfl, List.cons_ne_nil _ _, hm⟩
      · rintro ⟨ht, hne, hm⟩
        obtain ⟨d, m, rfl⟩ := List.exists_cons_of_ne_nil hne
        cases ht
        exact ⟨(m, after), splitClosing_append hm after, rfl⟩
    · rw [splitMembers_cons_of_ne hc, splitClosing_eq_some_iff]
      refine and_congr_right fun ht => ?_
      cases members with
      | nil => exact absurd (List.cons.inj ht).1 hc
      | cons d m =>
        obtain rfl := (List.cons.inj ht).1
        simp [Ne.symm hc]

theorem splitMembers_eq_none_iff {t : Text} : splitMembers t = none ↔ ']' ∉ pass ']' t := by
  cases t with
  | nil => simp [splitMembers, splitClosing, pass]
  | cons c t =>
    by_cases hc : c = ']'
    · subst c
      rw [splitMembers, Option.map_eq_none_iff, splitClosing_eq_none_iff, pass, if_pos rfl]
    · rw [splitMembers_cons_of_ne hc, splitClosing_eq_none_iff, pass, if_neg hc]

/-! ### Classes -/

theorem readClass_cons_of_ne {c : Char} (h : c ≠ '!') (t : Text) :
    readClass (c :: t) =
      (splitMembers (c :: t)).map fun (members, after) => (.charClass false members, after) := by
  rw [readClass]
  rintro rest hcons
  exact h (List.cons.inj hcons).1

/-- A class is read where it is written, and what is read is well formed. -/
theorem readClass_eq_some_iff {t after : Text} {token : Token} :
    readClass t = some (token, after) ↔
      ∃ negated members, token = .charClass negated members ∧ token.WellFormed ∧
        '[' :: t = token.render ++ after := by
  constructor
  · intro h
    rw [readClass.eq_def] at h
    split at h
    · obtain ⟨⟨m, a⟩, hs, he⟩ := Option.map_eq_some_iff.mp h
      cases he
      obtain ⟨rfl, hne, hm⟩ := splitMembers_eq_some_iff.mp hs
      exact ⟨true, m, rfl, ⟨hne, hm, fun h => nomatch h⟩, by simp [Token.render]⟩
    · rename_i hfirst
      obtain ⟨⟨m, a⟩, hs, he⟩ := Option.map_eq_some_iff.mp h
      cases he
      obtain ⟨rfl, hne, hm⟩ := splitMembers_eq_some_iff.mp hs
      refine ⟨false, m, rfl, ⟨hne, hm, fun _ hhead => ?_⟩, by simp [Token.render]⟩
      obtain ⟨m, rfl⟩ := List.head?_eq_some_iff.mp hhead
      exact hfirst _ rfl
  · rintro ⟨negated, members, rfl, ⟨hne, hm, hfirst⟩, ht⟩
    have hs : splitMembers (members ++ ']' :: after) = some (members, after) :=
      splitMembers_eq_some_iff.mpr ⟨rfl, hne, hm⟩
    cases negated with
    | true =>
      obtain rfl : t = '!' :: (members ++ ']' :: after) := by simpa [Token.render] using ht
      rw [readClass, hs, Option.map_some]
    | false =>
      obtain rfl : t = members ++ ']' :: after := by simpa [Token.render] using ht
      obtain ⟨c, m, rfl⟩ := List.exists_cons_of_ne_nil hne
      have hc : c ≠ '!' := fun he => hfirst rfl (by rw [he]; rfl)
      rw [List.cons_append, readClass_cons_of_ne hc, ← List.cons_append, hs, Option.map_some]

theorem readClass_eq_none_iff {t : Text} : readClass t = none ↔ Unclosed t := by
  cases t with
  | nil => simp [readClass, splitMembers, splitClosing, Unclosed, pass]
  | cons c t =>
    by_cases hc : c = '!'
    · subst c
      rw [readClass, Option.map_eq_none_iff, splitMembers_eq_none_iff, Unclosed, pass, if_pos rfl]
    · have hpass : pass '!' (c :: t) = c :: t := if_neg hc
      rw [readClass_cons_of_ne hc, Option.map_eq_none_iff, splitMembers_eq_none_iff, Unclosed,
        hpass]

/-! ### Tokens -/

theorem readToken_bracket (rest : Text) :
    readToken '[' rest = (readClass rest).getD (.literal '[', rest) := rfl

/-- What is read is written there, and a bracket that is read as itself begins no class. -/
theorem readToken_spec {c : Char} {rest after : Text} {token : Token}
    (h : readToken c rest = (token, after)) :
    c :: rest = token.render ++ after ∧ token.WellFormed ∧
      (token = .literal '[' → Unclosed after) := by
  by_cases hopen : c = '['
  · rw [hopen, readToken_bracket] at h
    rw [hopen]
    cases hr : readClass rest with
    | none =>
      rw [hr, Option.getD_none] at h
      cases h
      exact ⟨rfl, by decide, fun _ => readClass_eq_none_iff.mp hr⟩
    | some read =>
      rw [hr, Option.getD_some] at h
      cases h
      obtain ⟨negated, members, rfl, hw, ht⟩ := readClass_eq_some_iff.mp hr
      exact ⟨ht, hw, fun he => nomatch he⟩
  · unfold readToken at h
    split at h
    · subst c
      cases h
      exact ⟨rfl, trivial, fun he => nomatch he⟩
    split at h
    · subst c
      cases h
      exact ⟨rfl, trivial, fun he => nomatch he⟩
    · rename_i hstar hmark
      cases h
      exact ⟨rfl, ⟨hstar, hmark⟩, fun he => absurd (Token.literal.inj he) hopen⟩

/-- A token is read where it is written, if it is well formed and no bracket that begins a class. -/
theorem readToken_render {c : Char} {rest after : Text} {token : Token}
    (ht : c :: rest = token.render ++ after) (hw : token.WellFormed)
    (hclosed : token = .literal '[' → Unclosed after) : readToken c rest = (token, after) := by
  cases token with
  | literal d =>
    obtain ⟨rfl, rfl⟩ : c = d ∧ rest = after := by simpa [Token.render] using ht
    by_cases hopen : c = '['
    · subst c
      rw [readToken_bracket, readClass_eq_none_iff.mpr (hclosed rfl), Option.getD_none]
    · rw [readToken, if_neg hw.1, if_neg hw.2, if_neg hopen]
  | anyChar =>
    cases ht
    rfl
  | anyRun =>
    cases ht
    rfl
  | charClass negated members =>
    obtain rfl : c = '[' := by simpa [Token.render] using congrArg List.head? ht
    have hr : readClass rest = some (.charClass negated members, after) :=
      readClass_eq_some_iff.mpr ⟨negated, members, rfl, hw, ht⟩
    rw [readToken_bracket, hr, Option.getD_some]

/-! ### Patterns -/

theorem render_cons (token : Token) (tokens : List Token) :
    render (token :: tokens) = token.render ++ render tokens := rfl

theorem tokenize_cons {c : Char} {rest after : Text} {token : Token}
    (h : readToken c rest = (token, after)) : tokenize (c :: rest) = token :: tokenize after := by
  rw [tokenize, h]

theorem render_tokenize (pattern : Text) : render (tokenize pattern) = pattern := by
  fun_induction tokenize pattern with
  | case1 => rfl
  | case2 c rest ih =>
    rw [render_cons, ih]
    exact (readToken_spec rfl).1.symm

theorem wellFormed_tokenize (pattern : Text) : WellFormedTokens (tokenize pattern) := by
  fun_induction tokenize pattern with
  | case1 => trivial
  | case2 c rest ih =>
    obtain ⟨-, hw, hclosed⟩ := @readToken_spec c rest _ _ rfl
    refine ⟨hw, ?_, ih⟩
    rw [render_tokenize]
    exact hclosed

theorem exists_cons_of_render (token : Token) : ∃ c t, token.render = c :: t := by
  cases token <;> exact ⟨_, _, rfl⟩

theorem tokenize_render {tokens : List Token} (h : WellFormedTokens tokens) :
    tokenize (render tokens) = tokens := by
  induction tokens with
  | nil => simp [render, tokenize]
  | cons token tokens ih =>
    obtain ⟨hw, hclosed, htokens⟩ := h
    obtain ⟨c, t, hc⟩ := exists_cons_of_render token
    have ht : c :: (t ++ render tokens) = token.render ++ render tokens := by
      rw [hc, List.cons_append]
    rw [render_cons, ← ht, tokenize_cons (readToken_render ht hw hclosed), ih htokens]

/-- Tokens lose nothing of their pattern, and the lists of tokens that patterns have are exactly the
well-formed ones. -/
theorem tokenize_roundTrip :
    (∀ pattern, render (tokenize pattern) = pattern ∧ WellFormedTokens (tokenize pattern)) ∧
      ∀ tokens, WellFormedTokens tokens → tokenize (render tokens) = tokens :=
  ⟨fun pattern => ⟨render_tokenize pattern, wellFormed_tokenize pattern⟩,
    fun _ => tokenize_render⟩

/-- Two classes whose first member is a closing bracket, one of them with an opening bracket for its
second, and an opening bracket behind which the only closing one would be a first member. -/
theorem tokenize_roundTrip_brackets :
    WellFormedTokens
      [.charClass true [']'], .charClass false "][!".toList, .literal '[', .literal '!',
        .literal ']'] ∧
    tokenize "[!]][][!][!]".toList =
      [.charClass true [']'], .charClass false "][!".toList, .literal '[', .literal '!',
        .literal ']'] := by
  have hw : WellFormedTokens
      [.charClass true [']'], .charClass false "][!".toList, .literal '[', .literal '!',
        .literal ']'] := by decide
  exact ⟨hw, tokenize_roundTrip.2 _ hw⟩

end ParameterExpansion.Glob
