import Mathlib.Data.List.Basic
import ParameterExpansion.Proofs.Evaluator.Substitution

/-!
Substitution in two texts one after the other. Unless the end of the first and the beginning of
the second open an expansion together, results and reports are joined in order; and what fails in
the first text fails before anything in the second is looked at.
-/
namespace ParameterExpansion.Evaluator

open Template

/-- A dollar sign at the end of one text does not meet an opening brace that begins the next. -/
def Apart (a b : Text) : Prop :=
  ¬(a.getLast? = some '$' ∧ b.head? = some '{')

theorem Apart.of_append (front : Text) {a b : Text} (h : Apart (front ++ a) b) : Apart a b := by
  rintro ⟨ha, hb⟩
  exact h ⟨by rw [List.getLast?_append, ha, Option.some_or], hb⟩

/-- Nothing is opened by a text that comes behind another one but apart from it. -/
theorem opening?_append {c : Char} {rest b : Text} (h : opening? (c :: rest) = none)
    (hb : rest ≠ [] ∨ Apart [c] b) : opening? (c :: (rest ++ b)) = none := by
  rw [opening?_eq_none_iff] at h ⊢
  cases rest with
  | nil =>
    have hapart : Apart [c] b := hb.resolve_left fun hne => hne rfl
    rintro ⟨inside, hi⟩
    cases hi
    exact hapart ⟨rfl, rfl⟩
  | cons d rest =>
    rintro ⟨inside, hi⟩
    cases hi
    exact h ⟨rest, rfl⟩

/-- Where nothing is left open, the runs of two texts are chained. -/
theorem substitute_append_of_closed (e : Evaluator) {a b : Text} (hab : Apart a b)
    (ha : (scan a).unclosed = none) :
    e.substitute (a ++ b) =
      (e.substitute a).andThen fun x => (e.substitute b).andThen fun y => pure (x ++ y) := by
  induction a using scan_induction with
  | nil => exact (Run.andThen_pure _).symm
  | literal c rest ho ih =>
    rw [scan_literal ho, unclosed_consLiteral] at ha
    have hnext : opening? (c :: (rest ++ b)) = none := by
      refine opening?_append ho ?_
      cases rest with
      | nil => exact .inr hab
      | cons d rest => exact .inl (List.cons_ne_nil _ _)
    rw [List.cons_append, substitute_literal e hnext, substitute_literal e ho,
      ih (Apart.of_append [c] hab) ha]
    simp only [Run.andThen_assoc, Run.pure_andThen]
    rfl
  | unclosed inside hs =>
    rw [scan_unclosed hs] at ha
    cases ha
  | closed body after hb ih =>
    rw [scan_closed hb] at ha
    have hafter : Apart after b :=
      Apart.of_append ('$' :: '{' :: (body ++ ['}'])) (by simpa using hab)
    have hsplit : '$' :: '{' :: (body ++ '}' :: after) ++ b =
        '$' :: '{' :: (body ++ '}' :: (after ++ b)) := by simp
    rw [hsplit, substitute_closed e hb, substitute_closed e hb, ih hafter ha]
    simp only [Run.andThen_assoc, Run.pure_andThen, List.append_assoc]

/-- A failure that is not an expansion left open comes before all that follows. -/
theorem substitute_append_of_error (e : Evaluator) {a : Text} {err : Error}
    (ha : (e.substitute a).outcome = .error err) (herr : err ≠ .unmatchedBrace) (b : Text) :
    e.substitute (a ++ b) = e.substitute a := by
  induction a using scan_induction with
  | nil => cases ha
  | literal c rest ho ih =>
    have hrest : (e.substitute rest).outcome = .error err := by
      rw [substitute_literal e ho, Run.andThen_eq_error_iff] at ha
      rcases ha with h | ⟨x, -, h⟩
      · exact h
      · cases h
    have hne : rest ≠ [] := by
      rintro rfl
      cases hrest
    rw [List.cons_append, substitute_literal e (opening?_append ho (.inl hne)),
      substitute_literal e ho, ih hrest]
  | unclosed inside hs =>
    rw [substitute_unclosed e hs] at ha
    cases ha
    exact absurd rfl herr
  | closed body after hb ih =>
    have hsplit : '$' :: '{' :: (body ++ '}' :: after) ++ b =
        '$' :: '{' :: (body ++ '}' :: (after ++ b)) := by simp
    rw [hsplit, substitute_closed e hb, substitute_closed e hb]
    rw [substitute_closed e hb, Run.andThen_eq_error_iff] at ha
    rcases ha with h | ⟨x, -, h⟩
    · rw [Run.andThen_of_error h, Run.andThen_of_error h]
    · rw [Run.andThen_eq_error_iff] at h
      rcases h with h | ⟨y, -, h⟩
      · rw [ih h]
      · cases h

/-- Substitution takes texts that follow each other one after the other, reports and failures
included. The shorter way for a text without expansions makes no difference, and the result of an
expansion is final. -/
theorem substitute_append (e : Evaluator) (a b : Text) :
    (Apart a b → ∀ ra, (e.substitute a).outcome = .ok ra →
        (e.substitute (a ++ b)).outcome = (e.substitute b).outcome.map (ra ++ ·) ∧
          (e.substitute (a ++ b)).reports =
            (e.substitute a).reports ++ (e.substitute b).reports) ∧
    (∀ err, (e.substitute a).outcome = .error err → err ≠ .unmatchedBrace →
      e.substitute (a ++ b) = e.substitute a) ∧
    e.substitute a = e.expandTemplate (scan a) ∧
    ∀ body, Balanced body → e.substitute (Piece.expansion body).render = e.expand body := by
  refine ⟨?_, fun err ha herr => e.substitute_append_of_error ha herr b, e.substitute_eq a, ?_⟩
  · intro hab ra ha
    rw [e.substitute_append_of_closed hab (unclosed_of_substitute_ok ha), Run.andThen_of_ok ha]
    cases hb : (e.substitute b).outcome with
    | error err =>
      rw [Run.andThen_of_error hb]
      exact ⟨rfl, rfl⟩
    | ok rb =>
      rw [Run.andThen_of_ok hb]
      exact ⟨rfl, congrArg _ (List.append_nil _)⟩
  · intro body hb
    have hafter : ∀ s, (e.substitute []).andThen (fun t => pure (s ++ t)) = pure s := by
      intro s
      rw [substitute_nil, Run.pure_andThen, List.append_nil]
    have h := e.substitute_closed hb []
    simp only [hafter] at h
    exact h.trans (Run.andThen_pure _)

/-- A value that looks like an expansion is left as it is, and the second text reports a value that
it misses. -/
theorem substitute_append_reporting :
    Apart "a$b$\x7bX\x7d".toList "\x7b$\x7bY:?\x7d".toList ∧
      (substitute ⟨⟨[(['X'], some "$\x7bY\x7d".toList)]⟩, false, false, []⟩
        ("a$b$\x7bX\x7d".toList ++ "\x7b$\x7bY:?\x7d".toList)).outcome =
          .ok "a$b$\x7bY\x7d\x7b".toList ∧
      (substitute ⟨⟨[(['X'], some "$\x7bY\x7d".toList)]⟩, false, false, []⟩
        ("a$b$\x7bX\x7d".toList ++ "\x7b$\x7bY:?\x7d".toList)).reports =
          ["Y: parameter null or not set".toList] := by
  have hab : Apart "a$b$\x7bX\x7d".toList "\x7b$\x7bY:?\x7d".toList := by
    unfold Apart
    decide
  obtain ⟨ho, hr⟩ := (substitute_append ⟨⟨[(['X'], some "$\x7bY\x7d".toList)]⟩, false, false, []⟩
    _ _).1 hab "a$b$\x7bY\x7d".toList (by decide +kernel)
  exact ⟨hab, ho.trans (by decide +kernel), hr.trans (by decide +kernel)⟩

end ParameterExpansion.Evaluator
