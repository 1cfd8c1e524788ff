import Mathlib.Data.List.Basic
import ParameterExpansion.Operator.Apply
import ParameterExpansion.Proofs.Glob.Reading

/-!
A bad pattern is bad wherever it stands. Neither the reach of its runs nor the end that it is tied
to matters, and so neither does the operator that has it, its replacement or the value: every
operator with the pattern fails, and with an error that names the pattern, or none does.
-/
namespace ParameterExpansion

open Glob (Readable Token readToken tokenize compile)

/-- The outcome is settled by the pattern: a success if it is readable, and otherwise an error that
names it. -/
def SettledBy (pattern : Text) (outcome : Except Error α) : Prop :=
  Readable false (tokenize pattern) ∧ (∃ a, outcome = .ok a) ∨
    ¬Readable false (tokenize pattern) ∧
      ∃ failure, outcome = .error (.malformed (.badPattern pattern failure))

namespace SettledBy

variable {pattern : Text} {outcome : Except Error α}

theorem map (h : SettledBy pattern outcome) (f : α → β) : SettledBy pattern (outcome.map f) := by
  rcases h with ⟨hr, a, rfl⟩ | ⟨hr, failure, rfl⟩
  · exact .inl ⟨hr, f a, rfl⟩
  · exact .inr ⟨hr, failure, rfl⟩

theorem exists_error_iff (h : SettledBy pattern outcome) :
    (∃ err, outcome = .error err) ↔ ¬Readable false (tokenize pattern) := by
  rcases h with ⟨hr, a, rfl⟩ | ⟨hr, failure, rfl⟩
  · simp [hr]
  · simp [hr]

theorem exists_ok_iff (h : SettledBy pattern outcome) :
    (∃ a, outcome = .ok a) ↔ Readable false (tokenize pattern) := by
  rcases h with ⟨hr, a, rfl⟩ | ⟨hr, failure, rfl⟩
  · simp [hr]
  · simp [hr]

theorem error {err : Error} (h : SettledBy pattern outcome) (he : outcome = .error err) :
    ∃ failure, err = .malformed (.badPattern pattern failure) := by
  rcases h with ⟨hr, a, rfl⟩ | ⟨hr, failure, rfl⟩
  · cases he
  · cases he
    exact ⟨failure, rfl⟩

end SettledBy

theorem compile_settledBy (reach : Reach) (anchoring : Glob.Anchoring) (pattern : Text) :
    SettledBy pattern (compile reach anchoring pattern) := by
  have hw := Glob.compile_okWhen_readable reach anchoring pattern
  by_cases hr : Readable false (tokenize pattern)
  · exact .inl ⟨hr, _, hw.1 hr⟩
  · obtain ⟨err, he⟩ := hw.2 hr
    refine .inr ⟨hr, ?_⟩
    unfold compile at he ⊢
    split at he
    · exact ⟨_, rfl⟩
    · cases he

/-- A bad pattern is quoted in what is said of it. -/
theorem quoted_infix_message (pattern : Text) (failure : Regex.Failure) :
    Text.quoted pattern <:+: (Error.malformed (.badPattern pattern failure)).message := by
  have hreason : Text.quoted pattern <:+: (Malformation.badPattern pattern failure).message := by
    unfold Malformation.message
    exact (List.infix_append "bad pattern ".toList (Text.quoted pattern) ": ".toList).trans
      (List.prefix_append _ failure.message).isInfix
  exact hreason.trans (List.suffix_append "bad expansion; ".toList _).isInfix

namespace Operator

/-- An empty pattern is as good as the one that it stands for. -/
theorem settledBy_casePattern {pattern : Text} {outcome : Except Error α}
    (h : SettledBy (casePattern pattern) outcome) : SettledBy pattern outcome := by
  unfold casePattern at h
  split at h
  · rename_i he
    subst he
    have hempty : Readable false (tokenize []) := by simp [tokenize, Readable]
    have hany : Readable false (tokenize ['?']) := by
      simp [tokenize, readToken, Readable, Token.Ordered]
    exact .inl ⟨hempty, h.exists_ok_iff.mpr hany⟩
  · exact h

theorem apply_settledBy {op : Operator} {pattern : Text} (h : op.pattern? = some pattern)
    (value : Text) : SettledBy pattern (op.apply value) := by
  cases op with
  | remove side reach p =>
    cases h
    cases side <;> exact (compile_settledBy _ _ pattern).map _
  | replace scope p replacement =>
    cases h
    cases scope <;> exact (compile_settledBy _ _ pattern).map _
  | recase target which p =>
    cases h
    exact settledBy_casePattern ((compile_settledBy _ _ _).map _)
  | _ => cases h

/-- Compiling a pattern fails for every reach and anchoring or for none, as its tokens decide.
Operators that have the pattern fail together, with whatever replacements and values, and exactly
where compiling it does; the error is that the pattern is bad, and quotes it. -/
theorem pattern_validity (pattern : Text) :
    (¬Readable false (tokenize pattern) ∧ (∀ reach anchoring, ∃ failure,
        compile reach anchoring pattern = .error (.malformed (.badPattern pattern failure))) ∨
      Readable false (tokenize pattern) ∧
        ∀ reach anchoring, ∃ regex, compile reach anchoring pattern = .ok regex) ∧
    ∀ op : Operator, op.pattern? = some pattern → ∀ value,
      (∀ reach anchoring, (∃ err, op.apply value = .error err) ↔
        ∃ err, compile reach anchoring pattern = .error err) ∧
      (∀ other : Operator, other.pattern? = some pattern → ∀ value',
        (∃ err, op.apply value = .error err) ↔ ∃ err, other.apply value' = .error err) ∧
      ∀ err, op.apply value = .error err →
        (∃ failure, err = .malformed (.badPattern pattern failure)) ∧
          err.category = .malformed ∧ Text.quoted pattern <:+: err.message := by
  refine ⟨?_, fun op hop value => ⟨?_, ?_, ?_⟩⟩
  · by_cases hr : Readable false (tokenize pattern)
    · exact .inr ⟨hr, fun reach anchoring => (compile_settledBy _ _ _).exists_ok_iff.mpr hr⟩
    · refine .inl ⟨hr, fun reach anchoring => ?_⟩
      exact ((compile_settledBy _ _ _).resolve_left fun h => hr h.1).2
  · intro reach anchoring
    rw [(apply_settledBy hop value).exists_error_iff, (compile_settledBy _ _ _).exists_error_iff]
  · intro other hother value'
    rw [(apply_settledBy hop value).exists_error_iff,
      (apply_settledBy hother value').exists_error_iff]
  · intro err he
    obtain ⟨failure, rfl⟩ := (apply_settledBy hop value).error he
    exact ⟨⟨failure, rfl⟩, rfl, quoted_infix_message pattern failure⟩

/-- The set that the first class opens takes in the run and the bracket of the second class, and so
a range from its circumflex. -/
theorem pattern_validity_swallowedRange :
    (Operator.remove .back .shortest "[^]*[!-A]".toList).pattern? = some "[^]*[!-A]".toList ∧
    (Operator.recase .upper .all "[^]*[!-A]".toList).pattern? = some "[^]*[!-A]".toList ∧
    ∃ err, (Operator.recase .upper .all "[^]*[!-A]".toList).apply [] = .error err ∧
      err.category = .malformed ∧ Text.quoted "[^]*[!-A]".toList <:+: err.message := by
  have hremove : (Operator.remove .back .shortest "[^]*[!-A]".toList).apply ['x'] =
      .error (.malformed (.badPattern "[^]*[!-A]".toList
        ⟨"[^].*?[^-A]\\Z".toList, 7, .badRange ['^'] ['A']⟩)) := by decide +kernel
  obtain ⟨-, happly⟩ := pattern_validity "[^]*[!-A]".toList
  obtain ⟨-, hsame, -⟩ := happly (.remove .back .shortest "[^]*[!-A]".toList) rfl ['x']
  obtain ⟨err, he⟩ := (hsame (.recase .upper .all "[^]*[!-A]".toList) rfl []).mp ⟨_, hremove⟩
  obtain ⟨-, -, herror⟩ := happly (.recase .upper .all "[^]*[!-A]".toList) rfl []
  exact ⟨rfl, rfl, err, he, (herror err he).2⟩

end Operator

end ParameterExpansion
