import ParameterExpansion.Expansion.Basic
import ParameterExpansion.Proofs.Evaluator.Evaluation
import ParameterExpansion.Proofs.Operator.Pattern

/-!
What the application of an operator can fail for. Its pattern is bad, or there is no case for the
operator, and that is so for no operator that is well formed and has to do with values.
-/
namespace ParameterExpansion.Operator

/-- Nothing is made of a value: the operator goes by whether there is one, or it is a transformation
with an unknown letter. -/
inductive Ineffective : Operator → Prop where
  | missing {op : Operator} (h : op.kind.toleratesMissing = true) : Ineffective op
  | unknown {letter : Text} (h : ∀ c ∈ transformationLetters, letter ≠ [c]) :
      Ineffective (.transformation letter)

theorem transformWhole_eq_none_iff {letter value : Text} :
    transformWhole letter value = none ↔ ∀ c ∈ transformationLetters, letter ≠ [c] := by
  unfold transformWhole
  split <;> simp_all [transformationLetters]

theorem error_of_apply {op : Operator} {value : Text} {err : Error}
    (h : op.apply value = .error err) :
    (∃ pattern failure, err = .malformed (.badPattern pattern failure)) ∨
      op.Ineffective ∧ ∃ field operand, err = noEffect op.kind field operand := by
  cases hp : op.pattern? with
  | some pattern =>
    obtain ⟨failure, rfl⟩ := (apply_settledBy hp value).error h
    exact .inl ⟨pattern, failure, rfl⟩
  | none =>
    cases op with
    | bare | substring => cases h
    | fallback | alternate | require =>
      cases h
      exact .inr ⟨.missing rfl, _, _, rfl⟩
    | transformation letter =>
      simp only [apply] at h
      split at h
      · cases h
      · rename_i hnone
        cases h
        exact .inr ⟨.unknown (transformWhole_eq_none_iff.mp hnone), _, _, rfl⟩
    | remove | replace | recase => cases hp

/-- An operator that a body can have, and that is not for missing values, makes something of every
value. -/
theorem WellFormed.not_ineffective {op : Operator} (hw : op.WellFormed)
    (ht : op.kind.toleratesMissing = false) : ¬op.Ineffective := by
  intro h
  cases h with
  | missing h =>
    rw [ht] at h
    cases h
  | unknown h =>
    obtain ⟨c, hc, rfl⟩ := hw
    exact h c hc rfl

end ParameterExpansion.Operator
