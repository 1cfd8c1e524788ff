import ParameterExpansion.Proofs.Casing.Lowercase
import ParameterExpansion.Proofs.Regex.Wildcard

/-!
Changing the case of a value by a pattern beside changing it as a whole. Without a pattern every
code point is converted by itself, and with a run for pattern the value at once. In upper case the
two cannot be told apart, since each code point has a form of its own. In lower case a capital sigma
at the end of a word shows the difference, and nothing else does.
-/
namespace ParameterExpansion.Operator

open Glob (compile_anyChar compile_anyRun uniform_of_compile)
open Regex

theorem toCase_nil (target : LetterCase) : toCase target [] = [] := by
  cases target <;> rfl

/-! ### What is converted at once -/

/-- Without a pattern every code point is a match of its own. -/
theorem apply_recase_all (target : LetterCase) (value : Text) :
    (Operator.recase target .all []).apply value =
      .ok (value.flatMap fun c => toCase target [c]) := by
  rw [apply, recaseMatches, casePattern, if_pos rfl, compile_anyChar]
  exact congrArg _ (convertAll_of_single (uniform_of_compile compile_anyChar)
    (fullMatch_anyChar_iff _) (toCase target) value)

theorem apply_recase_first (target : LetterCase) (c : Char) (value : Text) :
    (Operator.recase target .first []).apply (c :: value) = .ok (toCase target [c] ++ value) := by
  rw [apply, recaseMatches, casePattern, if_pos rfl, compile_anyChar]
  exact congrArg _ (convertFirst_of_single (uniform_of_compile compile_anyChar)
    (fullMatch_anyChar_iff _) (toCase target) c value)

/-- A run is the whole value, whether all matches are converted or the first one. -/
theorem apply_recase_run (target : LetterCase) (which : Occurrence) (value : Text) :
    (Operator.recase target which ['*']).apply value = .ok (toCase target value) := by
  have hu := uniform_of_compile compile_anyRun
  rw [apply, recaseMatches, casePattern, if_neg (List.cons_ne_nil _ _), compile_anyRun]
  cases which with
  | first => exact congrArg _ (convertFirst_of_all hu (fullMatch_anyRun _) _ value)
  | all => exact congrArg _ (convertAll_of_all hu (fullMatch_anyRun _) (toCase_nil target) value)

/-- Upper case is taken code point by code point. -/
theorem flatMap_upper (t : Text) : (t.flatMap fun c => toCase .upper [c]) = Text.upper t := by
  simp only [toCase, Text.upper, List.flatMap_singleton]

theorem apply_recase_upper_first (value : Text) :
    (Operator.recase .upper .first []).apply value = .ok (capitalize value) := by
  cases value with
  | nil => decide +kernel
  | cons c value => exact apply_recase_first .upper c value

/-- Changing the case of matches and of the value as a whole agree: in upper case for all code
points and for a run, for the first code point, and in lower case for a run. -/
theorem recase_eq_transformation (value : Text) :
    ((Operator.recase .upper .all []).apply value = .ok (Text.upper value) ∧
      (Operator.recase .upper .all ['*']).apply value = .ok (Text.upper value) ∧
      (Operator.recase .upper .first ['*']).apply value = .ok (Text.upper value) ∧
      (Operator.transformation ['U']).apply value = .ok (Text.upper value)) ∧
    ((Operator.recase .upper .first []).apply value = .ok (capitalize value) ∧
      (Operator.transformation ['u']).apply value = .ok (capitalize value)) ∧
    (Operator.recase .lower .all ['*']).apply value = .ok (Text.lower value) ∧
      (Operator.recase .lower .first ['*']).apply value = .ok (Text.lower value) ∧
      (Operator.transformation ['L']).apply value = .ok (Text.lower value) := by
  refine ⟨⟨?_, ?_, ?_, rfl⟩, ⟨apply_recase_upper_first value, rfl⟩, ?_, ?_, rfl⟩
  · rw [apply_recase_all, flatMap_upper]
  · exact apply_recase_run .upper .all value
  · exact apply_recase_run .upper .first value
  · exact apply_recase_run .lower .all value
  · exact apply_recase_run .lower .first value

/-- In lower case both ways give a result with one part for each code point. The parts are those of
the code points by themselves, but as a whole the value has the final form for every capital sigma
that ends a word; so the two results are the same exactly if there is none. -/
theorem recase_lower_all_eq_iff (value : Text) :
    (Operator.recase .lower .all []).apply value =
      .ok (value.map fun c => Text.lower [c]).flatten ∧
    (Operator.transformation ['L']).apply value = .ok (value.mapIdx value.lowerAt).flatten ∧
    ((Operator.recase .lower .all []).apply value = (Operator.transformation ['L']).apply value ↔
      ∀ i, value[i]? = some capitalSigma → ¬value.EndsWord i) := by
  have heach : (Operator.recase .lower .all []).apply value =
      .ok (value.map fun c => Text.lower [c]).flatten := apply_recase_all .lower value
  have hwhole : (Operator.transformation ['L']).apply value = .ok (Text.lower value) := rfl
  refine ⟨heach, hwhole.trans (congrArg _ (Text.lower_eq_flatten value)), ?_⟩
  rw [heach, hwhole, Except.ok.injEq, Text.flatten_map_lower_eq_iff]

/-- The sigma after another capital letter is a final one as part of the value alone. -/
theorem recase_lower_all_ne_transformation :
    (Operator.recase .lower .all []).apply "ΑΣ".toList = .ok "ασ".toList ∧
    (Operator.transformation ['L']).apply "ΑΣ".toList = .ok "ας".toList ∧
    (Operator.recase .lower .all []).apply "ΑΣ".toList ≠
      (Operator.transformation ['L']).apply "ΑΣ".toList := by
  decide +kernel

end ParameterExpansion.Operator
