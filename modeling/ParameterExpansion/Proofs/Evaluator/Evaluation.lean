import ParameterExpansion.Evaluator

/-!
The evaluation of an operator by cases. A lookup comes down to two questions: whether the evaluator
refuses the reference, and what the reference leads to in the store. Strictness has a part in the
first question only, and operators for missing values do not ask it. What an evaluation can fail
with is told by both answers.
-/
namespace ParameterExpansion

namespace Store

/-- The non-empty value that a reference leads to: that of its name, or that of the name which its
name has as value. -/
def resolve (s : Store) (ref : Reference) : Option Text :=
  if ref.indirect then (s.content ref.name).bind s.content else s.content ref.name

theorem content_of_not_contains {s : Store} {name : Text} (h : s.contains name = false) :
    s.content name = none := by
  have hget : s.get? name = none := Option.not_isSome_iff_eq_none.mp (Bool.eq_false_iff.mp h)
  rw [content, hget]

end Store

/-- The operators for missing values, which take a failed lookup for a missing value. -/
def Operator.Kind.toleratesMissing : Operator.Kind → Bool
  | .fallback => true
  | .alternate => true
  | .require => true
  | _ => false

namespace Evaluator

/-- Whether a reference cannot be looked up: one through a name without a value, and in strict mode
a direct one to a name that the store does not hold. -/
def refuses (e : Evaluator) (ref : Reference) : Bool :=
  if ref.indirect then (e.values.content ref.name).isNone
  else e.strict && !e.values.contains ref.name

theorem lookup_eq (e : Evaluator) (ref : Reference) :
    e.lookup ref =
      if e.refuses ref then .error (.unbound ref.name) else .ok (e.values.resolve ref) := by
  unfold lookup refuses Store.resolve
  cases ref.indirect with
  | true => cases h : e.values.content ref.name <;> simp
  | false => rfl

/-- A reference that is refused leads nowhere. -/
theorem resolve_of_refuses {e : Evaluator} {ref : Reference} (h : e.refuses ref = true) :
    e.values.resolve ref = none := by
  unfold refuses at h
  unfold Store.resolve
  cases hi : ref.indirect with
  | true =>
    rw [hi, if_pos rfl, Option.isNone_iff_eq_none] at h
    rw [if_pos rfl, h, Option.bind_none]
  | false =>
    simp only [hi, Bool.false_eq_true, if_false, Bool.and_eq_true, Bool.not_eq_true'] at h
    rw [if_neg Bool.false_ne_true, Store.content_of_not_contains h.2]

/-- Where a failure is no different from having no value, only the store decides. -/
theorem lookup?_eq_resolve (e : Evaluator) (ref : Reference) :
    e.lookup? ref = e.values.resolve ref := by
  rw [lookup?, lookup_eq]
  cases h : e.refuses ref with
  | true => exact (resolve_of_refuses h).symm
  | false => rfl

theorem evaluate_of_disabled (e : Evaluator) {op : Operator} (h : op.kind ∈ e.disabled)
    (ref : Reference) : e.evaluate op ref = .fail (.malformed (.disabled op.kind)) := if_pos h

theorem evaluate_of_enabled (e : Evaluator) {op : Operator} (h : op.kind ∉ e.disabled)
    (ref : Reference) : e.evaluate op ref = e.evaluateEnabled op ref := if_neg h

/-- An operator that is not for missing values is applied to what is looked up. -/
theorem evaluateEnabled_of_not_tolerates (e : Evaluator) {op : Operator}
    (h : op.kind.toleratesMissing = false) (ref : Reference) :
    e.evaluateEnabled op ref = e.applyTo op ref := by
  cases op with
  | fallback t => cases h
  | alternate t => cases h
  | require message => cases h
  | _ => rfl

/-- An operator that is not for missing values fails where the reference is refused, and is applied
to what the reference leads to where it is not. -/
theorem evaluate_of_not_tolerates (e : Evaluator) {op : Operator}
    (ht : op.kind.toleratesMissing = false) (hd : op.kind ∉ e.disabled) (ref : Reference) :
    e.evaluate op ref =
      if e.refuses ref then .fail (.unbound ref.name)
      else .ofExcept (op.apply ((e.values.resolve ref).getD [])) := by
  rw [e.evaluate_of_enabled hd, e.evaluateEnabled_of_not_tolerates ht, applyTo, lookup_eq]
  cases e.refuses ref <;> rfl

theorem evaluate_fallback (e : Evaluator) {t : Text}
    (hd : (Operator.fallback t).kind ∉ e.disabled) (ref : Reference) :
    e.evaluate (.fallback t) ref = pure ((e.values.resolve ref).getD t) := by
  rw [e.evaluate_of_enabled hd, evaluateEnabled, lookup?_eq_resolve]

theorem evaluate_alternate (e : Evaluator) {t : Text}
    (hd : (Operator.alternate t).kind ∉ e.disabled) (ref : Reference) :
    e.evaluate (.alternate t) ref = pure (if (e.values.resolve ref).isSome then t else []) := by
  rw [e.evaluate_of_enabled hd, evaluateEnabled, lookup?_eq_resolve]

theorem evaluate_require_present (e : Evaluator) {message value : Text} {ref : Reference}
    (hd : (Operator.require message).kind ∉ e.disabled) (h : e.values.resolve ref = some value) :
    e.evaluate (.require message) ref = pure value := by
  rw [e.evaluate_of_enabled hd]
  simp only [evaluateEnabled, lookup?_eq_resolve, h]

theorem evaluate_require_missing (e : Evaluator) {message : Text} {ref : Reference}
    (hd : (Operator.require message).kind ∉ e.disabled) (h : e.values.resolve ref = none) :
    e.evaluate (.require message) ref =
      if e.raises then .fail (.required ref.name (requirement ref.name message))
      else .report (requirement ref.name message) [] := by
  rw [e.evaluate_of_enabled hd]
  simp only [evaluateEnabled, lookup?_eq_resolve, h]

/-- What the evaluation of an operator for a reference fails with. -/
inductive EvaluationError (e : Evaluator) (op : Operator) (ref : Reference) : Error → Prop where
  | disabled (hd : op.kind ∈ e.disabled) :
    e.EvaluationError op ref (.malformed (.disabled op.kind))
  | missing {message : Text} (hd : op.kind ∉ e.disabled) (hop : op = .require message)
    (hr : e.values.resolve ref = none) (hraises : e.raises = true) :
    e.EvaluationError op ref (.required ref.name (requirement ref.name message))
  | refused (hd : op.kind ∉ e.disabled) (ht : op.kind.toleratesMissing = false)
    (hr : e.refuses ref = true) : e.EvaluationError op ref (.unbound ref.name)
  | applied {err : Error} (hd : op.kind ∉ e.disabled) (ht : op.kind.toleratesMissing = false)
    (hr : e.refuses ref = false) (h : op.apply ((e.values.resolve ref).getD []) = .error err) :
    e.EvaluationError op ref err

theorem evaluate_eq_error_iff {e : Evaluator} {op : Operator} {ref : Reference} {err : Error} :
    (e.evaluate op ref).outcome = .error err ↔ e.EvaluationError op ref err := by
  constructor
  · intro h
    by_cases hd : op.kind ∈ e.disabled
    · rw [e.evaluate_of_disabled hd] at h
      cases h
      exact .disabled hd
    cases ht : op.kind.toleratesMissing with
    | true =>
      cases op with
      | fallback t =>
        rw [e.evaluate_fallback hd] at h
        cases h
      | alternate t =>
        rw [e.evaluate_alternate hd] at h
        cases h
      | require message =>
        cases hr : e.values.resolve ref with
        | some value =>
          rw [e.evaluate_require_present hd hr] at h
          cases h
        | none =>
          rw [e.evaluate_require_missing hd hr] at h
          split at h
          · rename_i hraises
            cases h
            exact .missing hd rfl hr hraises
          · cases h
      | _ => cases ht
    | false =>
      rw [e.evaluate_of_not_tolerates ht hd] at h
      cases hr : e.refuses ref with
      | true =>
        rw [hr, if_pos rfl] at h
        cases h
        exact .refused hd ht hr
      | false =>
        rw [hr, if_neg Bool.false_ne_true] at h
        exact .applied hd ht hr h
  · intro h
    cases h with
    | disabled hd =>
      rw [e.evaluate_of_disabled hd]
      rfl
    | missing hd hop hr hraises =>
      subst hop
      rw [e.evaluate_require_missing hd hr, if_pos hraises]
      rfl
    | refused hd ht hr =>
      rw [e.evaluate_of_not_tolerates ht hd, if_pos hr]
      rfl
    | applied hd ht hr h =>
      rw [e.evaluate_of_not_tolerates ht hd, hr, if_neg Bool.false_ne_true]
      exact h

end Evaluator

end ParameterExpansion
