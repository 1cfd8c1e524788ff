import Mathlib.Data.List.Basic
import ParameterExpansion.Proofs.Operator.Effect
import ParameterExpansion.Proofs.Store.Content

/-!
Which operators a lookup can fail, and what they make of it otherwise. A reference leads to a text
that is not empty, directly or through one other name, or to nothing. Operators for missing values
go by that alone; under every other one the evaluation fails for want of a value exactly where the
reference is refused, and is the application of the operator where it is not.
-/
namespace ParameterExpansion

/-- The text that a reference leads to in a store. An indirect reference goes one name further,
whatever the text there names. -/
inductive Store.LeadsTo (s : Store) : Reference → Text → Prop where
  | direct {name t : Text} (ht : s.get? name = some (some t)) (hne : t ≠ []) :
    s.LeadsTo ⟨name, false⟩ t
  | indirect {name target t : Text} (htarget : s.get? name = some (some target))
    (htne : target ≠ []) (ht : s.get? target = some (some t)) (hne : t ≠ []) :
    s.LeadsTo ⟨name, true⟩ t

theorem Store.resolve_eq_some_iff {s : Store} {ref : Reference} {t : Text} :
    s.resolve ref = some t ↔ s.LeadsTo ref t := by
  obtain ⟨name, indirect⟩ := ref
  cases indirect with
  | false =>
    change s.content name = some t ↔ _
    rw [content_eq_some_iff]
    constructor
    · rintro ⟨ht, hne⟩
      exact .direct ht hne
    · intro h
      cases h with
      | direct ht hne => exact ⟨ht, hne⟩
  | true =>
    change (s.content name).bind s.content = some t ↔ _
    rw [Option.bind_eq_some_iff]
    constructor
    · rintro ⟨target, htarget, ht⟩
      obtain ⟨htarget, htne⟩ := content_eq_some_iff.mp htarget
      obtain ⟨ht, hne⟩ := content_eq_some_iff.mp ht
      exact .indirect htarget htne ht hne
    · intro h
      cases h with
      | indirect htarget htne ht hne =>
        exact ⟨_, content_eq_some_iff.mpr ⟨htarget, htne⟩, content_eq_some_iff.mpr ⟨ht, hne⟩⟩

/-- The run fails because a name has no value. -/
def Run.FailsUnset (x : Run α) (name : Text) : Prop :=
  ∃ err, x.outcome = .error err ∧ err.category = .unset ∧ err.name? = some name

/-- What is wrong with an application is never that a value is missing. -/
theorem Operator.category_ne_unset_of_apply {op : Operator} {value : Text} {err : Error}
    (h : op.apply value = .error err) : err.category ≠ .unset := by
  rcases error_of_apply h with ⟨pattern, failure, rfl⟩ | ⟨-, field, operand, rfl⟩
  · simp [Error.category]
  · simp [noEffect, Error.category]

namespace Evaluator

variable (e : Evaluator)

theorem refuses_iff (ref : Reference) :
    e.refuses ref = true ↔ ref.indirect = true ∧ e.values.Blank ref.name ∨
      ref.indirect = false ∧ e.strict = true ∧ e.values.contains ref.name = false := by
  unfold refuses
  cases ref.indirect with
  | true => simp [Option.isNone_iff_eq_none, Store.content_eq_none_iff]
  | false => simp

theorem failsUnset_iff {op : Operator} (ht : op.kind.toleratesMissing = false)
    (hd : op.kind ∉ e.disabled) (ref : Reference) :
    (e.evaluate op ref).FailsUnset ref.name ↔ e.refuses ref = true := by
  rw [e.evaluate_of_not_tolerates ht hd]
  cases hr : e.refuses ref with
  | true =>
    rw [if_pos rfl]
    exact iff_of_true ⟨.unbound ref.name, rfl, rfl, rfl⟩ rfl
  | false =>
    rw [if_neg Bool.false_ne_true]
    refine iff_of_false ?_ Bool.false_ne_true
    rintro ⟨err, herr, hcategory, -⟩
    exact Operator.category_ne_unset_of_apply herr hcategory

/-- The operators for missing values never fail a lookup: they go by what the reference leads to,
and only a required value that is not there is a failure. Every other operator fails for want of a
value exactly where the reference goes through a name that nothing comes of, or where a direct one
in strict mode is to a name that the store does not hold; otherwise it is applied to what the
reference leads to, or to the empty text. -/
theorem evaluate_policy (ref : Reference) :
    (∀ v, e.values.resolve ref = some v ↔ e.values.LeadsTo ref v) ∧
    (.fallback ∉ e.disabled → ∀ t,
      e.evaluate (.fallback t) ref = pure ((e.values.resolve ref).getD t)) ∧
    (.alternate ∉ e.disabled → ∀ t,
      e.evaluate (.alternate t) ref =
        pure (if (e.values.resolve ref).isSome then t else [])) ∧
    (.require ∉ e.disabled → ∀ message,
      (∀ v, e.values.resolve ref = some v → e.evaluate (.require message) ref = pure v) ∧
      (e.values.resolve ref = none → e.raises = true →
        (e.evaluate (.require message) ref).FailsUnset ref.name)) ∧
    ∀ op : Operator, op.kind.toleratesMissing = false → op.kind ∉ e.disabled →
      ((e.evaluate op ref).FailsUnset ref.name ↔
        ref.indirect = true ∧ e.values.Blank ref.name ∨
          ref.indirect = false ∧ e.strict = true ∧ e.values.contains ref.name = false) ∧
      (¬(e.evaluate op ref).FailsUnset ref.name →
        e.evaluate op ref = .ofExcept (op.apply ((e.values.resolve ref).getD []))) := by
  refine ⟨fun v => Store.resolve_eq_some_iff, fun hd t => e.evaluate_fallback hd ref,
    fun hd t => e.evaluate_alternate hd ref, fun hd message => ⟨fun v hv => ?_, fun hv hr => ?_⟩,
    fun op ht hd => ⟨?_, fun hf => ?_⟩⟩
  · exact e.evaluate_require_present hd hv
  · rw [e.evaluate_require_missing hd hv, if_pos hr]
    exact ⟨_, rfl, rfl, rfl⟩
  · rw [e.failsUnset_iff ht hd, e.refuses_iff]
  · rw [e.failsUnset_iff ht hd] at hf
    rw [e.evaluate_of_not_tolerates ht hd, if_neg hf]

/-- A pointer to a name whose value names a third one, and in strict mode a name that the store does
not hold, by itself and as a pointer. -/
theorem evaluate_policy_pointer :
    evaluate ⟨⟨[(['P'], some ['Q']), (['Q'], some ['R']), (['R'], some ['v'])]⟩, true, true, []⟩
        (.fallback ['d']) ⟨['P'], true⟩ = pure ['R'] ∧
    evaluate ⟨⟨[(['P'], some ['Q']), (['Q'], some ['R']), (['R'], some ['v'])]⟩, true, true, []⟩
        .bare ⟨['P'], true⟩ = .ofExcept (.ok ['R']) ∧
    evaluate ⟨⟨[(['P'], some ['Q']), (['Q'], some ['R']), (['R'], some ['v'])]⟩, true, true, []⟩
        (.alternate ['a']) ⟨['X'], true⟩ = pure [] ∧
    (evaluate ⟨⟨[(['P'], some ['Q']), (['Q'], some ['R']), (['R'], some ['v'])]⟩, true, true, []⟩
        (.require ['m']) ⟨['X'], true⟩).FailsUnset ['X'] ∧
    (evaluate ⟨⟨[(['P'], some ['Q']), (['Q'], some ['R']), (['R'], some ['v'])]⟩, true, true, []⟩
        .bare ⟨['X'], false⟩).FailsUnset ['X'] := by
  obtain ⟨-, hfallback, -, -, hpointer⟩ := evaluate_policy
    ⟨⟨[(['P'], some ['Q']), (['Q'], some ['R']), (['R'], some ['v'])]⟩, true, true, []⟩ ⟨['P'], true⟩
  obtain ⟨-, -, halternate, hrequire, -⟩ := evaluate_policy
    ⟨⟨[(['P'], some ['Q']), (['Q'], some ['R']), (['R'], some ['v'])]⟩, true, true, []⟩ ⟨['X'], true⟩
  obtain ⟨-, -, -, -, hdirect⟩ := evaluate_policy
    ⟨⟨[(['P'], some ['Q']), (['Q'], some ['R']), (['R'], some ['v'])]⟩, true, true, []⟩
    ⟨['X'], false⟩
  refine ⟨hfallback (by decide) ['d'], ?_, halternate (by decide) ['a'],
    (hrequire (by decide) ['m']).2 (by decide) rfl, ?_⟩
  · refine (hpointer .bare rfl (by decide)).2 ?_
    rw [(hpointer .bare rfl (by decide)).1]
    simp [Store.Blank, Store.get?]
  · exact (hdirect .bare rfl (by decide)).1.mpr (.inr ⟨rfl, rfl, by decide⟩)

end Evaluator

end ParameterExpansion
