import ParameterExpansion.Proofs.Regex.Preference
import ParameterExpansion.Proofs.Text.Slice

/-!
A stretch of a text as a text of its own. Items that are not tied to an end of the text do not look
beyond what they match, so they fit a stretch within a text exactly if they match it as a whole.
-/
namespace ParameterExpansion.Regex

/-- Offsets in a stretch are counted from its start. -/
theorem fits_slice_iff {t : Text} {reach : Reach} {items : List Item} (hu : Uniform reach items)
    {i j : Nat} (hij : i ≤ j) (hj : j ≤ t.length) {p q : Nat} :
    Fits (t.slice i j) items p q ↔ i + q ≤ j ∧ Fits t items (i + p) (i + q) := by
  induction items generalizing p with
  | nil =>
    rw [fits_nil_iff, fits_nil_iff, Text.length_slice]
    omega
  | cons item items ih =>
    have htail : Uniform reach items := fun item hitem => hu item (List.mem_cons_of_mem _ hitem)
    have ih : ∀ p, Fits (t.slice i j) items p q ↔ i + q ≤ j ∧ Fits t items (i + p) (i + q) :=
      fun p => ih htail
    rcases hu item List.mem_cons_self with rfl | ⟨a, rfl⟩
    · simp only [fits_run_iff, ih]
      constructor
      · intro ⟨k, forward, hq, rest⟩
        exact ⟨hq, i + k, by omega, rest⟩
      · intro ⟨hq, k, forward, rest⟩
        refine ⟨k - i, by omega, hq, ?_⟩
        rwa [Nat.add_sub_cancel' (by omega)]
    · simp only [fits_one_iff, ih, Text.getElem?_slice]
      constructor
      · intro ⟨c, here, accepted, hq, rest⟩
        have hlt : i + p < j := by have := rest.bounds; omega
        rw [if_pos hlt] at here
        exact ⟨hq, c, here, accepted, rest⟩
      · intro ⟨hq, c, here, accepted, rest⟩
        have hlt : i + p < j := by have := rest.bounds; omega
        exact ⟨c, by rw [if_pos hlt, here], accepted, hq, rest⟩

section Whole

variable {r : Regex} {reach : Reach} {t : Text}

/-- Where an expression matches a stretch as a whole, and only there, its items fit. -/
theorem fullMatch_slice_iff (hu : Uniform reach r.items) {i j : Nat} (hij : i ≤ j)
    (hj : j ≤ t.length) : r.fullMatch (t.slice i j) = true ↔ Fits t r.items i j := by
  have hlength : (t.slice i j).length = j - i := by
    rw [Text.length_slice, Nat.min_eq_left hj]
  rw [fullMatch_iff, hlength, fits_slice_iff hu hij hj, Nat.add_zero, Nat.add_sub_cancel' hij]
  simp

theorem fullMatch_prefix_iff (hu : Uniform reach r.items) {x : Text} (hx : x <+: t) :
    r.fullMatch x = true ↔ Fits t r.items 0 x.length := by
  have hslice : t.slice 0 x.length = x := by
    rw [Text.slice_zero, ← List.prefix_iff_eq_take.mp hx]
  rw [← fullMatch_slice_iff hu (Nat.zero_le _) hx.length_le, hslice]

theorem fullMatch_suffix_iff (hu : Uniform reach r.items) {x : Text} (hx : x <:+ t) :
    r.fullMatch x = true ↔ Fits t r.items (t.length - x.length) t.length := by
  have hslice : t.slice (t.length - x.length) t.length = x := by
    rw [Text.slice_length, ← List.suffix_iff_eq_drop.mp hx]
  rw [← fullMatch_slice_iff hu (Nat.sub_le _ _) (Nat.le_refl _), hslice]

end Whole

end ParameterExpansion.Regex
