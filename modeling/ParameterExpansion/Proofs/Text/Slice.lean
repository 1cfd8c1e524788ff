import ParameterExpansion.Text

/-!
Stretches of a text between two offsets, and how they join.
-/
namespace ParameterExpansion.Text

theorem slice_eq_nil_iff {t : Text} {i j : Nat} (hj : j ≤ t.length) :
    slice t i j = [] ↔ j ≤ i := by
  rw [slice, List.drop_eq_nil_iff, List.length_take, Nat.min_eq_left hj]

theorem slice_zero (t : Text) (j : Nat) : slice t 0 j = t.take j := rfl

theorem slice_length (t : Text) (i : Nat) : slice t i t.length = t.drop i := by
  rw [slice, List.take_length]

theorem slice_append (t : Text) {i k j : Nat} (hik : i ≤ k) (hkj : k ≤ j) :
    slice t i k ++ slice t k j = slice t i j := by
  have hk : t.drop k = (t.drop i).drop (k - i) := by
    rw [List.drop_drop, Nat.add_sub_cancel' hik]
  have hj : j - i = (k - i) + (j - k) := by omega
  rw [slice, slice, slice, List.drop_take, List.drop_take, List.drop_take, hk, hj, List.take_add]

theorem slice_append_drop (t : Text) {i j : Nat} (hij : i ≤ j) :
    slice t i j ++ t.drop j = t.drop i := by
  have hj : t.drop j = (t.drop i).drop (j - i) := by rw [List.drop_drop, Nat.add_sub_cancel' hij]
  rw [slice, List.drop_take, hj, List.take_append_drop]

/-- Offsets in the rest of a text are counted from where it begins. -/
theorem slice_drop (t : Text) {k i j : Nat} (hki : k ≤ i) :
    slice (t.drop k) (i - k) (j - k) = slice t i j := by
  rw [slice, ← List.drop_take, List.drop_drop, Nat.add_sub_cancel' hki, slice]

theorem length_slice (t : Text) (i j : Nat) : (slice t i j).length = min j t.length - i := by
  rw [slice, List.length_drop, List.length_take]

/-- The code points of a stretch are those of the text from its start on. -/
theorem getElem?_slice (t : Text) (i j k : Nat) :
    (slice t i j)[k]? = if i + k < j then t[i + k]? else none := by
  rw [slice, List.getElem?_drop, List.getElem?_take]

/-- The stretch behind a text and before another one. -/
theorem slice_middle (front middle back : Text) :
    slice (front ++ middle ++ back) front.length (front.length + middle.length) = middle := by
  rw [slice, ← List.length_append, List.take_left, List.drop_left]

end ParameterExpansion.Text
