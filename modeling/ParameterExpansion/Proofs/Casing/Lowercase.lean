import Mathlib.Data.List.Basic
import ParameterExpansion.Casing

/-!
Lower case code point by code point. The only code point whose lower-case form depends on what is
around it is the capital sigma, and it does only where it ends a word. So a text in lower case is
made of one part for each code point of it, the form of that code point by itself but for such a
sigma, and whether the parts are made by themselves or together shows exactly if there is one.
-/
namespace ParameterExpansion.Text

/-- A cased code point comes before an offset, and none after the code point there. Those that are
ignored are skipped on either side. -/
def EndsWord (t : Text) (i : Nat) : Prop :=
  meetsCased (t.take i).reverse = true ∧ meetsCased (t.drop (i + 1)) = false

instance (t : Text) (i : Nat) : Decidable (t.EndsWord i) :=
  inferInstanceAs (Decidable (_ ∧ _))

/-- The lower-case form of a code point that stands at an offset of a text. -/
def lowerAt (t : Text) (i : Nat) (c : Char) : Text :=
  if c = capitalSigma ∧ t.EndsWord i then ['ς'] else lower [c]

theorem lower_singleton (c : Char) :
    lower [c] = if c = capitalSigma then ['σ'] else lowerChar c := by
  rw [lower, lowerAfter, lowerAfter, List.append_nil]
  rfl

theorem endsWord_append_iff (before : Text) (c : Char) (after : Text) :
    EndsWord (before ++ c :: after) before.length ↔
      meetsCased before.reverse = true ∧ meetsCased after = false := by
  have hback : (before ++ c :: after).take before.length = before := List.take_left
  have hfront : (before ++ c :: after).drop (before.length + 1) = after := by
    rw [← List.drop_drop, List.drop_left, List.drop_one, List.tail_cons]
  unfold EndsWord
  rw [hback, hfront]

/-- What is put in the place of a code point when all before it is read backwards. -/
theorem lowerAt_append (before : Text) (c : Char) (after : Text) :
    lowerAt (before ++ c :: after) before.length c =
      if c = capitalSigma then [lowerSigma before.reverse after] else lowerChar c := by
  simp only [lowerAt, endsWord_append_iff, lower_singleton, lowerSigma]
  by_cases hc : c = capitalSigma
  · cases meetsCased before.reverse <;> cases meetsCased after <;> simp [hc]
  · simp [hc]

theorem lowerAfter_eq_flatten (before t : Text) :
    lowerAfter before.reverse t =
      (t.mapIdx fun i => lowerAt (before ++ t) (before.length + i)).flatten := by
  induction t generalizing before with
  | nil => rfl
  | cons c t ih =>
    have hhead : lowerAt (before ++ c :: t) (before.length + 0) c = _ := lowerAt_append before c t
    have htail := ih (before ++ [c])
    simp only [List.reverse_append, List.reverse_singleton, List.singleton_append,
      List.append_assoc, List.length_append, List.length_singleton, Nat.add_assoc,
      Nat.add_comm 1] at htail
    rw [lowerAfter, htail, List.mapIdx_cons, List.flatten_cons, hhead]

/-- A text in lower case has one part for each code point, in its form for where it stands. -/
theorem lower_eq_flatten (t : Text) : lower t = (t.mapIdx t.lowerAt).flatten := by
  have h := lowerAfter_eq_flatten [] t
  simp only [List.reverse_nil, List.nil_append, List.length_nil, Nat.zero_add] at h
  exact h

/-- The forms of a code point by itself and within a text are of one length. -/
theorem length_lowerAt (t : Text) (i : Nat) (c : Char) :
    (t.lowerAt i c).length = (lower [c]).length := by
  by_cases h : c = capitalSigma ∧ t.EndsWord i
  · rw [lowerAt, if_pos h, h.1, lower_singleton, if_pos rfl, List.length_singleton,
      List.length_singleton]
  · rw [lowerAt, if_neg h]

theorem lower_eq_lowerAt_iff (t : Text) (i : Nat) (c : Char) :
    lower [c] = t.lowerAt i c ↔ (c = capitalSigma → ¬t.EndsWord i) := by
  by_cases h : c = capitalSigma ∧ t.EndsWord i
  · rw [lowerAt, if_pos h, h.1, lower_singleton, if_pos rfl]
    exact iff_of_false (by decide) fun hnot => hnot rfl h.2
  · rw [lowerAt, if_neg h]
    exact iff_of_true rfl (not_and.mp h)

/-- Taking code points by themselves shows exactly where a capital sigma ends a word. -/
theorem flatten_map_lower_eq_iff (t : Text) :
    (t.map fun c => lower [c]).flatten = lower t ↔
      ∀ i, t[i]? = some capitalSigma → ¬t.EndsWord i := by
  have hlengths : (t.map fun c => lower [c]).map List.length =
      (t.mapIdx t.lowerAt).map List.length := by
    apply List.ext_getElem?
    intro i
    cases h : t[i]? <;> simp [h, length_lowerAt]
  have hparts : (t.map fun c => lower [c]).flatten = lower t ↔
      (t.map fun c => lower [c]) = t.mapIdx t.lowerAt := by
    rw [lower_eq_flatten, List.eq_iff_flatten_eq, and_iff_left hlengths]
  rw [hparts, List.ext_getElem?_iff]
  refine forall_congr' fun i => ?_
  rw [List.getElem?_map, List.getElem?_mapIdx]
  cases t[i]? with
  | none => simp
  | some c => simp [lower_eq_lowerAt_iff]

end ParameterExpansion.Text
