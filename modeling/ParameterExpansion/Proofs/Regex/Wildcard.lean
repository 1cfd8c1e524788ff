import ParameterExpansion.Proofs.Operator.Conversion

/-!
Two lists of matches that are known for every text. An expression for any one code point is found
at each of them and nowhere else. An expression that matches every text is found once for the whole
and, if that was not empty, once more at its end. Both lists come from what the expression matches,
since there is one leftmost longest list only. Converting all matches is then to convert code point
by code point, or the text as a whole and the empty text behind it.
-/
namespace ParameterExpansion.Regex

/-! ### One code point -/

theorem fullMatch_anyChar_iff (source t : Text) :
    fullMatch ⟨source, [.one .any]⟩ t = true ↔ t.length = 1 := by
  rw [fullMatch_iff, fits_one_iff]
  constructor
  · rintro ⟨c, here, -, rest⟩
    exact (fits_nil_iff.mp rest).1
  · intro h
    obtain ⟨c, rfl⟩ := List.length_eq_one_iff.mp h
    exact ⟨c, rfl, rfl, .nil (Nat.le_refl 1)⟩

/-- The stretches of single code points. -/
def eachExtent (start n : Nat) : List Extent :=
  (List.range' start n).map fun i => ⟨i, i + 1⟩

theorem mem_eachExtent_iff {start n : Nat} {e : Extent} :
    e ∈ eachExtent start n ↔ start ≤ e.start ∧ e.start < start + n ∧ e.stop = e.start + 1 := by
  obtain ⟨i, j⟩ := e
  simp only [eachExtent, List.mem_map, List.mem_range'_1, Extent.mk.injEq]
  constructor
  · rintro ⟨k, ⟨hle, hlt⟩, rfl, rfl⟩
    exact ⟨hle, hlt, rfl⟩
  · rintro ⟨hle, hlt, rfl⟩
    exact ⟨i, ⟨hle, hlt⟩, rfl, rfl⟩

theorem convertExtents_eachExtent (f : Text → Text) (start : Nat) (t : Text) :
    convertExtents f start (eachExtent start t.length) t = t.flatMap fun c => f [c] := by
  induction t generalizing start with
  | nil => rfl
  | cons c t ih =>
    have hnext := ih (start + 1)
    rw [eachExtent] at hnext
    rw [eachExtent, List.length_cons, List.range'_succ, List.map_cons, convertExtents,
      Nat.sub_self, Nat.add_sub_cancel_left, List.drop_one, List.tail_cons, hnext,
      List.flatMap_cons]
    rfl

section Single

variable {r : Regex} (hu : Uniform .longest r.items)
  (h : ∀ t, r.fullMatch t = true ↔ t.length = 1)

include h

theorem leftmostLongest_eachExtent (t : Text) :
    LeftmostLongest r t (eachExtent 0 t.length) where
  bounds := by
    intro e he
    have hmem := mem_eachExtent_iff.mp he
    omega
  ordered := by
    have hlt : (List.range' 0 t.length).Pairwise (· < ·) := List.pairwise_lt_range'
    exact (hlt.map _ fun i j hij => ⟨hij, hij⟩).isChain
  matched := by
    intro e he
    have hmem := mem_eachExtent_iff.mp he
    rw [h, Text.length_slice]
    omega
  longest := by
    intro e he j hij hj hmatch
    have hmem := mem_eachExtent_iff.mp he
    rw [h, Text.length_slice] at hmatch
    omega
  complete := by
    intro i j hij hj hmatch
    rw [h, Text.length_slice] at hmatch
    exact ⟨⟨i, i + 1⟩, mem_eachExtent_iff.mpr ⟨Nat.zero_le i, by simp only; omega, rfl⟩, .inl rfl⟩

include hu

theorem extents_of_single (t : Text) : r.extents t = eachExtent 0 t.length :=
  (leftmostLongest_extents hu t).unique (leftmostLongest_eachExtent h t)

theorem convertAll_of_single (f : Text → Text) (t : Text) :
    r.convertAll f t = t.flatMap fun c => f [c] := by
  rw [convertAll, extents_of_single hu h, convertExtents_eachExtent]

theorem convertFirst_of_single (f : Text → Text) (c : Char) (t : Text) :
    r.convertFirst f (c :: t) = f [c] ++ t := by
  have hfirst : r.search (c :: t) = some ⟨0, 1⟩ := by
    rw [← head?_extents, extents_of_single hu h]
    rfl
  rw [convertFirst_eq, hfirst]
  rfl

end Single

/-! ### Any text -/

theorem fullMatch_anyRun (source t : Text) :
    fullMatch ⟨source, [.run .longest]⟩ t = true :=
  (fullMatch_iff _ t).mpr (.run (Nat.zero_le _) (.nil (Nat.le_refl _)))

/-- The whole of a text, and what lies behind it. -/
def wholeExtents (t : Text) : List Extent :=
  ⟨0, t.length⟩ :: if t = [] then [] else [⟨t.length, t.length⟩]

theorem mem_wholeExtents_iff {t : Text} {e : Extent} :
    e ∈ wholeExtents t ↔ e.stop = t.length ∧ (e.start = 0 ∨ e.start = t.length) := by
  obtain ⟨i, j⟩ := e
  by_cases hempty : t = []
  · simp [wholeExtents, hempty, and_comm]
  · simp only [wholeExtents, if_neg hempty, List.mem_cons, List.not_mem_nil, or_false,
      Extent.mk.injEq]
    tauto

theorem convertExtents_wholeExtents {f : Text → Text} (hf : f [] = []) (t : Text) :
    convertExtents f 0 (wholeExtents t) t = f t := by
  by_cases hempty : t = []
  · subst hempty
    simp [wholeExtents, convertExtents, Text.slice, hf]
  · simp [wholeExtents, hempty, convertExtents, Text.slice, hf]

section All

variable {r : Regex} (hu : Uniform .longest r.items) (h : ∀ t, r.fullMatch t = true)

include h

theorem leftmostLongest_wholeExtents (t : Text) : LeftmostLongest r t (wholeExtents t) where
  bounds := by
    intro e he
    have hmem := mem_wholeExtents_iff.mp he
    omega
  ordered := by
    by_cases hempty : t = []
    · simp [wholeExtents, hempty]
    · have hpos := List.length_pos_of_ne_nil hempty
      simp [wholeExtents, hempty, Before, hpos]
  matched := fun _ _ => h _
  longest := by
    intro e he j hij hj hmatch
    have hmem := mem_wholeExtents_iff.mp he
    omega
  complete := by
    intro i j hij hj hmatch
    by_cases hinside : 0 < i ∧ i < t.length
    · exact ⟨⟨0, t.length⟩, mem_wholeExtents_iff.mpr ⟨rfl, .inl rfl⟩, .inr hinside⟩
    · exact ⟨⟨i, t.length⟩, mem_wholeExtents_iff.mpr ⟨rfl, by simp only; omega⟩, .inl rfl⟩

include hu

theorem extents_of_all (t : Text) : r.extents t = wholeExtents t :=
  (leftmostLongest_extents hu t).unique (leftmostLongest_wholeExtents h t)

theorem convertAll_of_all {f : Text → Text} (hf : f [] = []) (t : Text) :
    r.convertAll f t = f t := by
  rw [convertAll, extents_of_all hu h, convertExtents_wholeExtents hf]

theorem convertFirst_of_all (f : Text → Text) (t : Text) : r.convertFirst f t = f t := by
  have hfirst : r.search t = some ⟨0, t.length⟩ := by
    rw [← head?_extents, extents_of_all hu h]
    rfl
  simp [convertFirst_eq, hfirst, Text.slice]

end All

end ParameterExpansion.Regex
