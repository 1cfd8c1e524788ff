import Mathlib.Data.List.DropRight
import ParameterExpansion.Operator.Apply

/-!
The laws of substrings. A substring is cut in two steps: all before its start is dropped, and then
the rest is limited by the length, which counts from the start or, if it is negative, from the end.
The second step sees the rest alone. So a cut that moves the start does not move what a negative
length counts from, and substrings join and compose although both numbers are clamped.
-/
namespace ParameterExpansion.Operator

/-- So many code points of a text or, by a negative number, all but so many at its end. -/
def limit : Option Int → Text → Text
  | none, t => t
  | some length, t => if 0 ≤ length then t.take length.toNat else t.rdrop (-length).toNat

theorem limit_of_nonneg {length : Int} (h : 0 ≤ length) (t : Text) :
    limit (some length) t = t.take length.toNat := if_pos h

theorem limit_of_neg {length : Int} (h : length < 0) (t : Text) :
    limit (some length) t = t.rdrop (-length).toNat := if_neg (Int.not_le.mpr h)

/-! ### Where a substring starts -/

/-- The start is clamped at both ends of the text. -/
theorem coe_startOffset (n : Nat) (offset : Int) :
    (startOffset n offset : Int) =
      if 0 ≤ offset then min (n : Int) offset else max 0 (n + offset) := by
  unfold startOffset
  split <;> omega

theorem startOffset_le (n : Nat) (offset : Int) : startOffset n offset ≤ n := by
  unfold startOffset
  split <;> omega

/-- An offset from the end is one from the front, or the front itself. -/
theorem startOffset_of_neg {n : Nat} {offset : Int} (h : offset < 0) :
    startOffset n offset = startOffset n (max 0 (n + offset)) := by
  have hfront : (0 : Int) ≤ max 0 (n + offset) := Int.le_max_left _ _
  rw [startOffset, startOffset, if_neg (by omega), if_pos hfront]
  omega

/-- Beyond its end nothing is left of a text, so an offset from the front need not be clamped. -/
theorem drop_startOffset (t : Text) {offset : Int} (h : 0 ≤ offset) :
    t.drop (startOffset t.length offset) = t.drop offset.toNat := by
  rw [startOffset, if_pos h]
  rcases Nat.le_total offset.toNat t.length with hle | hle
  · rw [Nat.min_eq_right hle]
  · rw [Nat.min_eq_left hle, List.drop_length, List.drop_eq_nil_of_le hle]

/-! ### Cutting in two steps -/

/-- The length is about the rest of the value from the start on. -/
theorem substringOf_eq (value : Text) (offset : Int) (length : Option Int) :
    substringOf value offset length =
      limit length (value.drop (startOffset value.length offset)) := by
  have hstart := startOffset_le value.length offset
  cases length with
  | none => rfl
  | some length =>
    have hslice : substringOf value offset (some length) =
        (value.drop (startOffset value.length offset)).take
          (stopOffset value.length (startOffset value.length offset) length -
            startOffset value.length offset) := List.drop_take
    rw [hslice, stopOffset]
    generalize startOffset value.length offset = start at hstart
    rcases Int.lt_or_le length 0 with hneg | hnonneg
    · rw [limit_of_neg hneg, if_neg (Int.not_le.mpr hneg), List.rdrop, List.length_drop]
      congr 1
      omega
    · -- a stop behind the end of the value takes all that there is
      rw [limit_of_nonneg hnonneg, if_pos hnonneg, List.take_eq_take_iff, List.length_drop]
      omega

theorem substringOf_none (value : Text) (offset : Int) :
    substringOf value offset none = value.drop (startOffset value.length offset) := rfl

/-- From a start counted from the front, nothing shows of how long the value is. -/
theorem substringOf_of_nonneg (value : Text) {offset : Int} (h : 0 ≤ offset)
    (length : Option Int) :
    substringOf value offset length = limit length (value.drop offset.toNat) := by
  rw [substringOf_eq, drop_startOffset value h]

/-! ### The laws -/

/-- What a length takes, and what starts where it stops, are the rest of the value together. -/
theorem substringOf_append (value : Text) (offset : Int) {length : Int} (h : 0 ≤ length) :
    substringOf value offset (some length) ++
        substringOf value (startOffset value.length offset + length) none =
      substringOf value offset none := by
  have hstop : (0 : Int) ≤ startOffset value.length offset + length := by omega
  have hsum : ((startOffset value.length offset : Int) + length).toNat =
      startOffset value.length offset + length.toNat := by omega
  rw [substringOf_eq, limit_of_nonneg h, substringOf_of_nonneg value hstop, hsum, limit,
    substringOf_none, ← List.drop_drop, List.take_append_drop]

theorem length_substringOf (value : Text) (offset : Int) {length : Int} (h : 0 ≤ length) :
    (substringOf value offset (some length)).length =
      min length.toNat (value.length - startOffset value.length offset) := by
  rw [substringOf_eq, limit_of_nonneg h, List.length_take, List.length_drop]

/-- A negative length drops so many code points at the end, and all if there are not as many. -/
theorem substringOf_of_neg (value : Text) (offset : Int) {length : Int} (h : length < 0) :
    substringOf value offset (some length) =
      (substringOf value offset none).rdrop
        (min (-length).toNat (value.length - startOffset value.length offset)) := by
  rw [substringOf_eq, limit_of_neg h, substringOf_none, List.rdrop, List.rdrop, List.length_drop]
  congr 1
  omega

theorem substringOf_substringOf (value : Text) {a b : Int} (ha : 0 ≤ a) (hb : 0 ≤ b)
    (length : Option Int) :
    substringOf (substringOf value a none) b length = substringOf value (a + b) length := by
  have hab : 0 ≤ a + b := Int.add_nonneg ha hb
  rw [substringOf_of_nonneg _ hb, substringOf_none, drop_startOffset value ha, List.drop_drop,
    substringOf_of_nonneg value hab, Int.toNat_add ha hb]

/-- Substrings always have a result. An offset from the end is one from the front. A length that is
not negative takes so many code points from the start, as far as there are, and the substring from
where it stops takes all others; a negative one drops so many at the end. A substring of all that
follows an offset starts that much further on. -/
theorem substringOf_laws (value : Text) :
    (∀ offset length, (Operator.substring offset length).apply value =
      .ok (substringOf value offset length)) ∧
    (∀ offset length, offset < 0 →
      substringOf value offset length =
        substringOf value (max 0 (value.length + offset)) length) ∧
    (∀ offset, ∃ start : Nat,
      (start : Int) =
        (if 0 ≤ offset then min (value.length : Int) offset else max 0 (value.length + offset)) ∧
      (∀ length, 0 ≤ length →
        substringOf value offset (some length) ++ substringOf value (start + length) none =
          substringOf value offset none ∧
        (substringOf value offset (some length)).length =
          min length.toNat (value.length - start)) ∧
      ∀ length, length < 0 →
        substringOf value offset (some length) =
          (substringOf value offset none).rdrop (min (-length).toNat (value.length - start))) ∧
    ∀ a b length, 0 ≤ a → 0 ≤ b →
      substringOf (substringOf value a none) b length = substringOf value (a + b) length := by
  refine ⟨fun offset length => rfl, fun offset length h => ?_, fun offset => ?_, ?_⟩
  · rw [substringOf_eq, substringOf_eq, startOffset_of_neg h]
  · refine ⟨startOffset value.length offset, coe_startOffset _ _, fun length h => ?_, ?_⟩
    · exact ⟨substringOf_append value offset h, length_substringOf value offset h⟩
    · exact fun length h => substringOf_of_neg value offset h
  · exact fun a b length ha hb => substringOf_substringOf value ha hb length

/-- Four code points from the end are the last four; a length that reaches beyond the end takes what
is there, and one that drops more than what is there leaves nothing. -/
theorem substringOf_laws_clamped :
    substringOf "a\nbcd".toList (-4) (some 2) = substringOf "a\nbcd".toList 1 (some 2) ∧
    substringOf "a\nbcd".toList (-4) (some 9) ++ substringOf "a\nbcd".toList 10 none =
      "\nbcd".toList ∧
    substringOf "a\nbcd".toList (-4) (some (-9)) = [] ∧
    substringOf (substringOf "a\nbcd".toList 2 none) 1 (some (-1)) = ['c'] := by
  obtain ⟨-, hback, hlength, hcompose⟩ := substringOf_laws "a\nbcd".toList
  obtain ⟨start, hstart, htake, hdrop⟩ := hlength (-4)
  obtain rfl : start = 1 := Int.ofNat_inj.mp hstart
  refine ⟨hback (-4) (some 2) (by decide), (htake 9 (by decide)).1.trans (by decide), ?_, ?_⟩
  · exact (hdrop (-9) (by decide)).trans (by decide)
  · exact (hcompose 2 1 (some (-1)) (by decide) (by decide)).trans (by decide)

end ParameterExpansion.Operator
