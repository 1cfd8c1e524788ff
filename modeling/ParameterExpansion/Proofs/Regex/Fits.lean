import ParameterExpansion.Regex.Match

/-!
What a sequence of items matches, as a relation between offsets of a text. The table of a text has
a match at an offset exactly where the relation has one, and the end that it names is one that the
relation allows; which of several ends it names is left to the preferences of the runs.
-/
namespace ParameterExpansion.Regex

/-- The items match the stretch of the text between two offsets. -/
inductive Fits (t : Text) : List Item → Nat → Nat → Prop where
  | nil {i : Nat} (bound : i ≤ t.length) : Fits t [] i i
  | one {a : Atom} {c : Char} {items : List Item} {i j : Nat} (here : t[i]? = some c)
      (accepted : a.accepts c = true) (rest : Fits t items (i + 1) j) :
      Fits t (.one a :: items) i j
  | run {reach : Reach} {items : List Item} {i k j : Nat} (forward : i ≤ k)
      (rest : Fits t items k j) : Fits t (.run reach :: items) i j
  | textStart {items : List Item} {j : Nat} (rest : Fits t items 0 j) :
      Fits t (.textStart :: items) 0 j
  | textEnd {items : List Item} {j : Nat} (rest : Fits t items t.length j) :
      Fits t (.textEnd :: items) t.length j

theorem fits_nil_iff {t : Text} {i j : Nat} : Fits t [] i j ↔ j = i ∧ i ≤ t.length := by
  constructor
  · rintro ⟨bound⟩
    exact ⟨rfl, bound⟩
  · rintro ⟨rfl, bound⟩
    exact .nil bound

theorem fits_one_iff {t : Text} {a : Atom} {items : List Item} {i j : Nat} :
    Fits t (.one a :: items) i j ↔
      ∃ c, t[i]? = some c ∧ a.accepts c = true ∧ Fits t items (i + 1) j := by
  constructor
  · rintro (_ | ⟨here, accepted, rest⟩)
    exact ⟨_, here, accepted, rest⟩
  · rintro ⟨c, here, accepted, rest⟩
    exact .one here accepted rest

theorem fits_run_iff {t : Text} {reach : Reach} {items : List Item} {i j : Nat} :
    Fits t (.run reach :: items) i j ↔ ∃ k, i ≤ k ∧ Fits t items k j := by
  constructor
  · rintro (_ | _ | ⟨forward, rest⟩)
    exact ⟨_, forward, rest⟩
  · rintro ⟨k, forward, rest⟩
    exact .run forward rest

theorem fits_textStart_iff {t : Text} {items : List Item} {i j : Nat} :
    Fits t (.textStart :: items) i j ↔ i = 0 ∧ Fits t items 0 j := by
  constructor
  · rintro (_ | _ | _ | rest)
    exact ⟨rfl, rest⟩
  · rintro ⟨rfl, rest⟩
    exact .textStart rest

theorem fits_textEnd_iff {t : Text} {items : List Item} {i j : Nat} :
    Fits t (.textEnd :: items) i j ↔ i = t.length ∧ Fits t items t.length j := by
  constructor
  · rintro (_ | _ | _ | _ | rest)
    exact ⟨rfl, rest⟩
  · rintro ⟨rfl, rest⟩
    exact .textEnd rest

/-- A match runs forward and stays in the text. -/
theorem Fits.bounds {t : Text} {items : List Item} {i j : Nat} (h : Fits t items i j) :
    i ≤ j ∧ j ≤ t.length := by
  induction h with
  | nil bound => exact ⟨Nat.le_refl _, bound⟩
  | one here accepted rest ih => exact ⟨by omega, ih.2⟩
  | run forward rest ih => exact ⟨by omega, ih.2⟩
  | textStart rest ih => exact ⟨by omega, ih.2⟩
  | textEnd rest ih => exact ih

/-- Items in sequence match stretches in sequence. -/
theorem fits_append_iff {t : Text} {front back : List Item} {i j : Nat} :
    Fits t (front ++ back) i j ↔ ∃ k, Fits t front i k ∧ Fits t back k j := by
  constructor
  · intro h
    induction front generalizing i with
    | nil => exact ⟨i, .nil (by have := h.bounds; omega), h⟩
    | cons item front ih =>
      cases h with
      | one here accepted rest =>
        obtain ⟨k, hf, hb⟩ := ih rest
        exact ⟨k, .one here accepted hf, hb⟩
      | run forward rest =>
        obtain ⟨k, hf, hb⟩ := ih rest
        exact ⟨k, .run forward hf, hb⟩
      | textStart rest =>
        obtain ⟨k, hf, hb⟩ := ih rest
        exact ⟨k, .textStart hf, hb⟩
      | textEnd rest =>
        obtain ⟨k, hf, hb⟩ := ih rest
        exact ⟨k, .textEnd hf, hb⟩
  · rintro ⟨k, hf, hb⟩
    induction hf with
    | nil bound => exact hb
    | one here accepted rest ih => exact .one here accepted (ih hb)
    | run forward rest ih => exact .run forward (ih hb)
    | textStart rest ih => exact .textStart (ih hb)
    | textEnd rest ih => exact .textEnd (ih hb)

/-- Items whose match has to end the text. -/
theorem fits_append_textEnd_iff {t : Text} {items : List Item} {i j : Nat} :
    Fits t (items ++ [.textEnd]) i j ↔ j = t.length ∧ Fits t items i t.length := by
  rw [fits_append_iff]
  constructor
  · rintro ⟨k, hf, hb⟩
    obtain ⟨rfl, hend⟩ := fits_textEnd_iff.mp hb
    exact ⟨(fits_nil_iff.mp hend).1, hf⟩
  · rintro ⟨rfl, hf⟩
    exact ⟨_, hf, .textEnd (.nil (Nat.le_refl _))⟩

/-- The end that a row names for the match from an offset. -/
def preferredAt (row : List Cell) (i : Nat) : Option Nat :=
  row[i]?.bind Cell.preferred

@[simp] theorem preferredAt_nil (i : Nat) : preferredAt [] i = none := rfl
@[simp] theorem preferredAt_cons_zero (cell : Cell) (row : List Cell) :
    preferredAt (cell :: row) 0 = cell.preferred := rfl
@[simp] theorem preferredAt_cons_succ (cell : Cell) (row : List Cell) (i : Nat) :
    preferredAt (cell :: row) (i + 1) = preferredAt row i := rfl

theorem beyond_eq (row : List Cell) : beyond row = preferredAt row 0 := by
  cases row <;> rfl

theorem preferredAt_emptyRow (t : Text) (i : Nat) :
    preferredAt (emptyRow t) i = if i ≤ t.length then some i else none := by
  by_cases h : i ≤ t.length
  · have hget : (List.range (t.length + 1))[i]? = some i := List.getElem?_range (by omega)
    rw [preferredAt, emptyRow, List.getElem?_map, hget, if_pos h]
    rfl
  · have hget : (List.range (t.length + 1))[i]? = none :=
      List.getElem?_eq_none (by simp only [List.length_range]; omega)
    rw [preferredAt, emptyRow, List.getElem?_map, hget, if_neg h]
    rfl

theorem length_atomRow (a : Atom) {t : Text} {row : List Cell} (h : row.length = t.length + 1) :
    (atomRow a t row).length = t.length + 1 := by
  induction t generalizing row with
  | nil => rfl
  | cons c t ih =>
    match row, h with
    | _ :: next :: row, h => simpa [atomRow] using ih (by simpa using h)

theorem preferredAt_atomRow (a : Atom) {t : Text} {row : List Cell}
    (h : row.length = t.length + 1) (i : Nat) :
    preferredAt (atomRow a t row) i =
      t[i]?.bind fun c => if a.accepts c then preferredAt row (i + 1) else none := by
  induction t generalizing row i with
  | nil => cases i <;> rfl
  | cons c t ih =>
    match row, h with
    | _ :: next :: row, h =>
      cases i with
      | zero => by_cases hc : a.accepts c <;> simp [atomRow, hc, Cell.consuming, Cell.blocked]
      | succ i => exact ih (by simpa using h) i

theorem length_runRow (reach : Reach) (row : List Cell) :
    (runRow reach row).length = row.length := by
  induction row with
  | nil => rfl
  | cons cell row ih => simp [runRow, ih]

/-- A run goes on or stops, in the order of its preference. -/
theorem preferredAt_runRow_zero (reach : Reach) (cell : Cell) (row : List Cell) :
    preferredAt (runRow reach (cell :: row)) 0 =
      match reach with
      | .longest => (preferredAt (runRow reach row) 0).or cell.preferred
      | .shortest => cell.preferred.or (preferredAt (runRow reach row) 0) := by
  cases reach <;> simp [runRow, beyond_eq]

/-- The end of a match after a run is the end of one from somewhere further on. -/
theorem preferredAt_runRow_sound {reach : Reach} {row : List Cell} {i j : Nat}
    (h : preferredAt (runRow reach row) i = some j) : ∃ k, i ≤ k ∧ preferredAt row k = some j := by
  induction row generalizing i with
  | nil => cases h
  | cons cell row ih =>
    cases i with
    | zero =>
      have hc : preferredAt (runRow reach row) 0 = some j ∨ cell.preferred = some j := by
        rw [preferredAt_runRow_zero] at h
        cases reach with
        | shortest => exact (Option.or_eq_some_iff.mp h).elim .inr fun later => .inl later.2
        | longest => exact (Option.or_eq_some_iff.mp h).elim .inl fun here => .inr here.2
      rcases hc with hc | hc
      · obtain ⟨k, _, hk⟩ := ih hc
        exact ⟨k + 1, Nat.zero_le _, hk⟩
      · exact ⟨0, Nat.le_refl _, hc⟩
    | succ i =>
      obtain ⟨k, hi, hk⟩ := ih h
      exact ⟨k + 1, Nat.succ_le_succ hi, hk⟩

theorem preferredAt_runRow_complete (reach : Reach) {row : List Cell} {i k : Nat} (hi : i ≤ k)
    (h : (preferredAt row k).isSome) : (preferredAt (runRow reach row) i).isSome := by
  induction row generalizing i k with
  | nil => cases h
  | cons cell row ih =>
    cases i with
    | zero =>
      have hc : (preferredAt (runRow reach row) 0).isSome ∨ cell.preferred.isSome := by
        cases k with
        | zero => exact .inr h
        | succ k => exact .inl (ih (Nat.zero_le k) h)
      rw [preferredAt_runRow_zero]
      cases reach with
      | shortest => simpa [or_comm] using hc
      | longest => simpa using hc
    | succ i =>
      cases k with
      | zero => omega
      | succ k => exact ih (Nat.le_of_succ_le_succ hi) h

theorem length_startRow (row : List Cell) : (startRow row).length = row.length := by
  cases row <;> simp [startRow]

theorem preferredAt_startRow (row : List Cell) (i : Nat) :
    preferredAt (startRow row) i = if i = 0 then preferredAt row 0 else none := by
  cases row with
  | nil => simp [startRow]
  | cons cell row =>
    cases i with
    | zero => rfl
    | succ i =>
      have hrow : (row.map fun _ => Cell.blocked)[i]? = row[i]?.map fun _ => Cell.blocked :=
        List.getElem?_map
      rw [startRow, preferredAt_cons_succ, preferredAt, hrow]
      cases row[i]? <;> rfl

theorem length_endRow (row : List Cell) : (endRow row).length = row.length := by
  fun_induction endRow row with
  | case1 => rfl
  | case2 => rfl
  | case3 cell row _ ih => simp [ih]

theorem preferredAt_endRow (row : List Cell) (i : Nat) :
    preferredAt (endRow row) i = if i + 1 = row.length then preferredAt row i else none := by
  fun_induction endRow row generalizing i with
  | case1 => simp
  | case2 cell => cases i <;> simp
  | case3 cell row h ih =>
    cases i with
    | zero =>
      have : row ≠ [] := by rintro rfl; exact h rfl
      simp [Cell.blocked, this]
    | succ i => simpa using ih i

/-- Where a row has a match the items have one that ends there, and the row misses no offset. -/
structure Describes (t : Text) (items : List Item) (row : List Cell) : Prop where
  length : row.length = t.length + 1
  sound : ∀ i j, preferredAt row i = some j → Fits t items i j
  complete : ∀ i j, Fits t items i j → (preferredAt row i).isSome

theorem describes_emptyRow (t : Text) : Describes t [] (emptyRow t) where
  length := by simp [emptyRow]
  sound := by
    intro i j h
    rw [preferredAt_emptyRow] at h
    split at h
    · cases h
      exact .nil ‹_›
    · cases h
  complete := by
    rintro i j ⟨bound⟩
    rw [preferredAt_emptyRow, if_pos bound]
    rfl

section Rows

variable {t : Text} {items : List Item} {row : List Cell}

theorem Describes.atomRow (h : Describes t items row) (a : Atom) :
    Describes t (.one a :: items) (atomRow a t row) where
  length := length_atomRow a h.length
  sound := by
    intro i j hp
    rw [preferredAt_atomRow a h.length] at hp
    obtain ⟨c, here, hc⟩ := Option.bind_eq_some_iff.mp hp
    split at hc
    · exact .one here ‹_› (h.sound _ _ hc)
    · cases hc
  complete := by
    intro i j hf
    obtain ⟨c, here, accepted, rest⟩ := fits_one_iff.mp hf
    have hnext := h.complete _ _ rest
    simpa [preferredAt_atomRow a h.length, here, accepted] using hnext

theorem Describes.runRow (h : Describes t items row) (reach : Reach) :
    Describes t (.run reach :: items) (runRow reach row) where
  length := (length_runRow reach row).trans h.length
  sound := by
    intro i j hp
    obtain ⟨k, forward, hk⟩ := preferredAt_runRow_sound hp
    exact .run forward (h.sound _ _ hk)
  complete := by
    intro i j hf
    obtain ⟨k, forward, rest⟩ := fits_run_iff.mp hf
    exact preferredAt_runRow_complete reach forward (h.complete _ _ rest)

theorem Describes.startRow (h : Describes t items row) :
    Describes t (.textStart :: items) (startRow row) where
  length := (length_startRow row).trans h.length
  sound := by
    intro i j hp
    rw [preferredAt_startRow] at hp
    split at hp
    · subst i
      exact .textStart (h.sound _ _ hp)
    · cases hp
  complete := by
    intro i j hf
    obtain ⟨rfl, rest⟩ := fits_textStart_iff.mp hf
    rw [preferredAt_startRow, if_pos rfl]
    exact h.complete _ _ rest

theorem Describes.endRow (h : Describes t items row) :
    Describes t (.textEnd :: items) (endRow row) where
  length := (length_endRow row).trans h.length
  sound := by
    intro i j hp
    rw [preferredAt_endRow, h.length] at hp
    split at hp
    · obtain rfl : i = t.length := by omega
      exact .textEnd (h.sound _ _ hp)
    · cases hp
  complete := by
    intro i j hf
    obtain ⟨rfl, rest⟩ := fits_textEnd_iff.mp hf
    rw [preferredAt_endRow, h.length, if_pos rfl]
    exact h.complete _ _ rest

/-- One more item in front of the items takes one more row. -/
theorem Describes.itemRow (h : Describes t items row) (item : Item) :
    Describes t (item :: items) (itemRow t item row) := by
  cases item with
  | one a => exact h.atomRow a
  | run reach => exact h.runRow reach
  | textStart => exact h.startRow
  | textEnd => exact h.endRow

end Rows

theorem describes_cells (items : List Item) (t : Text) : Describes t items (cells items t) := by
  induction items with
  | nil => exact describes_emptyRow t
  | cons item items ih => exact ih.itemRow item

theorem isSome_firstExtent_iff (i : Nat) (row : List Cell) :
    (firstExtent i row).isSome ↔ ∃ k, (preferredAt row k).isSome := by
  induction row generalizing i with
  | nil => simp [firstExtent]
  | cons cell row ih =>
    cases hc : cell.preferred with
    | some stop => simpa [firstExtent, hc] using ⟨0, by simp [hc]⟩
    | none =>
      simp only [firstExtent, hc, ih]
      constructor
      · rintro ⟨k, hk⟩
        exact ⟨k + 1, hk⟩
      · rintro ⟨k, hk⟩
        cases k with
        | zero => simp [hc] at hk
        | succ k => exact ⟨k, hk⟩

/-- A search succeeds where the items fit somewhere. -/
theorem isSome_search_iff (r : Regex) (t : Text) :
    (r.search t).isSome ↔ ∃ i j, Fits t r.items i j := by
  have h := describes_cells r.items t
  rw [search, isSome_firstExtent_iff]
  constructor
  · rintro ⟨i, hi⟩
    obtain ⟨j, hj⟩ := Option.isSome_iff_exists.mp hi
    exact ⟨i, j, h.sound _ _ hj⟩
  · rintro ⟨i, j, hf⟩
    exact ⟨i, h.complete _ _ hf⟩

/-- A whole text is matched where the items fit it from one end to the other. -/
theorem fullMatch_iff (r : Regex) (t : Text) :
    r.fullMatch t = true ↔ Fits t r.items 0 t.length := by
  have h := describes_cells (r.items ++ [.textEnd]) t
  rw [fullMatch, beyond_eq]
  constructor
  · intro hs
    obtain ⟨j, hj⟩ := Option.isSome_iff_exists.mp hs
    exact (fits_append_textEnd_iff.mp (h.sound _ _ hj)).2
  · intro hf
    exact h.complete _ _ (fits_append_textEnd_iff.mpr ⟨rfl, hf⟩)

end ParameterExpansion.Regex
