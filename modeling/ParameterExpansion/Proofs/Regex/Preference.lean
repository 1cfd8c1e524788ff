import ParameterExpansion.Proofs.Regex.Fits

/-!
Two expressions, item by item. Where one accepts all that the other does, it matches wherever the
other does. The reach of runs has no part in what fits, so expressions that differ in it alone match
in the same places. It decides where a match ends: if all runs are longest, no match from the same
offset ends further on, and if all are shortest, none ends before.
-/
namespace ParameterExpansion

/-- Of two ends of a match, or of two lengths, the first is as good as the second or better. -/
def Reach.Prefers : Reach → Nat → Nat → Prop
  | .shortest, n, m => n ≤ m
  | .longest, n, m => m ≤ n

namespace Reach.Prefers

variable {reach : Reach} {k n m : Nat}

theorem refl (reach : Reach) (n : Nat) : reach.Prefers n n := by
  cases reach <;> exact Nat.le_refl n

theorem trans (h : reach.Prefers k n) (h' : reach.Prefers n m) : reach.Prefers k m := by
  cases reach with
  | shortest => exact Nat.le_trans h h'
  | longest => exact Nat.le_trans h' h

theorem succ (h : reach.Prefers n m) : reach.Prefers (n + 1) (m + 1) := by
  cases reach <;> exact Nat.succ_le_succ h

end Reach.Prefers

namespace Regex

/-- The item with a given reach, if it is a run. -/
def Item.withReach (reach : Reach) : Item → Item
  | .one a => .one a
  | .run _ => .run reach
  | .textStart => .textStart
  | .textEnd => .textEnd

theorem fits_withReach_iff {t : Text} (reach : Reach) {items : List Item} {i j : Nat} :
    Fits t (items.map (Item.withReach reach)) i j ↔ Fits t items i j := by
  induction items generalizing i with
  | nil => rfl
  | cons item items ih =>
    cases item with
    | one a => simp only [List.map_cons, Item.withReach, fits_one_iff, ih]
    | run reach' => simp only [List.map_cons, Item.withReach, fits_run_iff, ih]
    | textStart => simp only [List.map_cons, Item.withReach, fits_textStart_iff, ih]
    | textEnd => simp only [List.map_cons, Item.withReach, fits_textEnd_iff, ih]

/-- Every item is an atom or a run of the reach, so that none is tied to an end of the text. -/
def Uniform (reach : Reach) (items : List Item) : Prop :=
  ∀ item ∈ items, item = .run reach ∨ ∃ a, item = .one a

theorem Uniform.map_withReach {reach : Reach} {items : List Item} (h : Uniform reach items) :
    items.map (Item.withReach reach) = items := by
  have hid : ∀ item ∈ items, item.withReach reach = id item := by
    intro item hitem
    rcases h item hitem with rfl | ⟨a, rfl⟩ <;> rfl
  rw [List.map_congr_left hid, List.map_id]

/-- Items of the same kinds, each of the second accepting all that its counterpart does. -/
inductive Widens : List Item → List Item → Prop where
  | nil : Widens [] []
  | one {a b : Atom} {items items' : List Item}
      (accepts : ∀ c, a.accepts c = true → b.accepts c = true) (rest : Widens items items') :
      Widens (.one a :: items) (.one b :: items')
  | run (reach reach' : Reach) {items items' : List Item} (rest : Widens items items') :
      Widens (.run reach :: items) (.run reach' :: items')
  | textStart {items items' : List Item} (rest : Widens items items') :
      Widens (.textStart :: items) (.textStart :: items')
  | textEnd {items items' : List Item} (rest : Widens items items') :
      Widens (.textEnd :: items) (.textEnd :: items')

theorem Widens.append {items items' back back' : List Item} (h : Widens items items')
    (hback : Widens back back') : Widens (items ++ back) (items' ++ back') := by
  induction h with
  | nil => exact hback
  | one accepts rest ih => exact .one accepts ih
  | run reach reach' rest ih => exact .run reach reach' ih
  | textStart rest ih => exact .textStart ih
  | textEnd rest ih => exact .textEnd ih

theorem Fits.widen {t : Text} {items items' : List Item} {i j : Nat} (h : Fits t items i j)
    (hw : Widens items items') : Fits t items' i j := by
  induction hw generalizing i with
  | nil => exact h
  | one accepts rest ih =>
    obtain ⟨c, here, accepted, hrest⟩ := fits_one_iff.mp h
    exact .one here (accepts c accepted) (ih hrest)
  | run reach reach' rest ih =>
    obtain ⟨k, forward, hrest⟩ := fits_run_iff.mp h
    exact .run forward (ih hrest)
  | textStart rest ih =>
    obtain ⟨rfl, hrest⟩ := fits_textStart_iff.mp h
    exact .textStart (ih hrest)
  | textEnd rest ih =>
    obtain ⟨rfl, hrest⟩ := fits_textEnd_iff.mp h
    exact .textEnd (ih hrest)

/-- Of two matches the one that starts first ends first, or they cross and can exchange their
ends. -/
theorem Fits.exchange {t : Text} {items : List Item} {i j k l : Nat} (h : Fits t items i j)
    (h' : Fits t items k l) (hik : i ≤ k) : j ≤ l ∨ Fits t items i l ∧ Fits t items k j := by
  induction h generalizing k l with
  | nil bound =>
    obtain ⟨rfl, -⟩ := fits_nil_iff.mp h'
    exact .inl hik
  | one here accepted rest ih =>
    obtain ⟨c, here', accepted', rest'⟩ := fits_one_iff.mp h'
    rcases ih rest' (by omega) with hjl | ⟨hi, hk⟩
    · exact .inl hjl
    · exact .inr ⟨.one here accepted hi, .one here' accepted' hk⟩
  | @run reach items i n j forward rest ih =>
    obtain ⟨n', forward', rest'⟩ := fits_run_iff.mp h'
    by_cases hkn : k ≤ n
    · exact .inr ⟨.run (by omega) rest', .run hkn rest⟩
    · -- the earlier run stops before the later one starts
      rcases ih rest' (by omega) with hjl | ⟨hi, hk⟩
      · exact .inl hjl
      · exact .inr ⟨.run forward hi, .run forward' hk⟩
  | textStart rest ih =>
    obtain ⟨rfl, rest'⟩ := fits_textStart_iff.mp h'
    exact .inr ⟨.textStart rest', .textStart rest⟩
  | textEnd rest ih =>
    obtain ⟨rfl, rest'⟩ := fits_textEnd_iff.mp h'
    exact .inr ⟨.textEnd rest', .textEnd rest⟩

/-- From a better start there is an end that is as good. -/
theorem Fits.exists_prefers {t : Text} {items : List Item} {reach : Reach} {i j k l : Nat}
    (h : Fits t items i j) (h' : Fits t items k l) (hk : reach.Prefers k i) :
    ∃ m, reach.Prefers m j ∧ Fits t items k m := by
  cases reach with
  | longest =>
    rcases h.exchange h' hk with hjl | ⟨-, hm⟩
    · exact ⟨l, hjl, h'⟩
    · exact ⟨j, Nat.le_refl j, hm⟩
  | shortest =>
    rcases h'.exchange h hk with hlj | ⟨hm, -⟩
    · exact ⟨l, hlj, h'⟩
    · exact ⟨j, Nat.le_refl j, hm⟩

/-- A run stops at the best offset from which the rest can go on, the last one or the first. -/
theorem preferredAt_runRow_prefers {reach : Reach} {row : List Cell} {i j : Nat}
    (h : preferredAt (runRow reach row) i = some j) :
    ∃ k, i ≤ k ∧ preferredAt row k = some j ∧
      ∀ m, i ≤ m → (preferredAt row m).isSome → reach.Prefers k m := by
  induction row generalizing i with
  | nil => cases h
  | cons cell row ih =>
    cases i with
    | succ i =>
      obtain ⟨k, hik, hk, hbest⟩ := ih h
      refine ⟨k + 1, by omega, hk, fun m him hm => ?_⟩
      cases m with
      | zero => omega
      | succ m => exact (hbest m (by omega) hm).succ
    | zero =>
      rw [preferredAt_runRow_zero] at h
      cases reach with
      | longest =>
        rcases Option.or_eq_some_iff.mp h with later | ⟨hnone, here⟩
        · obtain ⟨k, -, hk, hbest⟩ := ih later
          refine ⟨k + 1, Nat.zero_le _, hk, fun m _ hm => ?_⟩
          cases m with
          | zero => exact Nat.zero_le _
          | succ m => exact (hbest m (Nat.zero_le _) hm).succ
        · refine ⟨0, Nat.le_refl _, here, fun m _ hm => ?_⟩
          cases m with
          | zero => exact .refl .longest 0
          | succ m =>
            have hsome := preferredAt_runRow_complete .longest (Nat.zero_le m) hm
            rw [hnone] at hsome
            cases hsome
      | shortest =>
        rcases Option.or_eq_some_iff.mp h with here | ⟨hnone, later⟩
        · exact ⟨0, Nat.le_refl _, here, fun m _ _ => Nat.zero_le m⟩
        · obtain ⟨k, -, hk, hbest⟩ := ih later
          refine ⟨k + 1, Nat.zero_le _, hk, fun m _ hm => ?_⟩
          cases m with
          | zero =>
            rw [preferredAt_cons_zero, hnone] at hm
            cases hm
          | succ m => exact (hbest m (Nat.zero_le _) hm).succ

theorem cells_cons (item : Item) (items : List Item) (t : Text) :
    cells (item :: items) t = itemRow t item (cells items t) := rfl

/-- Where all runs have one reach, no match from the same offset has a better end than the one that
is named. -/
theorem prefers_of_preferredAt_cells {t : Text} {reach : Reach} {items : List Item} {i j k : Nat}
    (hp : preferredAt (cells (items.map (Item.withReach reach)) t) i = some j)
    (hf : Fits t items i k) : reach.Prefers j k := by
  induction items generalizing i k with
  | nil =>
    have hnil := (describes_emptyRow t).sound _ _ hp
    rw [fits_nil_iff] at hnil hf
    obtain rfl : j = k := by omega
    exact .refl reach j
  | cons item items ih =>
    have hrow := describes_cells (items.map (Item.withReach reach)) t
    rw [List.map_cons, cells_cons] at hp
    cases item with
    | one a =>
      obtain ⟨c, here, accepted, rest⟩ := fits_one_iff.mp hf
      rw [Item.withReach, itemRow, preferredAt_atomRow a hrow.length, here, Option.bind_some,
        if_pos accepted] at hp
      exact ih hp rest
    | run reach' =>
      obtain ⟨n, forward, rest⟩ := fits_run_iff.mp hf
      obtain ⟨m, him, hm, hbest⟩ := preferredAt_runRow_prefers hp
      have hmn : reach.Prefers m n :=
        hbest n forward (hrow.complete _ _ ((fits_withReach_iff reach).mpr rest))
      have fit := (fits_withReach_iff reach).mp (hrow.sound _ _ hm)
      obtain ⟨k', hkk', hk'⟩ := rest.exists_prefers fit hmn
      exact (ih hm hk').trans hkk'
    | textStart =>
      obtain ⟨rfl, rest⟩ := fits_textStart_iff.mp hf
      rw [Item.withReach, itemRow, preferredAt_startRow, if_pos rfl] at hp
      exact ih hp rest
    | textEnd =>
      obtain ⟨rfl, rest⟩ := fits_textEnd_iff.mp hf
      rw [Item.withReach, itemRow, preferredAt_endRow] at hp
      split at hp
      · exact ih hp rest
      · cases hp

theorem Uniform.prefers {t : Text} {reach : Reach} {items : List Item} {i j k : Nat}
    (h : Uniform reach items) (hp : preferredAt (cells items t) i = some j)
    (hf : Fits t items i k) : reach.Prefers j k := by
  rw [← h.map_withReach] at hp
  exact prefers_of_preferredAt_cells hp hf

/-- The first match of a row starts at the first offset with a match and ends where the row says. -/
theorem firstExtent_eq_some {i : Nat} {row : List Cell} {e : Extent}
    (h : firstExtent i row = some e) :
    ∃ k, e.start = i + k ∧ preferredAt row k = some e.stop ∧
      ∀ m, m < k → preferredAt row m = none := by
  induction row generalizing i with
  | nil => cases h
  | cons cell row ih =>
    cases hc : cell.preferred with
    | some stop =>
      simp only [firstExtent, hc] at h
      cases h
      exact ⟨0, rfl, hc, fun m hm => by omega⟩
    | none =>
      simp only [firstExtent, hc] at h
      obtain ⟨k, hstart, hstop, hfirst⟩ := ih h
      refine ⟨k + 1, by omega, hstop, fun m hm => ?_⟩
      cases m with
      | zero => exact hc
      | succ m => exact hfirst m (by omega)

/-- A search finds the leftmost offset at which the items fit. -/
theorem fits_of_search {r : Regex} {t : Text} {e : Extent} (h : r.search t = some e) :
    preferredAt (cells r.items t) e.start = some e.stop ∧ Fits t r.items e.start e.stop ∧
      ∀ i j, Fits t r.items i j → e.start ≤ i := by
  have hrow := describes_cells r.items t
  obtain ⟨k, hstart, hstop, hfirst⟩ := firstExtent_eq_some h
  obtain rfl : e.start = k := by omega
  refine ⟨hstop, hrow.sound _ _ hstop, fun i j hf => Nat.le_of_not_lt fun hlt => ?_⟩
  have := hrow.complete _ _ hf
  rw [hfirst i hlt] at this
  cases this

theorem search_eq_none_iff {r : Regex} {t : Text} :
    r.search t = none ↔ ∀ i j, ¬Fits t r.items i j := by
  rw [← Option.not_isSome_iff_eq_none, isSome_search_iff]
  simp only [not_exists]

/-- A search tied to the start of the text finds the best end of a match from there. -/
theorem Uniform.search_textStart {r anchored : Regex} {reach : Reach} {t : Text} {e : Extent}
    (h : Uniform reach r.items) (ha : anchored.items = .textStart :: r.items)
    (he : anchored.search t = some e) :
    Fits t r.items 0 e.stop ∧ ∀ j, Fits t r.items 0 j → reach.Prefers e.stop j := by
  obtain ⟨hp, hf, -⟩ := fits_of_search he
  rw [ha] at hp hf
  obtain ⟨hstart, hfit⟩ := fits_textStart_iff.mp hf
  rw [hstart, cells_cons, itemRow, preferredAt_startRow, if_pos rfl] at hp
  exact ⟨hfit, fun j => h.prefers hp⟩

theorem isSome_lastStart_iff (i : Nat) (row : List Cell) :
    (lastStart i row).isSome ↔ ∃ k, (preferredAt row k).isSome := by
  induction row generalizing i with
  | nil => simp [lastStart]
  | cons cell row ih =>
    rw [lastStart, Option.orElse_eq_orElse, Option.orElse_eq_or, Option.isSome_or,
      Bool.or_eq_true, ih, Option.isSome_map]
    constructor
    · rintro (⟨k, hk⟩ | hc)
      · exact ⟨k + 1, hk⟩
      · exact ⟨0, hc⟩
    · rintro ⟨k, hk⟩
      cases k with
      | zero => exact .inr hk
      | succ k => exact .inl ⟨k, hk⟩

/-- The last match of a row starts at the last offset with a match. -/
theorem lastStart_eq_some {i j : Nat} {row : List Cell} (h : lastStart i row = some j) :
    ∃ k, j = i + k ∧ (preferredAt row k).isSome ∧ ∀ m, k < m → preferredAt row m = none := by
  induction row generalizing i with
  | nil => cases h
  | cons cell row ih =>
    rw [lastStart, Option.orElse_eq_orElse, Option.orElse_eq_or] at h
    rcases Option.or_eq_some_iff.mp h with later | ⟨hnone, here⟩
    · obtain ⟨k, hj, hk, hlast⟩ := ih later
      refine ⟨k + 1, by omega, hk, fun m hm => ?_⟩
      cases m with
      | zero => omega
      | succ m => exact hlast m (by omega)
    · obtain ⟨stop, hstop, rfl⟩ := Option.map_eq_some_iff.mp here
      refine ⟨0, rfl, by rw [preferredAt_cons_zero, hstop]; rfl, fun m hm => ?_⟩
      cases m with
      | zero => omega
      | succ m =>
        cases hm : preferredAt row m with
        | none => exact hm
        | some stop' =>
          have hsome := (isSome_lastStart_iff (i + 1) row).mpr ⟨m, by rw [hm]; rfl⟩
          rw [hnone] at hsome
          cases hsome

/-- A search from the right finds the rightmost offset at which the items fit. -/
theorem fits_of_searchLast {r : Regex} {t : Text} {i : Nat} (h : r.searchLast t = some i) :
    (∃ j, Fits t r.items i j) ∧ ∀ k l, Fits t r.items k l → k ≤ i := by
  have hrow := describes_cells r.items t
  obtain ⟨k, hstart, hsome, hlast⟩ := lastStart_eq_some h
  obtain rfl : i = k := by omega
  obtain ⟨j, hj⟩ := Option.isSome_iff_exists.mp hsome
  refine ⟨⟨j, hrow.sound _ _ hj⟩, fun k l hf => Nat.le_of_not_lt fun hlt => ?_⟩
  have hk := hrow.complete _ _ hf
  rw [hlast k hlt] at hk
  cases hk

/-- A search from the right finds something exactly if one from the left does. -/
theorem isSome_searchLast_iff (r : Regex) (t : Text) :
    (r.searchLast t).isSome ↔ (r.search t).isSome := by
  rw [searchLast, search, isSome_lastStart_iff, isSome_firstExtent_iff]

section Widening

variable {r r' : Regex}

theorem fullMatch_of_widens (h : Widens r.items r'.items) {t : Text} (hm : r.fullMatch t = true) :
    r'.fullMatch t = true :=
  (fullMatch_iff r' t).mpr (((fullMatch_iff r t).mp hm).widen h)

/-- What is found by the narrower expression is found by the wider one, there or earlier. -/
theorem search_of_widens (h : Widens r.items r'.items) {t : Text} {e : Extent}
    (he : r.search t = some e) : ∃ e', r'.search t = some e' ∧ e'.start ≤ e.start := by
  obtain ⟨-, hf, -⟩ := fits_of_search he
  have hsome : (r'.search t).isSome :=
    (isSome_search_iff r' t).mpr ⟨e.start, e.stop, hf.widen h⟩
  obtain ⟨e', he'⟩ := Option.isSome_iff_exists.mp hsome
  obtain ⟨-, -, hfirst⟩ := fits_of_search he'
  exact ⟨e', he', hfirst _ _ (hf.widen h)⟩

end Widening

section Reaches

variable {longest shortest : Regex}

/-- Expressions that differ in the reach of their runs alone match the same texts. -/
theorem fullMatch_eq_of_reach
    (h : shortest.items.map (Item.withReach .longest) = longest.items) (t : Text) :
    longest.fullMatch t = shortest.fullMatch t := by
  rw [Bool.eq_iff_iff, fullMatch_iff, fullMatch_iff, ← h, fits_withReach_iff]

theorem isSome_search_eq_of_reach
    (h : shortest.items.map (Item.withReach .longest) = longest.items) (t : Text) :
    (longest.search t).isSome = (shortest.search t).isSome := by
  rw [Bool.eq_iff_iff, isSome_search_iff, isSome_search_iff, ← h]
  simp only [fits_withReach_iff]

/-- What they find first starts at the same offset, and longest runs take it at least as far. -/
theorem search_le_of_reach (h : shortest.items.map (Item.withReach .longest) = longest.items)
    {t : Text} {e e' : Extent} (he : longest.search t = some e)
    (he' : shortest.search t = some e') : e.start = e'.start ∧ e'.stop ≤ e.stop := by
  obtain ⟨hp, hf, hfirst⟩ := fits_of_search he
  obtain ⟨-, hf', hfirst'⟩ := fits_of_search he'
  rw [← h] at hp hf hfirst
  have hstart : e.start = e'.start := by
    apply Nat.le_antisymm
    · exact hfirst _ _ ((fits_withReach_iff _).mpr hf')
    · exact hfirst' _ _ ((fits_withReach_iff _).mp hf)
  rw [← hstart] at hf'
  have hstop : Reach.longest.Prefers e.stop e'.stop := prefers_of_preferredAt_cells hp hf'
  exact ⟨hstart, hstop⟩

end Reaches

end Regex

end ParameterExpansion
