import Mathlib.Data.List.Sort
import ParameterExpansion.Proofs.Regex.Stretch

/-!
The list of all matches in a text, for an expression whose runs are all longest. It goes from left
to right without overlap, takes each match as long as it can be, and passes over no offset at which
one could start; only one list does all this. An empty match may stand right behind another one. The
rule that a second match at the same offset must consume something is never used, since the first
one there is the longest.
-/
namespace ParameterExpansion.Regex

/-- One stretch starts, and ends, before the other starts. -/
def Before (e e' : Extent) : Prop :=
  e.start < e'.start ∧ e.stop ≤ e'.start

instance : Trans Before Before Before where
  trans h h' := ⟨Nat.lt_trans h.1 h'.1, Nat.le_trans h.2 (Nat.le_of_lt h'.1)⟩

/-- The matches of an expression in a text, from left to right and each as long as it can be. Every
offset at which a match starts is the start of one of them or lies within one. -/
structure LeftmostLongest (r : Regex) (t : Text) (extents : List Extent) : Prop where
  bounds : ∀ e ∈ extents, e.start ≤ t.length ∧ e.stop ≤ t.length
  ordered : extents.IsChain Before
  matched : ∀ e ∈ extents, r.fullMatch (t.slice e.start e.stop) = true
  longest : ∀ e ∈ extents, ∀ j, e.start ≤ j → j ≤ t.length →
    r.fullMatch (t.slice e.start j) = true → j ≤ e.stop
  complete : ∀ i j, i ≤ j → j ≤ t.length → r.fullMatch (t.slice i j) = true →
    ∃ e ∈ extents, i = e.start ∨ e.start < i ∧ i < e.stop

/-! ### There is one such list -/

namespace LeftmostLongest

variable {r : Regex} {t : Text} {extents extents' : List Extent}

theorem start_le_stop (h : LeftmostLongest r t extents) {e : Extent} (he : e ∈ extents) :
    e.start ≤ e.stop := by
  have hbounds := h.bounds e he
  refine Nat.le_of_not_lt fun hlt => ?_
  -- a stretch that ends before it starts is empty, and then so is a longer one
  have hempty : t.slice e.start e.stop = t.slice e.start e.start := by
    rw [(Text.slice_eq_nil_iff hbounds.2).mpr (Nat.le_of_lt hlt),
      (Text.slice_eq_nil_iff hbounds.1).mpr (Nat.le_refl _)]
  have hmatch := h.matched e he
  rw [hempty] at hmatch
  have hle := h.longest e he e.start (Nat.le_refl _) hbounds.1 hmatch
  omega

theorem before_of_lt (h : LeftmostLongest r t extents) {e e' : Extent} (he : e ∈ extents)
    (he' : e' ∈ extents) (hlt : e.start < e'.start) : Before e e' := by
  have hpairwise := List.isChain_iff_pairwise.mp h.ordered
  obtain ⟨n, hn, rfl⟩ := List.mem_iff_getElem.mp he
  obtain ⟨m, hm, rfl⟩ := List.mem_iff_getElem.mp he'
  rcases Nat.lt_trichotomy n m with hnm | rfl | hmn
  · exact List.pairwise_iff_getElem.mp hpairwise n m hn hm hnm
  · exact absurd hlt (Nat.lt_irrefl _)
  · have hbefore := List.pairwise_iff_getElem.mp hpairwise m n hm hn hmn
    exact absurd hlt (Nat.lt_asymm hbefore.1)

/-- Two lists cannot differ in where a match from the same start ends. -/
theorem eq_of_start_eq (h : LeftmostLongest r t extents) (h' : LeftmostLongest r t extents')
    {e e' : Extent} (he : e ∈ extents) (he' : e' ∈ extents') (hstart : e.start = e'.start) :
    e = e' := by
  have hforward := h.start_le_stop he
  have hforward' := h'.start_le_stop he'
  have hle : e.stop ≤ e'.stop := by
    apply h'.longest e' he' e.stop (by omega) (h.bounds e he).2
    rw [← hstart]
    exact h.matched e he
  have hge : e'.stop ≤ e.stop := by
    apply h.longest e he e'.stop (by omega) (h'.bounds e' he').2
    rw [hstart]
    exact h'.matched e' he'
  obtain ⟨start, stop⟩ := e
  obtain ⟨start', stop'⟩ := e'
  simp only at hstart hle hge
  rw [hstart, Nat.le_antisymm hle hge]

/-- A member of one list is one of the other, if members of the other that start before it are
members of both. -/
theorem mem_of_mem (h : LeftmostLongest r t extents) (h' : LeftmostLongest r t extents')
    {e : Extent} (he : e ∈ extents)
    (ih : ∀ e', e'.start < e.start → e' ∈ extents' → e' ∈ extents) : e ∈ extents' := by
  obtain ⟨e', he', hstart | ⟨hlt, hinside⟩⟩ :=
    h'.complete e.start e.stop (h.start_le_stop he) (h.bounds e he).2 (h.matched e he)
  · rw [h.eq_of_start_eq h' he he' hstart]
    exact he'
  · -- what the other list has around the start is in this list too, and would overlap
    have hbefore := h.before_of_lt (ih e' hlt he') he hlt
    have hstop := hbefore.2
    omega

theorem mem_iff (h : LeftmostLongest r t extents) (h' : LeftmostLongest r t extents')
    (e : Extent) : e ∈ extents ↔ e ∈ extents' := by
  induction hn : e.start using Nat.strongRecOn generalizing e with
  | ind n ih =>
    subst hn
    constructor
    · intro he
      exact h.mem_of_mem h' he fun e' hlt he' => (ih _ hlt e' rfl).mpr he'
    · intro he
      exact h'.mem_of_mem h he fun e' hlt he' => (ih _ hlt e' rfl).mp he'

theorem unique (h : LeftmostLongest r t extents) (h' : LeftmostLongest r t extents') :
    extents = extents' := by
  have hirrefl : Std.Irrefl Before := ⟨fun e he => Nat.lt_irrefl _ he.1⟩
  have hantisymm : Std.Antisymm Before := ⟨fun e e' he he' => absurd he.1 (Nat.lt_asymm he'.1)⟩
  have hpairwise := List.isChain_iff_pairwise.mp h.ordered
  have hpairwise' := List.isChain_iff_pairwise.mp h'.ordered
  exact hpairwise.eq_of_mem_iff hpairwise' (h.mem_iff h')

/-- An empty match right behind another one is in the list, where no longer one starts there. -/
theorem empty_mem (h : LeftmostLongest r t extents) {e : Extent} (he : e ∈ extents)
    (hne : e.start < e.stop) (hempty : r.fullMatch [] = true)
    (hlast : ∀ j, e.stop < j → j ≤ t.length → r.fullMatch (t.slice e.stop j) = false) :
    ⟨e.stop, e.stop⟩ ∈ extents := by
  have hbounds := h.bounds e he
  have hslice : t.slice e.stop e.stop = [] :=
    (Text.slice_eq_nil_iff hbounds.2).mpr (Nat.le_refl _)
  obtain ⟨e', he', hstart | ⟨hlt, hinside⟩⟩ :=
    h.complete e.stop e.stop (Nat.le_refl _) hbounds.2 (by rw [hslice]; exact hempty)
  · have hforward := h.start_le_stop he'
    have hstop : e'.stop = e.stop := by
      refine Nat.le_antisymm (Nat.le_of_not_lt fun hlonger => ?_) (by omega)
      have hnone := hlast e'.stop hlonger (h.bounds e' he').2
      rw [hstart, h.matched e' he'] at hnone
      cases hnone
    have heq : e' = ⟨e.stop, e.stop⟩ := by
      obtain ⟨start', stop'⟩ := e'
      simp only at hstart hstop
      rw [← hstart, hstop]
    rw [← heq]
    exact he'
  · rcases Nat.lt_trichotomy e'.start e.start with hless | heq | hmore
    · have hbefore := h.before_of_lt he' he hless
      have hstop := hbefore.2
      omega
    · rw [h.eq_of_start_eq h he' he heq] at hinside
      exact absurd hinside (Nat.lt_irrefl _)
    · have hbefore := h.before_of_lt he he' hmore
      have hstop := hbefore.2
      omega

end LeftmostLongest

/-! ### Matches that consume something -/

/-- The end that a row names for the match from an offset that has to consume something. -/
def advancingAt (row : List Cell) (i : Nat) : Option Nat :=
  row[i]?.bind Cell.advancing

@[simp] theorem advancingAt_cons_zero (cell : Cell) (row : List Cell) :
    advancingAt (cell :: row) 0 = cell.advancing := rfl
@[simp] theorem advancingAt_cons_succ (cell : Cell) (row : List Cell) (i : Nat) :
    advancingAt (cell :: row) (i + 1) = advancingAt row i := rfl

theorem advancingAt_emptyRow (t : Text) (i : Nat) : advancingAt (emptyRow t) i = none := by
  rw [advancingAt, emptyRow, List.getElem?_map]
  cases (List.range (t.length + 1))[i]? <;> rfl

/-- An atom always consumes something. -/
theorem advancingAt_atomRow (a : Atom) {t : Text} {row : List Cell}
    (h : row.length = t.length + 1) (i : Nat) :
    advancingAt (atomRow a t row) i = preferredAt (atomRow a t row) i := by
  induction t generalizing row i with
  | nil => cases i <;> rfl
  | cons c t ih =>
    match row, h with
    | _ :: next :: row, h =>
      cases i with
      | zero => by_cases hc : a.accepts c <;> simp [atomRow, hc, Cell.consuming, Cell.blocked]
      | succ i => exact ih (by simpa using h) i

/-- After a run something is consumed by the run or by what follows it. -/
theorem advancingAt_runRow {reach : Reach} {row : List Cell} {i j : Nat}
    (h : advancingAt (runRow reach row) i = some j) :
    preferredAt (runRow reach row) (i + 1) = some j ∨ advancingAt row i = some j := by
  induction row generalizing i with
  | nil => cases h
  | cons cell row ih =>
    cases i with
    | succ i => exact ih h
    | zero =>
      have hc : (beyond (runRow reach row)).or cell.advancing = some j ∨
          cell.advancing.or (beyond (runRow reach row)) = some j := by
        cases reach with
        | shortest => right; simpa [runRow] using h
        | longest => left; simpa [runRow] using h
      rw [beyond_eq] at hc
      rcases hc with hc | hc
      · exact (Option.or_eq_some_iff.mp hc).imp id And.right
      · exact (Option.or_eq_some_iff.mp hc).symm.imp And.right id

theorem advancingAt_startRow {row : List Cell} {i j : Nat}
    (h : advancingAt (startRow row) i = some j) : i = 0 ∧ advancingAt row 0 = some j := by
  cases row with
  | nil => cases h
  | cons cell row =>
    cases i with
    | zero => exact ⟨rfl, h⟩
    | succ i =>
      rw [startRow, advancingAt_cons_succ, advancingAt, List.getElem?_map] at h
      cases hrow : row[i]? <;> rw [hrow] at h <;> cases h

theorem advancingAt_endRow {row : List Cell} {i j : Nat}
    (h : advancingAt (endRow row) i = some j) :
    i + 1 = row.length ∧ advancingAt row i = some j := by
  fun_induction endRow row generalizing i with
  | case1 => cases h
  | case2 cell =>
    cases i with
    | zero => exact ⟨rfl, h⟩
    | succ i => cases h
  | case3 cell row hne ih =>
    cases i with
    | zero => cases h
    | succ i =>
      obtain ⟨hlast, hrow⟩ := ih h
      exact ⟨by simp only [List.length_cons]; omega, hrow⟩

/-- A match that has to consume something is a match that does. -/
theorem fits_of_advancingAt {t : Text} {items : List Item} {i j : Nat}
    (h : advancingAt (cells items t) i = some j) : i < j ∧ Fits t items i j := by
  induction items generalizing i with
  | nil =>
    rw [cells, List.foldr_nil, advancingAt_emptyRow] at h
    cases h
  | cons item items ih =>
    have hrow := describes_cells items t
    rw [cells_cons] at h
    cases item with
    | one a =>
      rw [itemRow, advancingAt_atomRow a hrow.length] at h
      obtain ⟨c, here, accepted, rest⟩ := fits_one_iff.mp ((hrow.atomRow a).sound _ _ h)
      have hbounds := rest.bounds
      exact ⟨by omega, .one here accepted rest⟩
    | run reach =>
      rcases advancingAt_runRow h with hlater | hhere
      · obtain ⟨k, forward, rest⟩ := fits_run_iff.mp ((hrow.runRow reach).sound _ _ hlater)
        have hbounds := rest.bounds
        exact ⟨by omega, .run (by omega) rest⟩
      · obtain ⟨hlt, hfit⟩ := ih hhere
        exact ⟨hlt, .run (Nat.le_refl i) hfit⟩
    | textStart =>
      obtain ⟨rfl, h0⟩ := advancingAt_startRow h
      obtain ⟨hlt, hfit⟩ := ih h0
      exact ⟨hlt, .textStart hfit⟩
    | textEnd =>
      obtain ⟨hlast, hi⟩ := advancingAt_endRow h
      obtain ⟨hlt, hfit⟩ := ih hi
      rw [hrow.length] at hlast
      obtain rfl : i = t.length := by omega
      exact ⟨hlt, .textEnd hfit⟩

/-! ### The list that a row gives -/

/-- The matches of a row whose first cell is that of offset `i`, from offset `free` on. -/
structure Lists (i free : Nat) (row : List Cell) (extents : List Extent) : Prop where
  ordered : extents.Pairwise Before
  named : ∀ e ∈ extents, free ≤ e.start ∧ ∃ k, e.start = i + k ∧ preferredAt row k = some e.stop
  complete : ∀ k, free ≤ i + k → (preferredAt row k).isSome →
    ∃ e ∈ extents, i + k = e.start ∨ e.start < i + k ∧ i + k < e.stop

namespace Lists

variable {i free next stop : Nat} {cell : Cell} {row : List Cell} {extents : List Extent}

theorem nil (i free : Nat) : Lists i free [] [] where
  ordered := .nil
  named := by simp
  complete := by simp

/-- An offset that is taken, or at which no match starts, adds nothing. -/
theorem skip (h : Lists (i + 1) free row extents) (hskip : i < free ∨ cell.preferred = none) :
    Lists i free (cell :: row) extents where
  ordered := h.ordered
  named := by
    intro e he
    obtain ⟨hfree, k, hstart, hstop⟩ := h.named e he
    exact ⟨hfree, k + 1, by omega, hstop⟩
  complete := by
    intro k hfree hsome
    cases k with
    | zero =>
      have hnone := hskip.resolve_left (by omega)
      rw [preferredAt_cons_zero, hnone] at hsome
      cases hsome
    | succ k =>
      have heq : i + (k + 1) = i + 1 + k := by omega
      rw [heq] at hfree ⊢
      exact h.complete k hfree hsome

/-- A match is listed, and then those from where it ends on, but from the next offset at least. -/
theorem take (h : Lists (i + 1) next row extents) (hfree : free ≤ i)
    (hp : cell.preferred = some stop) (hnext : max next (i + 1) = max stop (i + 1)) :
    Lists i free (cell :: row) (⟨i, stop⟩ :: extents) where
  ordered := by
    refine List.pairwise_cons.mpr ⟨fun e he => ?_, h.ordered⟩
    obtain ⟨hle, k, hstart, -⟩ := h.named e he
    constructor
    · change i < e.start
      omega
    · change stop ≤ e.start
      omega
  named := by
    intro e he
    rcases List.mem_cons.mp he with rfl | he
    · exact ⟨hfree, 0, rfl, hp⟩
    · obtain ⟨hle, k, hstart, hstop⟩ := h.named e he
      exact ⟨by omega, k + 1, by omega, hstop⟩
  complete := by
    intro k _ hsome
    cases k with
    | zero => exact ⟨_, List.mem_cons_self, .inl rfl⟩
    | succ k =>
      have heq : i + (k + 1) = i + 1 + k := by omega
      rw [heq]
      by_cases hle : next ≤ i + 1 + k
      · obtain ⟨e, he, hcovers⟩ := h.complete k hle hsome
        exact ⟨e, List.mem_cons_of_mem _ he, hcovers⟩
      · refine ⟨_, List.mem_cons_self, .inr ⟨?_, ?_⟩⟩
        · change i < i + 1 + k
          omega
        · change i + 1 + k < stop
          omega

end Lists

/-- Where an empty match is never followed by another one at the same offset, the matches of a row
are listed. -/
theorem lists_extentsFrom {i free : Nat} {row : List Cell}
    (h : ∀ k, preferredAt row k = some (i + k) → advancingAt row k = none) :
    Lists i free row (extentsFrom i free row) := by
  have htail : ∀ {i : Nat} {cell : Cell} {row : List Cell},
      (∀ k, preferredAt (cell :: row) k = some (i + k) → advancingAt (cell :: row) k = none) →
      ∀ k, preferredAt row k = some (i + 1 + k) → advancingAt row k = none := by
    intro i cell row h k hk
    refine h (k + 1) ?_
    rw [preferredAt_cons_succ, hk, Nat.add_assoc, Nat.add_comm 1 k]
  fun_induction extentsFrom i free row with
  | case1 i free => exact .nil i free
  | case2 i free cell row hlt ih => exact (ih (htail h)).skip (.inl hlt)
  | case3 i free cell row hle hp ih => exact (ih (htail h)).skip (.inr hp)
  | case4 free cell row stop hp hle ih =>
    -- an empty match, and none that consumes something
    have hnone : cell.advancing = none := h 0 hp
    rw [hnone]
    exact (ih (htail h)).take (by omega) hp (by omega)
  | case5 i free cell row hle stop hp hne ih => exact (ih (htail h)).take (by omega) hp rfl

/-- The first match that is listed is the one that a search from there finds. -/
theorem head?_extentsFrom {i free : Nat} (h : free ≤ i) (row : List Cell) :
    (extentsFrom i free row).head? = firstExtent i row := by
  fun_induction extentsFrom i free row with
  | case1 => rfl
  | case2 i free cell row hlt ih => omega
  | case3 i free cell row hle hp ih =>
    rw [firstExtent, hp]
    exact ih (by omega)
  | case4 free cell row stop hp hle ih => rw [firstExtent, hp, List.head?_cons]
  | case5 i free cell row hle stop hp hne ih => rw [firstExtent, hp, List.head?_cons]

theorem head?_extents (r : Regex) (t : Text) : (r.extents t).head? = r.search t :=
  head?_extentsFrom (Nat.le_refl 0) _

/-- The matches that are found in a text are the leftmost longest ones. -/
theorem leftmostLongest_extents {r : Regex} (hu : Uniform .longest r.items) (t : Text) :
    LeftmostLongest r t (r.extents t) := by
  have hrow := describes_cells r.items t
  have hlongest : ∀ {i j k}, preferredAt (cells r.items t) i = some j → Fits t r.items i k →
      k ≤ j := fun hp hf => hu.prefers hp hf
  have hlists : Lists 0 0 (cells r.items t) (r.extents t) := by
    refine lists_extentsFrom fun i hp => ?_
    rw [Nat.zero_add] at hp
    cases ha : advancingAt (cells r.items t) i with
    | none => rfl
    | some j =>
      -- a match that consumes something would be longer than the longest
      obtain ⟨hlt, hfit⟩ := fits_of_advancingAt ha
      have hle := hlongest hp hfit
      omega
  have hnamed : ∀ e ∈ r.extents t, preferredAt (cells r.items t) e.start = some e.stop := by
    intro e he
    obtain ⟨-, k, hstart, hstop⟩ := hlists.named e he
    rw [hstart, Nat.zero_add, hstop]
  have hfits : ∀ e ∈ r.extents t, Fits t r.items e.start e.stop := fun e he =>
    hrow.sound _ _ (hnamed e he)
  constructor
  · intro e he
    have hbounds := (hfits e he).bounds
    omega
  · exact hlists.ordered.isChain
  · intro e he
    have hbounds := (hfits e he).bounds
    exact (fullMatch_slice_iff hu hbounds.1 hbounds.2).mpr (hfits e he)
  · intro e he j hij hj hmatch
    exact hlongest (hnamed e he) ((fullMatch_slice_iff hu hij hj).mp hmatch)
  · intro i j hij hj hmatch
    have hsome := hrow.complete _ _ ((fullMatch_slice_iff hu hij hj).mp hmatch)
    simpa using hlists.complete i (Nat.zero_le _) hsome

end ParameterExpansion.Regex
