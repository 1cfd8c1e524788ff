import ParameterExpansion.Store

/-!
What comes of a name in a store: a text that is not empty, or nothing, be the name missing, null or
empty. Inserting and erasing change what comes of one name and leave all others as they are.
-/
namespace ParameterExpansion.Store

/-- Nothing comes of a name that the store does not hold, or holds null or empty. -/
def Blank (s : Store) (name : Text) : Prop :=
  s.get? name = none ∨ s.get? name = some none ∨ s.get? name = some (some [])

/-- The same comes of a name in two stores: one text that is not empty, or nothing. -/
def AgreeAt (s s' : Store) (name : Text) : Prop :=
  (∃ t, t ≠ [] ∧ s.get? name = some (some t) ∧ s'.get? name = some (some t)) ∨
    s.Blank name ∧ s'.Blank name

theorem content_eq_some_iff {s : Store} {name t : Text} :
    s.content name = some t ↔ s.get? name = some (some t) ∧ t ≠ [] := by
  unfold content
  split
  · rename_i c rest h
    rw [h]
    constructor
    · rintro ⟨⟩
      exact ⟨rfl, List.cons_ne_nil _ _⟩
    · rintro ⟨⟨⟩, -⟩
      rfl
  · rename_i h
    refine iff_of_false (by simp) fun ⟨hget, hne⟩ => ?_
    obtain ⟨c, rest, rfl⟩ := List.exists_cons_of_ne_nil hne
    exact h c rest hget

theorem content_eq_none_iff {s : Store} {name : Text} :
    s.content name = none ↔ s.Blank name := by
  unfold content Blank
  cases s.get? name with
  | none => simp
  | some value =>
    cases value with
    | none => simp
    | some t => cases t <;> simp

theorem agreeAt_iff {s s' : Store} {name : Text} :
    s.AgreeAt s' name ↔ s.content name = s'.content name := by
  constructor
  · rintro (⟨t, hne, h, h'⟩ | ⟨h, h'⟩)
    · rw [content_eq_some_iff.mpr ⟨h, hne⟩, content_eq_some_iff.mpr ⟨h', hne⟩]
    · rw [content_eq_none_iff.mpr h, content_eq_none_iff.mpr h']
  · intro h
    cases hc : s.content name with
    | none => exact .inr ⟨content_eq_none_iff.mp hc, content_eq_none_iff.mp (h ▸ hc)⟩
    | some t =>
      obtain ⟨hget, hne⟩ := content_eq_some_iff.mp hc
      exact .inl ⟨t, hne, hget, (content_eq_some_iff.mp (h ▸ hc)).1⟩

theorem lookup_insertEntry_self (name : Text) (value : Value) (entries : List (Text × Value)) :
    (insertEntry name value entries).lookup name = some value := by
  induction entries with
  | nil => simp [insertEntry]
  | cons entry entries ih =>
    obtain ⟨other, old⟩ := entry
    unfold insertEntry
    split
    · simp
    · rename_i hne
      split
      · simp
      · rw [List.lookup_cons, beq_eq_false_iff_ne.mpr hne, ih]

theorem lookup_insertEntry_of_ne {name other : Text} (h : other ≠ name) (value : Value)
    (entries : List (Text × Value)) :
    (insertEntry name value entries).lookup other = entries.lookup other := by
  have hne : (other == name) = false := beq_eq_false_iff_ne.mpr h
  induction entries with
  | nil => simp [insertEntry, List.lookup_cons, hne]
  | cons entry entries ih =>
    obtain ⟨head, old⟩ := entry
    unfold insertEntry
    split
    · rename_i heq
      subst heq
      simp only [List.lookup_cons, hne]
    · split
      · simp only [List.lookup_cons, hne]
      · simp only [List.lookup_cons, ih]

/-- Inserting changes one name, also where the entries are in no order. -/
theorem get?_insert (s : Store) (name other : Text) (value : Value) :
    (s.insert name value).get? other = if other = name then some value else s.get? other := by
  split
  · rename_i h
    subst h
    exact lookup_insertEntry_self other value s.entries
  · rename_i h
    exact lookup_insertEntry_of_ne h value s.entries

/-- Dropping the entries of one name leaves those of all others. -/
theorem lookup_filter_ne (name other : Text) (entries : List (Text × α)) :
    (entries.filter fun entry => entry.1 ≠ name).lookup other =
      if other = name then none else entries.lookup other := by
  induction entries with
  | nil => simp
  | cons entry entries ih =>
    obtain ⟨head, a⟩ := entry
    by_cases hh : head = name
    · rw [List.filter_cons_of_neg (by simp [hh]), ih, List.lookup_cons]
      split
      · rfl
      · rename_i hne
        rw [beq_eq_false_iff_ne.mpr (hh ▸ hne)]
    · rw [List.filter_cons_of_pos (by simp [hh]), List.lookup_cons, List.lookup_cons, ih]
      split
      · rename_i heq
        rw [if_neg fun h => hh ((eq_of_beq heq).symm.trans h)]
      · rfl

theorem get?_erase (s : Store) (name other : Text) :
    (s.erase name).get? other = if other = name then none else s.get? other :=
  lookup_filter_ne name other s.entries

/-- Erasing names that nothing comes of makes no difference to what comes of any. -/
theorem content_foldl_erase {names : List Text} {s : Store} (h : ∀ name ∈ names, s.Blank name)
    (other : Text) : (names.foldl erase s).content other = s.content other := by
  induction names generalizing s with
  | nil => rfl
  | cons name names ih =>
    have herase : ∀ other, (s.erase name).content other = s.content other := by
      intro other
      by_cases ho : other = name
      · subst ho
        rw [content_eq_none_iff.mpr (h other List.mem_cons_self), content_eq_none_iff]
        exact .inl (by rw [get?_erase, if_pos rfl])
      · rw [content, get?_erase, if_neg ho, content]
    rw [List.foldl_cons, ih, herase]
    intro blank hb
    rw [← content_eq_none_iff, herase, content_eq_none_iff]
    exact h blank (List.mem_cons_of_mem _ hb)

/-- Insert entries in order. -/
def insertAll (s : Store) (entries : List (Text × Value)) : Store :=
  entries.foldl (fun s entry => s.insert entry.1 entry.2) s

theorem get?_insertAll_of_ne {entries : List (Text × Value)} {other : Text}
    (h : ∀ entry ∈ entries, other ≠ entry.1) (s : Store) :
    (s.insertAll entries).get? other = s.get? other := by
  induction entries generalizing s with
  | nil => rfl
  | cons entry entries ih =>
    rw [insertAll, List.foldl_cons, ← insertAll,
      ih (fun later hl => h later (List.mem_cons_of_mem _ hl)), get?_insert,
      if_neg (h entry List.mem_cons_self)]

end ParameterExpansion.Store
