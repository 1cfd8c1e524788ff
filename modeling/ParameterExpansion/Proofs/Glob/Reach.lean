import Mathlib.Data.List.Basic
import ParameterExpansion.Proofs.Glob.Reading
import ParameterExpansion.Proofs.Regex.Preference

/-!
The two expressions of a pattern, one with longest and one with shortest runs. The items of each are
atoms and runs of its reach, whatever the pattern. They differ in the reach of their runs alone, and
so match in the same places, unless a run is taken into a set that a lone circumflex opens. There a
shortest run adds a member that a longest one does not, the question mark, and the set accepts less.
-/
namespace ParameterExpansion.Glob

open Regex

/-- No run is taken into a set that a lone circumflex opens; `opened` tells whether one is open. -/
def KeepsRuns : Bool → List Token → Prop
  | _, [] => True
  | true, .anyRun :: _ => False
  | true, .charClass _ _ :: tokens => KeepsRuns false tokens
  | true, _ :: tokens => KeepsRuns true tokens
  | false, .charClass false ['^'] :: tokens => KeepsRuns true tokens
  | false, _ :: tokens => KeepsRuns false tokens

theorem keepsRuns_token {token : Token} (h : token ≠ .charClass false ['^'])
    (tokens : List Token) : KeepsRuns false (token :: tokens) ↔ KeepsRuns false tokens := by
  rw [KeepsRuns]
  rintro rfl
  exact h rfl

theorem withReach_item (reach reach' : Reach) (token : Token) :
    (token.item reach).withReach reach' = token.item reach' := by
  cases token <;> rfl

/-- The items of a pattern are atoms and runs of its reach, whatever sets take in. -/
theorem uniform_readAs (reach : Reach) (taken : Option Text) (tokens : List Token) :
    Uniform reach (readAs reach taken tokens) := by
  induction tokens generalizing taken with
  | nil =>
    intro item hitem
    cases taken <;> cases hitem
  | cons token tokens ih =>
    have hcons : ∀ {first}, first = .run reach ∨ (∃ a, first = .one a) →
        Uniform reach (first :: readAs reach none tokens) := fun hfirst =>
      List.forall_mem_cons.mpr ⟨hfirst, ih none⟩
    cases taken with
    | some taken =>
      cases token with
      | charClass negated members => exact hcons (.inr ⟨_, rfl⟩)
      | _ => exact ih (some _)
    | none =>
      by_cases hlone : token = .charClass false ['^']
      · subst hlone
        exact ih (some _)
      · rw [readAs_token hlone]
        cases token with
        | anyRun => exact hcons (.inl rfl)
        | _ => exact hcons (.inr ⟨_, rfl⟩)

theorem uniform_of_compile {reach : Reach} {pattern : Text} {regex : Regex}
    (h : compile reach .free pattern = .ok regex) : Uniform reach regex.items := by
  rw [items_eq_readAs h]
  exact uniform_readAs reach none (tokenize pattern)

/-- A pattern that is compiled with neither end tied is compiled with an end tied too. -/
theorem exists_anchored {reach : Reach} {pattern : Text} {regex : Regex}
    (h : compile reach .free pattern = .ok regex) (anchoring : Anchoring) :
    ∃ anchored, compile reach anchoring pattern = .ok anchored ∧
      anchored.items = anchoredItems anchoring regex.items := by
  have hreadable := (compile_okWhen_readable reach .free pattern).exists_ok_iff.mp ⟨regex, h⟩
  obtain ⟨anchored, ha⟩ :=
    (compile_okWhen_readable reach anchoring pattern).exists_ok_iff.mpr hreadable
  refine ⟨anchored, ha, ?_⟩
  rw [items_eq_readAs ha, items_eq_readAs h]
  rfl

/-- Where a set takes in no run, the items differ in the reach of runs alone. -/
theorem readAs_withReach (reach reach' : Reach) (taken : Option Text) {tokens : List Token}
    (h : KeepsRuns taken.isSome tokens) :
    (readAs reach taken tokens).map (Item.withReach reach') = readAs reach' taken tokens := by
  induction tokens generalizing taken with
  | nil => rw [readAs, readAs, List.map_nil]
  | cons token tokens ih =>
    cases taken with
    | some taken =>
      cases token with
      | charClass negated members =>
        rw [readAs, readAs, List.map_cons, ih none h]
        rfl
      | anyRun => cases h
      | literal c => exact ih (some _) h
      | anyChar => exact ih (some _) h
    | none =>
      by_cases hlone : token = .charClass false ['^']
      · subst hlone
        exact ih (some _) h
      · rw [readAs_token hlone, readAs_token hlone, List.map_cons, withReach_item,
          ih none ((keepsRuns_token hlone tokens).mp h)]

theorem accepts_of_subset {taken taken' : Text} (h : taken' ⊆ taken) (intervals : List Interval)
    (c : Char) (hc : (Atom.oneOf ⟨true, singles taken ++ intervals⟩).accepts c = true) :
    (Atom.oneOf ⟨true, singles taken' ++ intervals⟩).accepts c = true := by
  simp only [Atom.accepts, CharSet.contains, singles, List.any_append, List.any_map,
    Bool.true_bne, Bool.not_eq_true', Bool.or_eq_false_iff, List.any_eq_false] at hc ⊢
  exact ⟨fun d hd => hc.1 d (h hd), hc.2⟩

theorem taken_longest_subset (token : Token) : token.taken .longest ⊆ token.taken .shortest := by
  cases token <;> simp [Token.taken]

/-- With longest runs an open set takes in less, so that it accepts more. -/
theorem readAs_widens (tokens : List Token) :
    Widens (readAs .shortest none tokens) (readAs .longest none tokens) ∧
      ∀ taken taken', taken' ⊆ taken →
        Widens (readAs .shortest (some taken) tokens) (readAs .longest (some taken') tokens) := by
  induction tokens with
  | nil => exact ⟨.nil, fun _ _ _ => .nil⟩
  | cons token tokens ih =>
    constructor
    · by_cases hlone : token = .charClass false ['^']
      · subst hlone
        exact ih.2 _ _ (List.Subset.refl _)
      · rw [readAs_token hlone, readAs_token hlone]
        cases token with
        | anyRun => exact .run _ _ ih.1
        | _ => exact .one (fun _ hc => hc) ih.1
    · intro taken taken' hsub
      cases hclass : token.isClass with
      | true =>
        cases token with
        | charClass negated members => exact .one (accepts_of_subset hsub _) ih.1
        | _ => cases hclass
      | false =>
        rw [readAs_taken hclass, readAs_taken hclass]
        exact ih.2 _ _ (List.append_subset.mpr ⟨List.subset_append_of_subset_left _ hsub,
          List.subset_append_of_subset_right _ (taken_longest_subset token)⟩)

theorem anchoredItems_widens (anchoring : Anchoring) {items items' : List Item}
    (h : Widens items items') :
    Widens (anchoredItems anchoring items) (anchoredItems anchoring items') := by
  cases anchoring with
  | free => exact h
  | atStart => exact .textStart h
  | atEnd => exact h.append (.textEnd .nil)

theorem map_withReach_anchoredItems (reach : Reach) (anchoring : Anchoring) (items : List Item) :
    (anchoredItems anchoring items).map (Item.withReach reach) =
      anchoredItems anchoring (items.map (Item.withReach reach)) := by
  cases anchoring with
  | free => rfl
  | atStart => rfl
  | atEnd => exact List.map_append

/-- Where the expression with shortest runs matches, the one with longest runs matches too, and what
the first one finds in a text the second finds there or earlier. Unless a set takes in a run, they
match the same texts and are found in the same texts, from either side; the first match of both
starts at one offset, and the one with longest runs ends there where the other does or further
on. -/
theorem reach_preference (pattern : Text) (anchoring : Anchoring) :
    ((∃ longest, compile .longest anchoring pattern = .ok longest) ↔
      ∃ shortest, compile .shortest anchoring pattern = .ok shortest) ∧
    ∀ longest shortest, compile .longest anchoring pattern = .ok longest →
      compile .shortest anchoring pattern = .ok shortest → ∀ t,
        (shortest.fullMatch t = true → longest.fullMatch t = true) ∧
        (∀ e', shortest.search t = some e' → ∃ e, longest.search t = some e ∧ e.start ≤ e'.start) ∧
        (KeepsRuns false (tokenize pattern) →
          longest.fullMatch t = shortest.fullMatch t ∧
          (longest.search t).isSome = (shortest.search t).isSome ∧
          (longest.search t).isSome = (shortest.searchLast t).isSome ∧
          ∀ e e', longest.search t = some e → shortest.search t = some e' →
            e.start = e'.start ∧ e'.stop ≤ e.stop) := by
  have hreadable := fun reach => (compile_okWhen_readable reach anchoring pattern).exists_ok_iff
  refine ⟨(hreadable .longest).trans (hreadable .shortest).symm, ?_⟩
  intro longest shortest hl hs t
  have hwidens : Widens shortest.items longest.items := by
    rw [items_eq_readAs hs, items_eq_readAs hl]
    exact anchoredItems_widens anchoring (readAs_widens (tokenize pattern)).1
  refine ⟨fullMatch_of_widens hwidens, fun e' => search_of_widens hwidens, fun hkeeps => ?_⟩
  have hitems : shortest.items.map (Item.withReach .longest) = longest.items := by
    rw [items_eq_readAs hs, items_eq_readAs hl, map_withReach_anchoredItems,
      readAs_withReach _ _ none hkeeps]
  have hfound := isSome_search_eq_of_reach hitems t
  have hlast : (shortest.searchLast t).isSome = (shortest.search t).isSome :=
    Bool.eq_iff_iff.mpr (isSome_searchLast_iff shortest t)
  exact ⟨fullMatch_eq_of_reach hitems t, hfound, hfound.trans hlast.symm,
    fun e e' he he' => search_le_of_reach hitems he he'⟩

/-- The set of a lone circumflex takes in a literal, and the run after it is a run of its own. -/
theorem reach_preference_takenLiteral :
    KeepsRuns false (tokenize "[^]a[b]*".toList) ∧
    ∃ longest shortest, compile .longest .free "[^]a[b]*".toList = .ok longest ∧
      compile .shortest .free "[^]a[b]*".toList = .ok shortest ∧
      longest.fullMatch "xyz".toList = true ∧ shortest.fullMatch "xyz".toList = true ∧
      ∃ e e', longest.search "axyz".toList = some e ∧ shortest.search "axyz".toList = some e' ∧
        e.start = e'.start ∧ e'.stop ≤ e.stop ∧ e ≠ e' := by
  have ht : tokenize "[^]a[b]*".toList =
      [.charClass false ['^'], .literal 'a', .charClass false ['b'], .anyRun] := by decide +kernel
  have hkeeps : KeepsRuns false (tokenize "[^]a[b]*".toList) := by
    rw [ht]
    simp [KeepsRuns]
  have hl : compile .longest .free "[^]a[b]*".toList =
      .ok ⟨"[^]a[b].*".toList, [.one (.oneOf ⟨true, singles "]a[b".toList⟩), .run .longest]⟩ := by
    decide +kernel
  have hs : compile .shortest .free "[^]a[b]*".toList =
      .ok ⟨"[^]a[b].*?".toList, [.one (.oneOf ⟨true, singles "]a[b".toList⟩), .run .shortest]⟩ := by
    decide +kernel
  have hboth := (reach_preference "[^]a[b]*".toList .free).2 _ _ hl hs
  obtain ⟨hfull, -⟩ := (hboth "xyz".toList).2.2 hkeeps
  obtain ⟨-, -, -, hsearch⟩ := (hboth "axyz".toList).2.2 hkeeps
  obtain ⟨hstart, hstop⟩ := hsearch ⟨1, 4⟩ ⟨1, 2⟩ (by decide) (by decide)
  exact ⟨hkeeps, _, _, hl, hs, by decide, hfull.symm.trans (by decide), ⟨1, 4⟩, ⟨1, 2⟩, by decide,
    by decide, hstart, hstop, by decide⟩

/-- The run is taken into the set of the lone circumflex. With shortest runs the set has the
question mark too. -/
theorem reach_changes_matches :
    ∃ longest shortest, compile .longest .free "[^]*[a]".toList = .ok longest ∧
      compile .shortest .free "[^]*[a]".toList = .ok shortest ∧
      longest.fullMatch ['?'] = true ∧ shortest.fullMatch ['?'] = false ∧
      longest.search ['?'] = some ⟨0, 1⟩ ∧ shortest.search ['?'] = none := by
  refine ⟨⟨"[^].*[a]".toList, [.one (.oneOf ⟨true, singles "].*[a".toList⟩)]⟩,
    ⟨"[^].*?[a]".toList, [.one (.oneOf ⟨true, singles "].*?[a".toList⟩)]⟩, ?_⟩
  decide +kernel

end ParameterExpansion.Glob
