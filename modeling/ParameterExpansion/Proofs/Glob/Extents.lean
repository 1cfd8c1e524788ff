import ParameterExpansion.Proofs.Glob.Reach
import ParameterExpansion.Proofs.Regex.Extents

/-!
All matches of a pattern in a text, as replacements and changes of case go through them. With
longest runs and no end tied, the list of matches is told by which parts of the text the pattern
matches as a whole, and the way in which they are looked for does not show in it.
-/
namespace ParameterExpansion.Glob

open Regex

/-! ### Patterns of one wildcard -/

theorem compile_anyChar : compile .longest .free ['?'] = .ok ⟨['.'], [.one .any]⟩ := by
  decide +kernel

theorem compile_anyRun : compile .longest .free ['*'] = .ok ⟨".*".toList, [.run .longest]⟩ := by
  decide +kernel

/-! ### The list of all matches -/

/-- The matches of a pattern that is compiled, with longest runs, are the leftmost longest ones, and
no other list is. An empty match right behind one that is not empty is listed, if no longer match
starts there. -/
theorem extents_leftmostLongest {pattern : Text} {regex : Regex}
    (h : compile .longest .free pattern = .ok regex) (t : Text) :
    (∀ extents, LeftmostLongest regex t extents ↔ extents = regex.extents t) ∧
      ∀ e ∈ regex.extents t, e.start < e.stop → regex.fullMatch [] = true →
        (∀ j, e.stop < j → j ≤ t.length → regex.fullMatch (t.slice e.stop j) = false) →
        ⟨e.stop, e.stop⟩ ∈ regex.extents t := by
  have hextents := leftmostLongest_extents (uniform_of_compile h) t
  refine ⟨fun extents => ⟨fun hl => hl.unique hextents, ?_⟩, ?_⟩
  · rintro rfl
    exact hextents
  · intro e he hne hempty hlast
    exact hextents.empty_mem he hne hempty hlast

/-- A run takes the whole text, line breaks included, and is found once more at its end. -/
theorem extents_leftmostLongest_emptyBehind :
    compile .longest .free ['*'] = .ok ⟨".*".toList, [.run .longest]⟩ ∧
    LeftmostLongest ⟨".*".toList, [.run .longest]⟩ "a\nb".toList [⟨0, 3⟩, ⟨3, 3⟩] ∧
    ¬LeftmostLongest ⟨".*".toList, [.run .longest]⟩ "a\nb".toList [⟨0, 3⟩] := by
  have hcompile : compile .longest .free ['*'] = .ok ⟨".*".toList, [.run .longest]⟩ := by
    decide +kernel
  have hiff := (extents_leftmostLongest hcompile "a\nb".toList).1
  refine ⟨hcompile, (hiff _).mpr (by decide +kernel), fun hone => ?_⟩
  exact absurd ((hiff _).mp hone) (by decide +kernel)

end ParameterExpansion.Glob
