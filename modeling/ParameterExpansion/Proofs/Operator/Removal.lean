import Mathlib.Data.List.Basic
import ParameterExpansion.Operator.Apply
import ParameterExpansion.Proofs.Glob.Reach
import ParameterExpansion.Proofs.Regex.Stretch

/-!
What a removal takes off a value. Of all beginnings of the value that the pattern matches it takes
the longest or the shortest one, as its reach says, and so with all ends of the value; where none is
matched the value stays as it is. At the front this is the work of the runs, whose preferences add
up to the best end. At the back the match has to reach the end of the value, and what is looked for
is its start, from the left for the longest match and from the right for the shortest.
-/
namespace ParameterExpansion

open Glob (compile exists_anchored uniform_of_compile)

/-- The text has the property, and there is no better one by its length that has it. -/
structure Reach.Picks (reach : Reach) (p : Text → Prop) (x : Text) : Prop where
  holds : p x
  best : ∀ y, p y → reach.Prefers x.length y.length

namespace Regex

/-- Where a match that has to reach the end of the text is taken to start. -/
def endingStart (r : Regex) (reach : Reach) (t : Text) : Option Nat :=
  match reach with
  | .longest => (r.search t).map Extent.start
  | .shortest => r.searchLast t

section Ending

variable {r anchored : Regex} {reach : Reach} {t : Text}

theorem fits_anchored_iff (ha : anchored.items = r.items ++ [.textEnd]) {i j : Nat} :
    Fits t anchored.items i j ↔ j = t.length ∧ Fits t r.items i t.length := by
  rw [ha, fits_append_textEnd_iff]

theorem isSome_endingStart_iff :
    (r.endingStart reach t).isSome ↔ ∃ i j, Fits t r.items i j := by
  cases reach with
  | longest => rw [endingStart, Option.isSome_map, isSome_search_iff]
  | shortest => rw [endingStart, isSome_searchLast_iff, isSome_search_iff]

/-- From there the items fit up to the end, and no other start leaves a better rest. -/
theorem endingStart_eq_some (ha : anchored.items = r.items ++ [.textEnd]) {i : Nat}
    (h : anchored.endingStart reach t = some i) :
    Fits t r.items i t.length ∧
      ∀ k, Fits t r.items k t.length → reach.Prefers (t.length - i) (t.length - k) := by
  have hend : ∀ k, Fits t r.items k t.length → Fits t anchored.items k t.length := fun k hf =>
    (fits_anchored_iff ha).mpr ⟨rfl, hf⟩
  cases reach with
  | longest =>
    obtain ⟨e, he, rfl⟩ := Option.map_eq_some_iff.mp h
    obtain ⟨-, hf, hfirst⟩ := fits_of_search he
    refine ⟨((fits_anchored_iff ha).mp hf).2, fun k hk => ?_⟩
    have hle := hfirst k t.length (hend k hk)
    exact Nat.sub_le_sub_left hle t.length
  | shortest =>
    obtain ⟨⟨j, hf⟩, hlast⟩ := fits_of_searchLast h
    refine ⟨((fits_anchored_iff ha).mp hf).2, fun k hk => ?_⟩
    have hle := hlast k t.length (hend k hk)
    exact Nat.sub_le_sub_left hle t.length

theorem endingStart_eq_none (ha : anchored.items = r.items ++ [.textEnd])
    (h : anchored.endingStart reach t = none) (k : Nat) : ¬Fits t r.items k t.length := by
  intro hf
  have hsome : (anchored.endingStart reach t).isSome :=
    isSome_endingStart_iff.mpr ⟨k, t.length, (fits_anchored_iff ha).mpr ⟨rfl, hf⟩⟩
  rw [h] at hsome
  cases hsome

end Ending

section Picks

variable {r anchored : Regex} {reach : Reach} {t : Text} (hu : Uniform reach r.items)

include hu

/-- What stands before the end that a search from the start finds is the best beginning. -/
theorem Uniform.picks_prefix (ha : anchored.items = .textStart :: r.items) {e : Extent}
    (hs : anchored.search t = some e) :
    reach.Picks (fun y => y <+: t ∧ r.fullMatch y = true) (t.take e.stop) := by
  obtain ⟨hfit, hbest⟩ := hu.search_textStart ha hs
  have hfront : t.take e.stop <+: t := List.take_prefix _ _
  have hlength : (t.take e.stop).length = e.stop := by
    rw [List.length_take, Nat.min_eq_left hfit.bounds.2]
  constructor
  · rw [fullMatch_prefix_iff hu hfront, hlength]
    exact ⟨hfront, hfit⟩
  · intro y ⟨hy, hm⟩
    rw [hlength]
    exact hbest _ ((fullMatch_prefix_iff hu hy).mp hm)

theorem Uniform.no_prefix (ha : anchored.items = .textStart :: r.items)
    (hs : anchored.search t = none) {y : Text} (hy : y <+: t) : r.fullMatch y = false := by
  rw [Bool.eq_false_iff, ne_eq, fullMatch_prefix_iff hu hy]
  intro hf
  have hfit : Fits t anchored.items 0 y.length := by
    rw [ha]
    exact .textStart hf
  exact search_eq_none_iff.mp hs 0 y.length hfit

/-- What follows the start that is found for a match up to the end is the best end. -/
theorem Uniform.picks_suffix (ha : anchored.items = r.items ++ [.textEnd]) {i : Nat}
    (hs : anchored.endingStart reach t = some i) :
    reach.Picks (fun y => y <:+ t ∧ r.fullMatch y = true) (t.drop i) := by
  obtain ⟨hfit, hbest⟩ := endingStart_eq_some ha hs
  have hback : t.drop i <:+ t := List.drop_suffix _ _
  have hlength : (t.drop i).length = t.length - i := List.length_drop
  constructor
  · have hstart : t.length - (t.length - i) = i := by
      have := hfit.bounds
      omega
    rw [fullMatch_suffix_iff hu hback, hlength, hstart]
    exact ⟨hback, hfit⟩
  · intro y ⟨hy, hm⟩
    have hprefers := hbest _ ((fullMatch_suffix_iff hu hy).mp hm)
    have hle := hy.length_le
    have hrest : t.length - (t.length - y.length) = y.length := by omega
    rwa [hrest, ← hlength] at hprefers

theorem Uniform.no_suffix (ha : anchored.items = r.items ++ [.textEnd])
    (hs : anchored.endingStart reach t = none) {y : Text} (hy : y <:+ t) :
    r.fullMatch y = false := by
  rw [Bool.eq_false_iff, ne_eq, fullMatch_suffix_iff hu hy]
  exact endingStart_eq_none ha hs _

end Picks

end Regex

namespace Operator

open Regex

variable {reach : Reach} {pattern : Text} {regex : Regex}

theorem apply_remove_front {anchored : Regex} (h : compile reach .atStart pattern = .ok anchored)
    (value : Text) :
    (Operator.remove .front reach pattern).apply value =
      .ok (match anchored.search value with
        | none => value
        | some extent => value.drop extent.stop) := by
  rw [apply, removeMatch, h]
  rfl

theorem apply_remove_back {anchored : Regex} (h : compile reach .atEnd pattern = .ok anchored)
    (value : Text) :
    (Operator.remove .back reach pattern).apply value =
      .ok (match anchored.endingStart reach value with
        | none => value
        | some start => value.take start) := by
  rw [apply, removeMatch, h]
  cases reach with
  | longest =>
    rw [endingStart]
    cases hs : anchored.search value <;> simp [Except.map, hs]
  | shortest => rfl

/-- A removal at the front gives a result for every pattern that is compiled. It removes the longest
or the shortest of all beginnings of the value that the expression of the pattern matches, and
nothing if it matches none of them. -/
theorem removePrefix_optimal (h : compile reach .free pattern = .ok regex) (value : Text) :
    ∃ result, (Operator.remove .front reach pattern).apply value = .ok result ∧
      ((∃ x, value = x ++ result ∧
          reach.Picks (fun y => y <+: value ∧ regex.fullMatch y = true) x) ∨
        (∀ y, y <+: value → regex.fullMatch y = false) ∧ result = value) := by
  have hu := uniform_of_compile h
  obtain ⟨anchored, hc, ha⟩ := exists_anchored h .atStart
  rw [apply_remove_front hc value]
  cases hs : anchored.search value with
  | none => exact ⟨value, rfl, .inr ⟨fun y hy => hu.no_prefix ha hs hy, rfl⟩⟩
  | some extent =>
    exact ⟨value.drop extent.stop, rfl,
      .inl ⟨value.take extent.stop, (List.take_append_drop _ _).symm, hu.picks_prefix ha hs⟩⟩

/-- The matches of both runs are as short as possible together. -/
theorem removePrefix_optimal_twoRuns :
    compile .shortest .free "*e*x".toList =
      .ok ⟨".*?e.*?x".toList,
        [.run .shortest, .one (.char 'e'), .run .shortest, .one (.char 'x')]⟩ ∧
    (Operator.remove .front .shortest "*e*x".toList).apply "prefixprefixvalue".toList =
      .ok "prefixvalue".toList ∧
    ∀ y, y <+: "prefixprefixvalue".toList →
      fullMatch ⟨".*?e.*?x".toList,
        [.run .shortest, .one (.char 'e'), .run .shortest, .one (.char 'x')]⟩ y = true →
      6 ≤ y.length := by
  have hcompile : compile .shortest .free "*e*x".toList =
      .ok ⟨".*?e.*?x".toList,
        [.run .shortest, .one (.char 'e'), .run .shortest, .one (.char 'x')]⟩ := by decide +kernel
  have happly : (Operator.remove .front .shortest "*e*x".toList).apply
      "prefixprefixvalue".toList = .ok "prefixvalue".toList := by decide +kernel
  obtain ⟨result, hresult, hcase⟩ := removePrefix_optimal hcompile "prefixprefixvalue".toList
  cases happly.symm.trans hresult
  refine ⟨hcompile, happly, fun y hy hm => ?_⟩
  rcases hcase with ⟨x, hx, hpicks⟩ | ⟨-, hsame⟩
  · have hlength : 17 = x.length + 11 := by simpa using congrArg List.length hx
    have hbest : x.length ≤ y.length := hpicks.best y ⟨hy, hm⟩
    omega
  · exact absurd hsame (by decide)

/-- An end of a value that is not empty has the last code point of the value. -/
theorem eq_nil_or_concat_of_append {result x front : Text} {c : Char}
    (h : result ++ x = front ++ [c]) : x = [] ∨ ∃ y, x = y ++ [c] ∧ front = result ++ y := by
  rcases List.eq_nil_or_concat' x with hx | ⟨y, d, hx⟩
  · exact .inl hx
  · rw [hx, ← List.append_assoc] at h
    obtain ⟨hfront, hlast⟩ := List.append_inj' h rfl
    cases hlast
    exact .inr ⟨y, hx, hfront.symm⟩

/-- A removal at the back gives a result for every pattern that is compiled. It removes the longest
or the shortest of all ends of the value that the expression of the pattern matches, and nothing if
it matches none of them. The last code point of the value, be it a line break, is kept or is part of
what is matched. -/
theorem removeSuffix_optimal (h : compile reach .free pattern = .ok regex) (value : Text) :
    ∃ result, (Operator.remove .back reach pattern).apply value = .ok result ∧
      ((∃ x, value = result ++ x ∧
          reach.Picks (fun y => y <:+ value ∧ regex.fullMatch y = true) x) ∨
        (∀ y, y <:+ value → regex.fullMatch y = false) ∧ result = value) ∧
      ∀ front c, value = front ++ [c] →
        result = value ∨ ∃ x, front = result ++ x ∧ regex.fullMatch (x ++ [c]) = true := by
  have hu := uniform_of_compile h
  obtain ⟨anchored, hc, ha⟩ := exists_anchored h .atEnd
  rw [apply_remove_back hc value]
  cases hs : anchored.endingStart reach value with
  | none =>
    exact ⟨value, rfl, .inr ⟨fun y hy => hu.no_suffix ha hs hy, rfl⟩, fun front c _ => .inl rfl⟩
  | some start =>
    have hpicks := hu.picks_suffix ha hs
    have hvalue : value.take start ++ value.drop start = value := List.take_append_drop _ _
    refine ⟨value.take start, rfl, .inl ⟨value.drop start, hvalue.symm, hpicks⟩, ?_⟩
    intro front c hlast
    rcases eq_nil_or_concat_of_append (hvalue.trans hlast) with hnil | ⟨y, hy, hfront⟩
    · left
      rwa [hnil, List.append_nil] at hvalue
    · right
      have hmatch := hpicks.holds.2
      rw [hy] at hmatch
      exact ⟨y, hfront, hmatch⟩

/-- A line break at the end is a code point like any other: it belongs to the shortest end that is
matched, and an end without it is none. -/
theorem removeSuffix_optimal_lineBreak :
    compile .shortest .free "b*".toList =
      .ok ⟨"b.*?".toList, [.one (.char 'b'), .run .shortest]⟩ ∧
    (Operator.remove .back .shortest "b*".toList).apply "abb\n".toList = .ok "ab".toList ∧
    (∀ y, y <:+ "abb\n".toList →
      fullMatch ⟨"b.*?".toList, [.one (.char 'b'), .run .shortest]⟩ y = true → 2 ≤ y.length) ∧
    compile .longest .free "b".toList = .ok ⟨"b".toList, [.one (.char 'b')]⟩ ∧
    (Operator.remove .back .longest "b".toList).apply "abb\n".toList = .ok "abb\n".toList := by
  have hcompile : compile .shortest .free "b*".toList =
      .ok ⟨"b.*?".toList, [.one (.char 'b'), .run .shortest]⟩ := by decide +kernel
  have happly : (Operator.remove .back .shortest "b*".toList).apply "abb\n".toList =
      .ok "ab".toList := by decide +kernel
  obtain ⟨result, hresult, hcase, -⟩ := removeSuffix_optimal hcompile "abb\n".toList
  cases happly.symm.trans hresult
  refine ⟨hcompile, happly, fun y hy hm => ?_, by decide +kernel, by decide +kernel⟩
  rcases hcase with ⟨x, hx, hpicks⟩ | ⟨-, hsame⟩
  · have hlength : x.length = 2 := by simpa using congrArg List.length hx
    have hbest : x.length ≤ y.length := hpicks.best y ⟨hy, hm⟩
    omega
  · exact absurd hsame (by decide)

end Operator

end ParameterExpansion
