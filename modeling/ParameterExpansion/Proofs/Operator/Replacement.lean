import ParameterExpansion.Proofs.Operator.Conversion
import ParameterExpansion.Proofs.Operator.Pattern
import ParameterExpansion.Proofs.Operator.Removal

/-!
Replacing at an end of a value beside removing there. Both compile the pattern tied to that end and
take what one search finds, the longest match there. The removal leaves the rest of the value, the
replacement puts its text in the place of the match, and neither looks any further, so that an empty
match left over at the same end is not replaced as well.
-/
namespace ParameterExpansion

namespace Side

/-- The scope of a replacement at this end alone. -/
def scope : Side → Scope
  | .front => .atStart
  | .back => .atEnd

/-- The end that a match has to reach. -/
def anchoring : Side → Glob.Anchoring
  | .front => .atStart
  | .back => .atEnd

/-- A text put at this end of another one. -/
def put : Side → Text → Text → Text
  | .front, t, rest => t ++ rest
  | .back, t, rest => rest ++ t

/-- What is left of a text without a stretch at this end. -/
def rest : Side → Extent → Text → Text
  | .front, e, t => t.drop e.stop
  | .back, e, t => t.take e.start

@[simp] theorem put_nil (side : Side) (rest : Text) : side.put [] rest = rest := by
  cases side with
  | front => exact List.nil_append rest
  | back => exact List.append_nil rest

end Side

namespace Regex

section Ends

variable {r anchored : Regex} {side : Side} {t : Text} (hu : Uniform .longest r.items)
  (ha : anchored.items = Glob.anchoredItems side.anchoring r.items)

include hu ha

/-- A match that is tied to an end lies at that end, with nothing but the rest around it. -/
theorem Uniform.search_side {e : Extent} (hs : anchored.search t = some e) :
    r.fullMatch (t.slice e.start e.stop) = true ∧
      t = side.put (t.slice e.start e.stop) (side.rest e t) ∧
      ∀ x, t.take e.start ++ x ++ t.drop e.stop = side.put x (side.rest e t) := by
  obtain ⟨-, hf, -⟩ := fits_of_search hs
  rw [ha] at hf
  cases side with
  | front =>
    obtain ⟨hstart, hfit⟩ := fits_textStart_iff.mp hf
    rw [hstart]
    refine ⟨(fullMatch_slice_iff hu hfit.bounds.1 hfit.bounds.2).mpr hfit, ?_, fun x => ?_⟩
    · exact (Text.slice_append_drop t hfit.bounds.1).symm
    · rw [List.take_zero, List.nil_append]
      rfl
  | back =>
    obtain ⟨hstop, hfit⟩ := fits_append_textEnd_iff.mp hf
    rw [hstop]
    refine ⟨(fullMatch_slice_iff hu hfit.bounds.1 hfit.bounds.2).mpr hfit, ?_, fun x => ?_⟩
    · rw [Text.slice_length]
      exact (List.take_append_drop e.start t).symm
    · rw [List.drop_length, List.append_nil]
      rfl

/-- Where nothing is found, no stretch at that end is matched. -/
theorem Uniform.no_match_at_side (hs : anchored.search t = none) {x rest : Text}
    (hx : t = side.put x rest) : r.fullMatch x = false := by
  cases side with
  | front => exact hu.no_prefix ha hs ⟨rest, hx.symm⟩
  | back =>
    have hend : anchored.endingStart .longest t = none := by rw [endingStart, hs, Option.map_none]
    exact hu.no_suffix ha hend ⟨rest, hx.symm⟩

end Ends

/-- A stretch at an end of the value is matched, so that one outcome is the rest of the value and
the other has the replacement in the place of the stretch; or none is, and both are the value. -/
inductive EndExchange (r : Regex) (side : Side) (replacement value : Text) : Text → Text → Prop
  | matched {x rest : Text} (cut : value = side.put x rest) (holds : r.fullMatch x = true) :
      EndExchange r side replacement value rest (side.put replacement rest)
  | unmatched (misses : ∀ x rest, value = side.put x rest → r.fullMatch x = false) :
      EndExchange r side replacement value value value

end Regex

namespace Operator

open Glob (compile compile_anyRun exists_anchored uniform_of_compile)
open Regex (EndExchange)

variable {side : Side} {pattern : Text}

theorem apply_remove_side (side : Side) (pattern value : Text) :
    (Operator.remove side .longest pattern).apply value =
      (compile .longest side.anchoring pattern).map fun anchored =>
        match anchored.search value with
        | none => value
        | some e => side.rest e value := by
  cases side <;> rfl

theorem apply_replace_side (side : Side) (pattern replacement value : Text) :
    (Operator.replace side.scope pattern replacement).apply value =
      (compile .longest side.anchoring pattern).map fun anchored =>
        anchored.convertFirst (fun _ => replacement) value := by
  cases side <;> rfl

/-- A pattern that is refused is refused by both, for one reason. -/
theorem exists_error_at_side (h : ¬∃ regex, compile .longest .free pattern = .ok regex)
    (replacement value : Text) :
    ∃ failure,
      (Operator.remove side .longest pattern).apply value =
        .error (.malformed (.badPattern pattern failure)) ∧
      (Operator.replace side.scope pattern replacement).apply value =
        .error (.malformed (.badPattern pattern failure)) := by
  have hr := (compile_settledBy .longest .free pattern).exists_ok_iff.not.mp h
  have hs := compile_settledBy .longest side.anchoring pattern
  obtain ⟨err, he⟩ := hs.exists_error_iff.mpr hr
  obtain ⟨failure, rfl⟩ := hs.error he
  refine ⟨failure, ?_, ?_⟩
  · rw [apply_remove_side, he]
    rfl
  · rw [apply_replace_side, he]
    rfl

/-- A pattern that is compiled gives both a result. -/
theorem exists_exchange {regex : Regex} (h : compile .longest .free pattern = .ok regex)
    (replacement value : Text) :
    ∃ removed replaced,
      (Operator.remove side .longest pattern).apply value = .ok removed ∧
      (Operator.replace side.scope pattern replacement).apply value = .ok replaced ∧
      EndExchange regex side replacement value removed replaced := by
  have hu := uniform_of_compile h
  obtain ⟨anchored, hc, ha⟩ := exists_anchored h side.anchoring
  have hremove := apply_remove_side side pattern value
  have hreplace := apply_replace_side side pattern replacement value
  rw [hc] at hremove hreplace
  cases hs : anchored.search value with
  | none =>
    simp only [Except.map, Regex.convertFirst_eq, hs] at hremove hreplace
    have hnone : ∀ x rest, value = side.put x rest → regex.fullMatch x = false :=
      fun _ _ hx => hu.no_match_at_side ha hs hx
    exact ⟨value, value, hremove, hreplace, .unmatched hnone⟩
  | some e =>
    obtain ⟨hmatch, hcut, hput⟩ := hu.search_side ha hs
    simp only [Except.map, Regex.convertFirst_eq, hs, hput] at hremove hreplace
    exact ⟨_, _, hremove, hreplace, .matched hcut hmatch⟩

theorem replace_nil_eq_remove (side : Side) (pattern value : Text) :
    (Operator.replace side.scope pattern []).apply value =
      (Operator.remove side .longest pattern).apply value := by
  by_cases h : ∃ regex, compile .longest .free pattern = .ok regex
  · obtain ⟨regex, hc⟩ := h
    obtain ⟨removed, replaced, hremove, hreplace, hexchange⟩ := exists_exchange hc [] value
    rw [hremove, hreplace]
    cases hexchange with
    | matched cut holds => rw [Side.put_nil]
    | unmatched misses => rfl
  · obtain ⟨failure, hremove, hreplace⟩ := exists_error_at_side h [] value
    rw [hremove, hreplace]

/-- Removing the longest match at an end and replacing what is matched there fail together, with one
error, and exactly for a pattern that is not compiled. Otherwise both have a result. If the pattern
matches a stretch at that end, be it empty, the replacement stands once, at the same end of what the
removal leaves; if it matches none, both leave the value as it is. With an empty replacement the two
are the same. -/
theorem replace_of_remove (side : Side) (pattern replacement value : Text) :
    ((¬∃ regex, compile .longest .free pattern = .ok regex) → ∃ failure,
      (Operator.remove side .longest pattern).apply value =
        .error (.malformed (.badPattern pattern failure)) ∧
      (Operator.replace side.scope pattern replacement).apply value =
        .error (.malformed (.badPattern pattern failure))) ∧
    (∀ regex, compile .longest .free pattern = .ok regex → ∃ removed replaced,
      (Operator.remove side .longest pattern).apply value = .ok removed ∧
      (Operator.replace side.scope pattern replacement).apply value = .ok replaced ∧
      EndExchange regex side replacement value removed replaced) ∧
    (Operator.replace side.scope pattern []).apply value =
      (Operator.remove side .longest pattern).apply value :=
  ⟨fun h => exists_error_at_side h replacement value,
    fun _ h => exists_exchange h replacement value, replace_nil_eq_remove side pattern value⟩

/-- A run that takes the whole value is found once more at its end, but replaced there only where
all matches are; a range out of order is refused by both. -/
theorem replace_of_remove_emptyBehind :
    compile .longest .free ['*'] = .ok ⟨".*".toList, [.run .longest]⟩ ∧
    (Operator.replace .atEnd ['*'] ['x']).apply "a\n".toList = .ok ['x'] ∧
    (Operator.replace .all ['*'] ['x']).apply "a\n".toList = .ok ['x', 'x'] ∧
    (¬∃ regex, compile .longest .free "[z-a]".toList = .ok regex) ∧
    ∃ failure,
      (Operator.remove .front .longest "[z-a]".toList).apply [] =
        .error (.malformed (.badPattern "[z-a]".toList failure)) ∧
      (Operator.replace .atStart "[z-a]".toList ['x']).apply [] =
        .error (.malformed (.badPattern "[z-a]".toList failure)) := by
  have hbad : compile .longest .free "[z-a]".toList = .error (.malformed (.badPattern
      "[z-a]".toList ⟨"[z-a]".toList, 1, .badRange ['z'] ['a']⟩)) := by decide +kernel
  have hrefused : ¬∃ regex, compile .longest .free "[z-a]".toList = .ok regex := by
    rintro ⟨regex, hregex⟩
    cases hbad.symm.trans hregex
  obtain ⟨-, hresult, -⟩ := replace_of_remove .back ['*'] ['x'] "a\n".toList
  obtain ⟨hrefuse, -⟩ := replace_of_remove .front "[z-a]".toList ['x'] []
  obtain ⟨removed, replaced, hremove, hreplace, hexchange⟩ := hresult _ compile_anyRun
  have hempty : (Operator.remove .back .longest ['*']).apply "a\n".toList = .ok [] := by
    decide +kernel
  cases hempty.symm.trans hremove
  cases hexchange with
  | matched cut holds =>
    exact ⟨compile_anyRun, hreplace, by decide +kernel, hrefused, hrefuse hrefused⟩

end Operator

end ParameterExpansion
