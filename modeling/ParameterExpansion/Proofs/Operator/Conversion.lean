import Mathlib.Data.List.Basic
import ParameterExpansion.Operator.Apply
import ParameterExpansion.Proofs.Glob.Extents

/-!
What replacements and changes of case make of a value. The matches of the pattern cut the value into
matches and gaps; every match, or the first one alone, is converted as a text of its own, and all
else stands where it stood. Cutting is told by offsets of the whole value, while the conversion goes
along what is left of it, and the two come together because matches never go back.
-/
namespace ParameterExpansion

namespace Text

/-- The stretches of a text that begin and end at given offsets. -/
def parts (t : Text) (extents : List Extent) : List Text :=
  extents.map fun e => t.slice e.start e.stop

/-- What lies before, between and behind those stretches, from offset `start` on. -/
def gaps (t : Text) (start : Nat) : List Extent → List Text
  | [] => [t.drop start]
  | e :: extents => t.slice start e.start :: t.gaps e.stop extents

/-- Gaps and parts in turn, with a gap at either end. -/
def weave : List Text → List Text → Text
  | gap :: gaps, part :: parts => gap ++ part ++ weave gaps parts
  | gaps, _ => gaps.flatten

@[simp] theorem parts_nil (t : Text) : t.parts [] = [] := rfl
@[simp] theorem parts_cons (t : Text) (e : Extent) (extents : List Extent) :
    t.parts (e :: extents) = t.slice e.start e.stop :: t.parts extents := rfl
@[simp] theorem gaps_nil (t : Text) (start : Nat) : t.gaps start [] = [t.drop start] := rfl
@[simp] theorem gaps_cons (t : Text) (start : Nat) (e : Extent) (extents : List Extent) :
    t.gaps start (e :: extents) = t.slice start e.start :: t.gaps e.stop extents := rfl
@[simp] theorem weave_cons (gap part : Text) (gaps parts : List Text) :
    weave (gap :: gaps) (part :: parts) = gap ++ part ++ weave gaps parts := rfl
@[simp] theorem weave_singleton (gap : Text) : weave [gap] [] = gap := List.flatten_singleton

theorem length_gaps (t : Text) (start : Nat) (extents : List Extent) :
    (t.gaps start extents).length = (t.parts extents).length + 1 := by
  induction extents generalizing start with
  | nil => rfl
  | cons e extents ih => rw [gaps_cons, List.length_cons, ih, parts_cons, List.length_cons]

end Text

namespace Regex

/-- Every stretch begins where the one before it ends, or later, the first one at offset `start`. -/
def Successive (start : Nat) : List Extent → Prop
  | [] => True
  | e :: extents => start ≤ e.start ∧ e.start ≤ e.stop ∧ Successive e.stop extents

theorem successive_of_pairwise {start : Nat} {extents : List Extent}
    (hpairwise : extents.Pairwise Before) (hforward : ∀ e ∈ extents, e.start ≤ e.stop)
    (hstart : ∀ e ∈ extents, start ≤ e.start) : Successive start extents := by
  induction extents generalizing start with
  | nil => trivial
  | cons e extents ih =>
    obtain ⟨hnext, hpairwise⟩ := List.pairwise_cons.mp hpairwise
    obtain ⟨hhere, hforward⟩ := List.forall_mem_cons.mp hforward
    refine ⟨hstart e List.mem_cons_self, hhere, ih hpairwise hforward fun e' he' => ?_⟩
    exact (hnext e' he').2

theorem LeftmostLongest.successive {r : Regex} {t : Text} {extents : List Extent}
    (h : LeftmostLongest r t extents) : Successive 0 extents :=
  successive_of_pairwise (List.isChain_iff_pairwise.mp h.ordered) (fun _ he => h.start_le_stop he)
    fun _ _ => Nat.zero_le _

section Cut

variable {start : Nat} {extents : List Extent} (h : Successive start extents)

include h

/-- Cutting loses nothing. -/
theorem Successive.weave_parts (t : Text) :
    Text.weave (t.gaps start extents) (t.parts extents) = t.drop start := by
  induction extents generalizing start with
  | nil => exact Text.weave_singleton _
  | cons e extents ih =>
    obtain ⟨hstart, hforward, hnext⟩ := h
    rw [Text.gaps_cons, Text.parts_cons, Text.weave_cons, ih hnext, List.append_assoc,
      Text.slice_append_drop t hforward, Text.slice_append_drop t hstart]

/-- Converting stretches converts the parts and keeps the gaps. -/
theorem Successive.convertExtents_eq (f : Text → Text) (t : Text) :
    convertExtents f start extents (t.drop start) =
      Text.weave (t.gaps start extents) ((t.parts extents).map f) := by
  induction extents generalizing start with
  | nil => exact (Text.weave_singleton _).symm
  | cons e extents ih =>
    obtain ⟨hstart, hforward, hnext⟩ := h
    have hgap : (t.drop start).take (e.start - start) = t.slice start e.start :=
      List.drop_take.symm
    have hrest : (t.drop start).drop (e.stop - start) = t.drop e.stop := by
      rw [List.drop_drop, Nat.add_sub_cancel' (Nat.le_trans hstart hforward)]
    rw [convertExtents, hgap, Text.slice_drop t hstart, hrest, ih hnext, Text.gaps_cons,
      Text.parts_cons, List.map_cons, Text.weave_cons]

end Cut

/-- Only what a search finds is converted. Behind it the text is as it was, with all other matches
in it. -/
theorem convertFirst_eq (r : Regex) (f : Text → Text) (t : Text) :
    r.convertFirst f t =
      match r.search t with
      | none => t
      | some e => t.take e.start ++ f (t.slice e.start e.stop) ++ t.drop e.stop := by
  rw [convertFirst, ← head?_extents]
  cases r.extents t with
  | nil => rfl
  | cons e extents => rfl

section Convert

variable {r : Regex} (hu : Uniform .longest r.items) (f : Text → Text) (t : Text)

include hu

theorem Uniform.weave_parts :
    Text.weave (t.gaps 0 (r.extents t)) (t.parts (r.extents t)) = t :=
  (leftmostLongest_extents hu t).successive.weave_parts t

theorem Uniform.convertAll_eq :
    r.convertAll f t =
      Text.weave (t.gaps 0 (r.extents t)) ((t.parts (r.extents t)).map f) :=
  (leftmostLongest_extents hu t).successive.convertExtents_eq f t

end Convert

/-- What converting the first match, and converting all of them, makes of a text, on one list of
matches: the text falls into matches and gaps, of which only those matches are changed. -/
structure Converts (r : Regex) (f : Text → Text) (t : Text)
    (firstOutcome allOutcome : Except Error Text) : Prop where
  listed : LeftmostLongest r t (r.extents t)
  alternate : (t.gaps 0 (r.extents t)).length = (t.parts (r.extents t)).length + 1
  whole : Text.weave (t.gaps 0 (r.extents t)) (t.parts (r.extents t)) = t
  all : allOutcome = .ok (Text.weave (t.gaps 0 (r.extents t)) ((t.parts (r.extents t)).map f))
  first : ∀ e extents, r.extents t = e :: extents →
    firstOutcome = .ok (t.take e.start ++ f (t.slice e.start e.stop) ++ t.drop e.stop)
  unmatched : r.extents t = [] → firstOutcome = .ok t ∧ allOutcome = .ok t

theorem Uniform.converts {r : Regex} (hu : Uniform .longest r.items) (f : Text → Text) (t : Text) :
    Converts r f t (.ok (r.convertFirst f t)) (.ok (r.convertAll f t)) where
  listed := leftmostLongest_extents hu t
  alternate := t.length_gaps 0 _
  whole := hu.weave_parts t
  all := congrArg _ (hu.convertAll_eq f t)
  first _ _ hextents := by rw [Regex.convertFirst_eq, ← head?_extents, hextents, List.head?_cons]
  unmatched hnone := by
    rw [Regex.convertFirst, Regex.convertAll, hnone]
    exact ⟨rfl, rfl⟩

end Regex

namespace Operator

open Glob (compile compile_anyChar uniform_of_compile)
open Regex (Converts)

variable {pattern : Text} {regex : Regex}

theorem converts_replace (h : compile .longest .free pattern = .ok regex)
    (replacement value : Text) :
    Converts regex (fun _ => replacement) value
      ((Operator.replace .first pattern replacement).apply value)
      ((Operator.replace .all pattern replacement).apply value) := by
  have hfirst : (Operator.replace .first pattern replacement).apply value =
      .ok (regex.convertFirst (fun _ => replacement) value) := by
    rw [apply, replaceMatches, h]
    rfl
  have hall : (Operator.replace .all pattern replacement).apply value =
      .ok (regex.convertAll (fun _ => replacement) value) := by
    rw [apply, replaceMatches, h]
    rfl
  rw [hfirst, hall]
  exact (uniform_of_compile h).converts _ value

theorem converts_recase (h : compile .longest .free (casePattern pattern) = .ok regex)
    (target : LetterCase) (value : Text) :
    Converts regex (toCase target) value ((Operator.recase target .first pattern).apply value)
      ((Operator.recase target .all pattern).apply value) := by
  have hfirst : (Operator.recase target .first pattern).apply value =
      .ok (regex.convertFirst (toCase target) value) := by
    rw [apply, recaseMatches, h]
    rfl
  have hall : (Operator.recase target .all pattern).apply value =
      .ok (regex.convertAll (toCase target) value) := by
    rw [apply, recaseMatches, h]
    rfl
  rw [hfirst, hall]
  exact (uniform_of_compile h).converts _ value

theorem exists_compile_casePattern (h : compile .longest .free pattern = .ok regex) :
    ∃ caseRegex, compile .longest .free (casePattern pattern) = .ok caseRegex := by
  by_cases hempty : pattern = []
  · rw [casePattern, if_pos hempty]
    exact ⟨_, compile_anyChar⟩
  · rw [casePattern, if_neg hempty]
    exact ⟨regex, h⟩

/-- Replacing and changing the case of the first match or of all of them act on one list of matches,
that of the pattern, or of a single code point where a change of case has no pattern. The
replacement is inserted as it stands, and a match is converted as a text of its own. -/
theorem firstAndAll_convert (h : compile .longest .free pattern = .ok regex)
    (replacement value : Text) :
    Converts regex (fun _ => replacement) value
        ((Operator.replace .first pattern replacement).apply value)
        ((Operator.replace .all pattern replacement).apply value) ∧
      ∃ caseRegex,
        compile .longest .free (if pattern = [] then ['?'] else pattern) = .ok caseRegex ∧
        ∀ target, Converts caseRegex (toCase target) value
          ((Operator.recase target .first pattern).apply value)
          ((Operator.recase target .all pattern).apply value) := by
  obtain ⟨caseRegex, hcase⟩ := exists_compile_casePattern h
  exact ⟨converts_replace h replacement value, caseRegex, hcase,
    fun target => converts_recase hcase target value⟩

/-- The empty pattern matches between all code points for a replacement, which is not read as a
template, and each code point for a change of case, which can make it longer and does not see what
is around it. -/
theorem firstAndAll_convert_emptyPattern :
    compile .longest .free [] = .ok ⟨[], []⟩ ∧
    (Operator.replace .first [] "\\1".toList).apply "aß".toList = .ok "\\1aß".toList ∧
    (Operator.replace .all [] "\\1".toList).apply "aß".toList = .ok "\\1a\\1ß\\1".toList ∧
    (Operator.recase .upper .first []).apply "aß".toList = .ok "Aß".toList ∧
    (Operator.recase .upper .all []).apply "aß".toList = .ok "ASS".toList ∧
    (Operator.recase .lower .first []).apply "AΣ".toList = .ok "aΣ".toList ∧
    (Operator.recase .lower .all []).apply "AΣ".toList = .ok "aσ".toList := by
  have hcompile : compile .longest .free [] = .ok ⟨[], []⟩ := by decide +kernel
  have hany : compile .longest .free ['?'] = .ok ⟨['.'], [.one .any]⟩ := by decide +kernel
  obtain ⟨hreplace, caseRegex, hcase, hupper⟩ :=
    firstAndAll_convert hcompile "\\1".toList "aß".toList
  cases hany.symm.trans hcase
  obtain ⟨-, caseRegex, hcase, hlower⟩ := firstAndAll_convert hcompile "\\1".toList "AΣ".toList
  cases hany.symm.trans hcase
  have hbetween : Regex.extents ⟨[], []⟩ "aß".toList = [⟨0, 0⟩, ⟨1, 1⟩, ⟨2, 2⟩] := by
    decide +kernel
  have heach : Regex.extents ⟨['.'], [.one .any]⟩ "aß".toList = [⟨0, 1⟩, ⟨1, 2⟩] := by
    decide +kernel
  have heach' : Regex.extents ⟨['.'], [.one .any]⟩ "AΣ".toList = [⟨0, 1⟩, ⟨1, 2⟩] := by
    decide +kernel
  refine ⟨hcompile, (hreplace.first _ _ hbetween).trans ?_, hreplace.all.trans ?_,
    ((hupper .upper).first _ _ heach).trans ?_, (hupper .upper).all.trans ?_,
    ((hlower .lower).first _ _ heach').trans ?_, (hlower .lower).all.trans ?_⟩
  all_goals decide +kernel

end Operator

end ParameterExpansion
