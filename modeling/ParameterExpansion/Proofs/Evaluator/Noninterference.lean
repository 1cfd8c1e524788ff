import Mathlib.Data.List.Basic
import ParameterExpansion.Proofs.Evaluator.Divergence
import ParameterExpansion.Proofs.Evaluator.Evaluation
import ParameterExpansion.Proofs.Store.Content

/-!
What a substitution can tell of a store: what comes of the names that the text refers to, and of
those that indirect references lead on to, and in strict mode which names direct references find
there. Two stores that are alike in this give the same run. So no name that is not referred to can
be noticed, and in lenient mode no name that nothing comes of.
-/
namespace ParameterExpansion

open Template

/-- The reference of a piece, if it is an expansion that can be read. -/
def Piece.reference? : Piece → Option Reference
  | .literal _ => none
  | .expansion body =>
    match Expansion.parse body with
    | .error _ => none
    | .ok ⟨ref, _⟩ => some ref

/-- The references in a text. -/
def Template.references (t : Text) : List Reference :=
  (scan t).pieces.filterMap Piece.reference?

namespace Store

/-- A reference asks a store for its name, and an indirect one for the text that comes of that. -/
inductive Consults (s : Store) : Reference → Text → Prop where
  | name (ref : Reference) : s.Consults ref ref.name
  | target {name target : Text} (ht : s.get? name = some (some target)) (hne : target ≠ []) :
    s.Consults ⟨name, true⟩ target

/-- A reference finds the same in two stores. In strict mode a direct one also finds its name in
both or in neither. -/
structure AlikeFor (s s' : Store) (strict : Bool) (ref : Reference) : Prop where
  agree : ∀ name, s.Consults ref name → s.AgreeAt s' name
  holds : strict = true → ref.indirect = false → s.contains ref.name = s'.contains ref.name

theorem resolve_congr {s s' : Store} {ref : Reference}
    (h : ∀ name, s.Consults ref name → s.AgreeAt s' name) : s.resolve ref = s'.resolve ref := by
  have hname : s.content ref.name = s'.content ref.name := agreeAt_iff.mp (h _ (.name ref))
  obtain ⟨name, indirect⟩ := ref
  cases indirect with
  | false => exact hname
  | true =>
    change (s.content name).bind s.content = (s'.content name).bind s'.content
    rw [← hname]
    cases ht : s.content name with
    | none => rfl
    | some target =>
      obtain ⟨hget, hne⟩ := content_eq_some_iff.mp ht
      exact agreeAt_iff.mp (h target (.target hget hne))

end Store

namespace Evaluator

def withValues (e : Evaluator) (values : Store) : Evaluator :=
  { e with values := values }

variable (e : Evaluator) {s s' : Store}

theorem refuses_congr {ref : Reference} (h : s.AlikeFor s' e.strict ref) :
    (e.withValues s).refuses ref = (e.withValues s').refuses ref := by
  have hname : s.content ref.name = s'.content ref.name :=
    Store.agreeAt_iff.mp (h.agree _ (.name ref))
  unfold refuses withValues
  cases hi : ref.indirect with
  | true => exact congrArg Option.isNone hname
  | false =>
    cases hs : e.strict with
    | false => rfl
    | true => simp [h.holds hs hi]

theorem lookup_congr {ref : Reference} (h : s.AlikeFor s' e.strict ref) :
    (e.withValues s).lookup ref = (e.withValues s').lookup ref := by
  have hresolve : (e.withValues s).values.resolve ref = (e.withValues s').values.resolve ref :=
    Store.resolve_congr h.agree
  rw [lookup_eq, lookup_eq, e.refuses_congr h, hresolve]

/-- Evaluation uses a store for one lookup only. -/
theorem evaluate_congr {ref : Reference} (h : s.AlikeFor s' e.strict ref) (op : Operator) :
    (e.withValues s).evaluate op ref = (e.withValues s').evaluate op ref := by
  have hlookup := e.lookup_congr h
  have hlookup? : (e.withValues s).lookup? ref = (e.withValues s').lookup? ref := by
    rw [lookup?, lookup?, hlookup]
  have henabled : (e.withValues s).evaluateEnabled op ref =
      (e.withValues s').evaluateEnabled op ref := by
    cases op with
    | require message =>
      simp only [evaluateEnabled, hlookup?]
      rfl
    | _ => simp only [evaluateEnabled, applyTo, hlookup, hlookup?]
  rw [evaluate, evaluate, henabled]
  rfl

theorem expandPiece_congr {piece : Piece}
    (h : ∀ ref ∈ piece.reference?, s.AlikeFor s' e.strict ref) :
    (e.withValues s).expandPiece piece = (e.withValues s').expandPiece piece := by
  cases piece with
  | literal t => rfl
  | expansion body =>
    simp only [expandPiece, expand]
    cases hparse : Expansion.parse body with
    | error err => rfl
    | ok expansion =>
      exact e.evaluate_congr (h expansion.ref (by simp [Piece.reference?, hparse])) expansion.op

theorem substitute_congr {t : Text} (h : ∀ ref ∈ references t, s.AlikeFor s' e.strict ref) :
    (e.withValues s).substitute t = (e.withValues s').substitute t := by
  refine (substitute_eq_or_diverge _ _ t).resolve_right ?_
  rintro ⟨front, piece, back, -, hpieces, -, -, hpiece⟩
  refine hpiece (e.expandPiece_congr fun ref href => h ref ?_)
  exact List.mem_filterMap.mpr ⟨piece, by simp [hpieces], href⟩

/-- Two stores that are alike for every reference in a text give the same run. In particular names
that nothing comes of can be erased unnoticed in lenient mode, and names that no reference asks for
can be inserted unnoticed in both. -/
theorem substitute_noninterference (t : Text) (s : Store) :
    (∀ s', (∀ ref ∈ references t, s.AlikeFor s' e.strict ref) →
      (e.withValues s').substitute t = (e.withValues s).substitute t) ∧
    (e.strict = false → ∀ names : List Text, (∀ name ∈ names, s.Blank name) →
      (e.withValues (names.foldl Store.erase s)).substitute t =
        (e.withValues s).substitute t) ∧
    ∀ entries, (∀ entry ∈ entries, ∀ ref ∈ references t, ¬s.Consults ref entry.1) →
      (e.withValues (s.insertAll entries)).substitute t = (e.withValues s).substitute t := by
  refine ⟨fun s' h => (e.substitute_congr h).symm, fun hlenient names hblank => ?_,
    fun entries hentries => ?_⟩
  · refine (e.substitute_congr fun ref _ => ⟨fun name _ => ?_, fun hstrict => ?_⟩).symm
    · exact Store.agreeAt_iff.mpr (Store.content_foldl_erase hblank name).symm
    · rw [hlenient] at hstrict
      cases hstrict
  · refine (e.substitute_congr fun ref href => ?_).symm
    have hget : ∀ name, s.Consults ref name → (s.insertAll entries).get? name = s.get? name := by
      intro name hname
      refine Store.get?_insertAll_of_ne (fun entry hentry heq => ?_) s
      exact hentries entry hentry ref href (heq ▸ hname)
    refine ⟨fun name hname => ?_, fun _ _ => ?_⟩
    · rw [Store.agreeAt_iff, Store.content, Store.content, hget name hname]
    · rw [Store.contains, Store.contains, hget ref.name (.name ref)]

/-- A name that is null makes no difference to a text that refers to it, whether it is left out
from the beginning or erased, and neither does one that the text does not refer to. What the text
does refer to, through a pointer, comes out. -/
theorem substitute_noninterference_null :
    references "$\x7b!P\x7d$\x7bN\x7d".toList = [⟨['P'], true⟩, ⟨['N'], false⟩] ∧
    (withValues ⟨.empty, false, true, []⟩
        ⟨[(['P'], some ['X']), (['X'], some ['v'])]⟩).substitute
          "$\x7b!P\x7d$\x7bN\x7d".toList =
      (withValues ⟨.empty, false, true, []⟩
        ⟨[(['N'], none), (['P'], some ['X']), (['X'], some ['v'])]⟩).substitute
          "$\x7b!P\x7d$\x7bN\x7d".toList ∧
    (withValues ⟨.empty, false, true, []⟩ ([['N']].foldl Store.erase
        ⟨[(['N'], none), (['P'], some ['X']), (['X'], some ['v'])]⟩)).substitute
          "$\x7b!P\x7d$\x7bN\x7d".toList =
      (withValues ⟨.empty, false, true, []⟩
        ⟨[(['N'], none), (['P'], some ['X']), (['X'], some ['v'])]⟩).substitute
          "$\x7b!P\x7d$\x7bN\x7d".toList ∧
    (withValues ⟨.empty, false, true, []⟩ (Store.insertAll
        ⟨[(['N'], none), (['P'], some ['X']), (['X'], some ['v'])]⟩ [(['Z'], some ['z'])])).substitute
          "$\x7b!P\x7d$\x7bN\x7d".toList =
      (withValues ⟨.empty, false, true, []⟩
        ⟨[(['N'], none), (['P'], some ['X']), (['X'], some ['v'])]⟩).substitute
          "$\x7b!P\x7d$\x7bN\x7d".toList ∧
    ((withValues ⟨.empty, false, true, []⟩
        ⟨[(['N'], none), (['P'], some ['X']), (['X'], some ['v'])]⟩).substitute
          "$\x7b!P\x7d$\x7bN\x7d".toList).outcome = .ok ['v'] := by
  have hrefs : references "$\x7b!P\x7d$\x7bN\x7d".toList =
      [⟨['P'], true⟩, ⟨['N'], false⟩] := by decide +kernel
  obtain ⟨halike, herase, hinsert⟩ := substitute_noninterference ⟨.empty, false, true, []⟩
    "$\x7b!P\x7d$\x7bN\x7d".toList
    ⟨[(['N'], none), (['P'], some ['X']), (['X'], some ['v'])]⟩
  refine ⟨hrefs, halike _ ?_, herase rfl [['N']] ?_, hinsert _ ?_, by decide +kernel⟩
  · rw [hrefs]
    intro ref href
    refine ⟨fun name hname => Store.agreeAt_iff.mpr ?_, fun hstrict => by cases hstrict⟩
    simp only [List.mem_cons, List.not_mem_nil, or_false] at href
    rcases href with rfl | rfl
    · cases hname with
      | name => rfl
      | target ht hne =>
        cases ht
        rfl
    · cases hname
      rfl
  · simp [Store.Blank, Store.get?]
  · rw [hrefs]
    intro entry hentry ref href hname
    simp only [List.mem_cons, List.not_mem_nil, or_false] at href hentry
    subst hentry
    rcases href with rfl | rfl
    · generalize hz : (['Z'] : Text) = z at hname
      cases hname with
      | name => cases hz
      | target ht hne =>
        cases ht
        cases hz
    · generalize hz : (['Z'] : Text) = z at hname
      cases hname
      cases hz

end Evaluator

end ParameterExpansion
