import Mathlib.Data.List.Basic
import ParameterExpansion.Proofs.Evaluator.Divergence
import ParameterExpansion.Proofs.Evaluator.Evaluation

/-!
Evaluators with some kinds of operators disabled. Such an evaluator refuses an operator of these
kinds as soon as it comes to it, before the reference is looked up and before a pattern is compiled,
and leaves every other operator to the plain evaluator. So its run over a text is the plain run up
to the first expansion under a disabled operator, and ends there if it gets there.
-/
namespace ParameterExpansion

open Template

/-- The kind of the operator in a piece, if the piece is an expansion that can be read. -/
def Piece.kind? : Piece → Option Operator.Kind
  | .literal _ => none
  | .expansion body =>
    match Expansion.parse body with
    | .error _ => none
    | .ok ⟨_, op⟩ => some op.kind

/-- Whether a piece is an expansion under an operator of one of some kinds. -/
def Piece.uses (kinds : List Operator.Kind) (piece : Piece) : Bool :=
  piece.kind?.any (· ∈ kinds)

theorem Piece.uses_expansion {body : Text} {expansion : Expansion}
    (h : Expansion.parse body = .ok expansion) (kinds : List Operator.Kind) :
    (Piece.expansion body).uses kinds = decide (expansion.op.kind ∈ kinds) := by
  simp [uses, kind?, h]

namespace Evaluator

def withDisabled (e : Evaluator) (disabled : List Operator.Kind) : Evaluator :=
  { e with disabled := disabled }

variable (e : Evaluator)

/-- Operators of disabled kinds are refused, and all others are left to the plain evaluator. -/
theorem evaluate_withDisabled (disabled : List Operator.Kind) (op : Operator) (ref : Reference) :
    (e.withDisabled disabled).evaluate op ref =
      if op.kind ∈ disabled then .fail (.malformed (.disabled op.kind))
      else (e.withDisabled []).evaluate op ref := by
  by_cases hd : op.kind ∈ disabled
  · rw [if_pos hd]
    exact (e.withDisabled disabled).evaluate_of_disabled hd ref
  · have hplain : op.kind ∉ (e.withDisabled []).disabled := by simp [withDisabled]
    rw [if_neg hd, (e.withDisabled disabled).evaluate_of_enabled hd,
      (e.withDisabled []).evaluate_of_enabled hplain]
    cases op <;> rfl

/-- Neither what the store holds nor what the operands are has a part in a refusal. -/
theorem expand_of_disabled {body : Text} {expansion : Expansion}
    (h : Expansion.parse body = .ok expansion) (hd : expansion.op.kind ∈ e.disabled) :
    e.expand body = .fail (.malformed (.disabled expansion.op.kind)) := by
  have hexpand : e.expand body = e.evaluate expansion.op expansion.ref := by
    rw [expand, h]
  rw [hexpand, e.evaluate_of_disabled hd]

theorem expandPiece_withDisabled {disabled : List Operator.Kind} {piece : Piece}
    (h : piece.uses disabled = false) :
    (e.withDisabled disabled).expandPiece piece = (e.withDisabled []).expandPiece piece := by
  cases piece with
  | literal t => rfl
  | expansion body =>
    simp only [expandPiece, expand]
    cases hparse : Expansion.parse body with
    | error err => rfl
    | ok expansion =>
      have henabled : expansion.op.kind ∉ disabled := by
        rw [Piece.uses_expansion hparse] at h
        exact of_decide_eq_false h
      exact (e.evaluate_withDisabled disabled _ _).trans (if_neg henabled)

theorem expandPieces_withDisabled {disabled : List Operator.Kind} {pieces : List Piece}
    (h : ∀ piece ∈ pieces, piece.uses disabled = false) :
    (e.withDisabled disabled).expandPieces pieces = (e.withDisabled []).expandPieces pieces := by
  refine (expandPieces_eq_or_diverge _ _ pieces).resolve_right ?_
  intro ⟨front, piece, back, s, hpieces, hfront, hs, hpiece⟩
  have hmem : piece ∈ pieces := by simp [hpieces]
  exact hpiece (e.expandPiece_withDisabled (h piece hmem))

theorem substitute_withDisabled {disabled : List Operator.Kind} {t : Text}
    (h : ∀ piece ∈ (scan t).pieces, piece.uses disabled = false) :
    (e.withDisabled disabled).substitute t = (e.withDisabled []).substitute t := by
  have hpieces := e.expandPieces_withDisabled h
  rw [substitute_eq, substitute_eq, expandTemplate, expandTemplate, hpieces]

/-- A failure in the first pieces is the outcome, with what they report. -/
theorem substitute_of_front_error {t : Text} {front back : List Piece} {piece : Piece} {err : Error}
    (h : (scan t).pieces = front ++ piece :: back)
    (hfront : (e.expandPieces front).outcome = .error err) :
    e.substitute t = ⟨.error err, (e.expandPieces front).reports⟩ := by
  obtain ⟨rest, hrest⟩ := e.substitute_split h
  rw [hrest, Run.andThen_of_error hfront]

/-- An evaluator with disabled kinds refuses their operators and leaves the others to the plain
evaluator. A text without such operators gives the same run on both. In any other text the first
expansion under a disabled operator decides: if the plain run fails before it, the runs are the
same; if not, the run ends there with the refusal, after what the plain run reports up to there.
That expansion is refused whatever the store holds and whatever the modes are. -/
theorem substitute_interception (disabled : List Operator.Kind) (t : Text) :
    (∀ op ref, (e.withDisabled disabled).evaluate op ref =
      if op.kind ∈ disabled then .fail (.malformed (.disabled op.kind))
      else (e.withDisabled []).evaluate op ref) ∧
    ((∀ piece ∈ (scan t).pieces, piece.uses disabled = false) →
      (e.withDisabled disabled).substitute t = (e.withDisabled []).substitute t) ∧
    ∀ front body back expansion, (scan t).pieces = front ++ .expansion body :: back →
      (∀ piece ∈ front, piece.uses disabled = false) →
      Expansion.parse body = .ok expansion → expansion.op.kind ∈ disabled →
      (∀ err, ((e.withDisabled []).expandPieces front).outcome = .error err →
        ((e.withDisabled []).substitute t).outcome = .error err ∧
          (e.withDisabled disabled).substitute t = (e.withDisabled []).substitute t) ∧
      (∀ s, ((e.withDisabled []).expandPieces front).outcome = .ok s →
        (e.withDisabled disabled).substitute t =
          ⟨.error (.malformed (.disabled expansion.op.kind)),
            ((e.withDisabled []).expandPieces front).reports⟩) ∧
      (∀ e' : Evaluator, e'.disabled = disabled →
        e'.expand body = .fail (.malformed (.disabled expansion.op.kind))) ∧
      (Error.malformed (.disabled expansion.op.kind)).message =
        "bad expansion; ".toList ++ (expansion.op.kind.label ++ " is disabled".toList) := by
  refine ⟨e.evaluate_withDisabled disabled, e.substitute_withDisabled, ?_⟩
  intro front body back expansion hpieces hfront hparse hd
  have hsame := e.expandPieces_withDisabled hfront
  refine ⟨?_, ?_, ?_, rfl⟩
  · intro err herr
    have hplain := (e.withDisabled []).substitute_of_front_error hpieces herr
    have hwith := (e.withDisabled disabled).substitute_of_front_error hpieces
      (by rw [hsame]; exact herr)
    constructor
    · rw [hplain]
    · rw [hwith, hplain, hsame]
  · intro s hs
    have hrefused := (e.withDisabled disabled).expand_of_disabled hparse hd
    rw [← hsame]
    exact substitute_of_fail hpieces (by rw [hsame]; exact hs) hrefused
  · intro e' he'
    exact e'.expand_of_disabled hparse (by rw [he']; exact hd)

/-- The report before the disabled operator is made, and neither its unset name nor its bad range is
looked at. By itself the plain evaluator fails for the range. -/
theorem substitute_interception_badRange :
    (withDisabled ⟨.empty, false, false, []⟩ [.replace .all]).substitute
        "$\x7bN:?m\x7d$\x7bX//[z-a]/r\x7d$\x7b".toList =
      ⟨.error (.malformed (.disabled (.replace .all))), [['m']]⟩ ∧
    ((withDisabled ⟨.empty, false, false, []⟩ []).expand "X//[z-a]/r".toList).outcome =
      .error (.malformed (.badPattern "[z-a]".toList ⟨"[z-a]".toList, 1, .badRange ['z'] ['a']⟩)) ∧
    (withDisabled ⟨.empty, false, false, []⟩ [.replace .all]).substitute "$\x7bX/a/b\x7d".toList =
      (withDisabled ⟨.empty, false, false, []⟩ []).substitute "$\x7bX/a/b\x7d".toList := by
  obtain ⟨-, -, hfirst⟩ := substitute_interception ⟨.empty, false, false, []⟩ [.replace .all]
    "$\x7bN:?m\x7d$\x7bX//[z-a]/r\x7d$\x7b".toList
  obtain ⟨-, hnone, -⟩ := substitute_interception ⟨.empty, false, false, []⟩ [.replace .all]
    "$\x7bX/a/b\x7d".toList
  obtain ⟨-, hrefused, -⟩ := hfirst [.expansion "N:?m".toList] "X//[z-a]/r".toList []
    ⟨⟨['X'], false⟩, .replace .all "[z-a]".toList ['r']⟩ (by decide +kernel) (by decide +kernel)
    (by decide +kernel) (by decide)
  refine ⟨hrefused [] (by decide +kernel), by decide +kernel, hnone (by decide +kernel)⟩

end Evaluator

end ParameterExpansion
