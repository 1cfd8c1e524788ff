import Mathlib.Data.List.Basic
import ParameterExpansion.Proofs.Evaluator.Divergence
import ParameterExpansion.Proofs.Evaluator.Evaluation

/-!
What is reported by an evaluator that does not raise: a message for each required value that is
missing, in the order of the text, as far as the run gets. A run that raises stops at the first of
them with the same message, and where none is missing the two runs are the same.
-/
namespace ParameterExpansion.Evaluator

open Template

def withRaises (e : Evaluator) (raises : Bool) : Evaluator :=
  { e with raises := raises }

/-- The name and the message of an operator that requires a value where there is none. -/
def missing? (e : Evaluator) (op : Operator) (ref : Reference) : Option (Text × Text) :=
  match op with
  | .require message =>
    if op.kind ∈ e.disabled ∨ (e.values.resolve ref).isSome then none
    else some (ref.name, requirement ref.name message)
  | _ => none

/-- The name and the message of a piece that requires a value where there is none. -/
def unmet? (e : Evaluator) : Piece → Option (Text × Text)
  | .literal _ => none
  | .expansion body =>
    match Expansion.parse body with
    | .error _ => none
    | .ok expansion => e.missing? expansion.op expansion.ref

/-- The pieces up to the first one that fails, and that one. -/
def reached (e : Evaluator) : List Piece → List Piece
  | [] => []
  | piece :: pieces =>
    piece ::
      match (e.expandPiece piece).outcome with
      | .ok _ => e.reached pieces
      | .error _ => []

variable (e : Evaluator)

/-! ### One piece -/

theorem reports_applyTo (op : Operator) (ref : Reference) : (e.applyTo op ref).reports = [] := by
  unfold applyTo
  cases e.lookup ref <;> rfl

/-- Only a required value can make a difference to whether a run raises, or make it report. -/
theorem evaluate_of_not_require {op : Operator} (h : op.kind ≠ .require) (ref : Reference) :
    (e.withRaises true).evaluate op ref = (e.withRaises false).evaluate op ref ∧
      ((e.withRaises false).evaluate op ref).reports = [] := by
  by_cases hd : op.kind ∈ e.disabled
  · rw [(e.withRaises true).evaluate_of_disabled hd, (e.withRaises false).evaluate_of_disabled hd]
    exact ⟨rfl, rfl⟩
  · rw [(e.withRaises true).evaluate_of_enabled hd, (e.withRaises false).evaluate_of_enabled hd]
    cases op with
    | fallback t => exact ⟨rfl, rfl⟩
    | alternate t => exact ⟨rfl, rfl⟩
    | require message => exact absurd rfl h
    | _ => exact ⟨rfl, (e.withRaises false).reports_applyTo _ ref⟩

/-- Where nothing is missing, evaluation makes no report, and is the same whether or not the
evaluator raises. A required value that is missing makes it fail with the message, or report that
and come to nothing. -/
theorem evaluate_raises (op : Operator) (ref : Reference) :
    (e.missing? op ref = none ∧
      (e.withRaises true).evaluate op ref = (e.withRaises false).evaluate op ref ∧
      ((e.withRaises false).evaluate op ref).reports = []) ∨
    ∃ name message, e.missing? op ref = some (name, message) ∧
      (e.withRaises true).evaluate op ref = .fail (.required name message) ∧
      (e.withRaises false).evaluate op ref = .report message [] := by
  cases op with
  | require message =>
    by_cases hd : (Operator.require message).kind ∈ e.disabled
    · -- a disabled requirement fails in both runs before it is looked at
      left
      rw [(e.withRaises true).evaluate_of_disabled hd,
        (e.withRaises false).evaluate_of_disabled hd]
      exact ⟨if_pos (.inl hd), rfl, rfl⟩
    cases hr : e.values.resolve ref with
    | some value =>
      left
      rw [(e.withRaises true).evaluate_require_present hd hr,
        (e.withRaises false).evaluate_require_present hd hr]
      exact ⟨if_pos (.inr (by rw [hr]; rfl)), rfl, rfl⟩
    | none =>
      right
      rw [(e.withRaises true).evaluate_require_missing hd hr,
        (e.withRaises false).evaluate_require_missing hd hr]
      exact ⟨_, _, if_neg (by simp [hd, hr]), rfl, rfl⟩
  | _ => exact .inl ⟨rfl, e.evaluate_of_not_require (by intro h; cases h) ref⟩

theorem expandPiece_raises (piece : Piece) :
    (e.unmet? piece = none ∧
      (e.withRaises true).expandPiece piece = (e.withRaises false).expandPiece piece ∧
      ((e.withRaises false).expandPiece piece).reports = []) ∨
    ∃ name message, e.unmet? piece = some (name, message) ∧
      (e.withRaises true).expandPiece piece = .fail (.required name message) ∧
      (e.withRaises false).expandPiece piece = .report message [] := by
  cases piece with
  | literal t => exact .inl ⟨rfl, rfl, rfl⟩
  | expansion body =>
    simp only [unmet?, expandPiece, expand]
    cases Expansion.parse body with
    | error err => exact .inl ⟨rfl, rfl, rfl⟩
    | ok expansion => exact e.evaluate_raises expansion.op expansion.ref

theorem reports_expandPiece (piece : Piece) :
    ((e.withRaises false).expandPiece piece).reports = (e.unmet? piece).toList.map Prod.snd := by
  rcases e.expandPiece_raises piece with ⟨hnone, -, h⟩ | ⟨name, message, hsome, -, h⟩
  · rw [h, hnone]
    rfl
  · rw [h, hsome]
    rfl

/-- A piece that is expanded by an evaluator that raises has nothing missing. -/
theorem unmet?_of_ok {piece : Piece} {t : Text}
    (h : ((e.withRaises true).expandPiece piece).outcome = .ok t) : e.unmet? piece = none := by
  rcases e.expandPiece_raises piece with ⟨hnone, -, -⟩ | ⟨name, message, -, hfail, -⟩
  · exact hnone
  · rw [hfail] at h
    cases h

/-! ### A whole run -/

theorem reports_expandPieces (pieces : List Piece) :
    ((e.withRaises false).expandPieces pieces).reports =
      (((e.withRaises false).reached pieces).filterMap e.unmet?).map Prod.snd := by
  induction pieces with
  | nil => rfl
  | cons piece pieces ih =>
    have hcons : ∀ rest, ((piece :: rest).filterMap e.unmet?).map Prod.snd =
        ((e.withRaises false).expandPiece piece).reports ++
          (rest.filterMap e.unmet?).map Prod.snd := by
      intro rest
      rw [reports_expandPiece, List.filterMap_cons]
      cases e.unmet? piece <;> rfl
    rw [expandPieces, reached, hcons]
    cases hp : ((e.withRaises false).expandPiece piece).outcome with
    | error err =>
      rw [Run.andThen_of_error hp]
      exact (List.append_nil _).symm
    | ok t =>
      rw [Run.andThen_of_ok hp, Run.reports_andThen fun _ => rfl, ih]

/-- An evaluator that raises reports nothing. -/
theorem reports_expandPieces_raising (pieces : List Piece) :
    ((e.withRaises true).expandPieces pieces).reports = [] := by
  induction pieces with
  | nil => rfl
  | cons piece pieces ih =>
    have hpiece : ((e.withRaises true).expandPiece piece).reports = [] := by
      rcases e.expandPiece_raises piece with ⟨-, heq, h⟩ | ⟨name, message, -, hfail, -⟩
      · rw [heq, h]
      · rw [hfail]
        rfl
    rw [expandPieces, Run.reports_andThen fun _ => ?_, hpiece]
    rw [Run.reports_andThen fun _ => rfl, ih]

theorem reports_substitute (t : Text) :
    (e.substitute t).reports = (e.expandPieces (scan t).pieces).reports := by
  rw [substitute_eq, expandTemplate, Run.reports_andThen]
  intro s
  split <;> rfl

theorem expand_require {body message : Text} {ref : Reference}
    (h : Expansion.parse body = .ok ⟨ref, .require message⟩) (hd : .require ∉ e.disabled) :
    ∃ s, ((e.withRaises false).expand body).outcome = .ok s ∧
      (e.values.resolve ref = none → s = []) := by
  have hexpand : (e.withRaises false).expand body =
      (e.withRaises false).evaluate (.require message) ref := by
    rw [expand, h]
  rw [hexpand]
  cases hr : e.values.resolve ref with
  | some value =>
    rw [(e.withRaises false).evaluate_require_present hd hr]
    exact ⟨value, rfl, fun hnone => nomatch hnone⟩
  | none =>
    rw [(e.withRaises false).evaluate_require_missing hd hr]
    exact ⟨[], rfl, fun _ => rfl⟩

/-- Either nothing is reported and raising makes no difference, or the run that raises fails with
the first report, which is about the first required value in the text that is missing. -/
theorem substitute_raises (t : Text) :
    (((e.withRaises false).substitute t).reports = [] ∧
      (e.withRaises true).substitute t = (e.withRaises false).substitute t) ∨
    ∃ name message rest, ((e.withRaises false).substitute t).reports = message :: rest ∧
      (scan t).pieces.findSome? e.unmet? = some (name, message) ∧
      ((e.withRaises true).substitute t).outcome = .error (.required name message) := by
  rcases substitute_eq_or_diverge (e.withRaises true) (e.withRaises false) t with
    heq | ⟨front, piece, back, s, hpieces, hfront, hs, hpiece⟩
  · left
    refine ⟨?_, heq⟩
    -- the run that reports is also one that raises, and those report nothing
    rw [← heq, reports_substitute, reports_expandPieces_raising]
  · right
    obtain ⟨name, message, hunmet, hraise, hreport⟩ :=
      (e.expandPiece_raises piece).resolve_left fun h => hpiece h.2.1
    have hfirst : [message] <+: ((e.withRaises false).substitute t).reports := by
      have h := reports_prefix_substitute hpieces (hfront ▸ hs)
      rwa [← hfront, reports_expandPieces_raising, hreport] at h
    obtain ⟨rest, hrest⟩ := hfirst
    -- the run that raises has come past every piece before this one
    have hbefore : front.findSome? e.unmet? = none := by
      rw [List.findSome?_eq_none_iff]
      intro other hother
      obtain ⟨r, hr⟩ := exists_ok_of_mem hs other hother
      exact e.unmet?_of_ok hr
    refine ⟨name, message, rest, hrest.symm, ?_, ?_⟩
    · rw [hpieces, List.findSome?_append, hbefore, List.findSome?_cons, hunmet]
      rfl
    · rw [substitute_of_fail hpieces hs hraise]

/-- A run that raises is the run that reports if that reports nothing, and otherwise fails with the
name and the message of the first required value in the text that is missing, which is the first
report. What is reported is the message of each one that is reached. A required value never makes
the run that reports fail, and leaves no text in the result where it is missing. -/
theorem substitute_reporting (t : Text) :
    (((e.withRaises false).substitute t).reports = [] →
      (e.withRaises true).substitute t = (e.withRaises false).substitute t) ∧
    (∀ message rest, ((e.withRaises false).substitute t).reports = message :: rest →
      ∃ name, (scan t).pieces.findSome? e.unmet? = some (name, message) ∧
        ((e.withRaises true).substitute t).outcome = .error (.required name message)) ∧
    ((e.withRaises false).substitute t).reports =
      (((e.withRaises false).reached (scan t).pieces).filterMap e.unmet?).map Prod.snd ∧
    (∀ body ref message, Expansion.parse body = .ok ⟨ref, .require message⟩ →
      .require ∉ e.disabled →
      ∃ s, ((e.withRaises false).expand body).outcome = .ok s ∧
        (e.values.resolve ref = none → s = [])) ∧
    ∀ result, ((e.withRaises false).substitute t).outcome = .ok result →
      ∃ results : List Text, (scan t).pieces.map
          (fun piece => ((e.withRaises false).expandPiece piece).outcome) = results.map .ok ∧
        result = results.flatten := by
  refine ⟨?_, ?_, ?_, fun _ _ _ => e.expand_require, ?_⟩
  · intro hnone
    rcases e.substitute_raises t with ⟨-, heq⟩ | ⟨name, message, rest, hsome, -⟩
    · exact heq
    · rw [hnone] at hsome
      cases hsome
  · intro message rest hsome
    rcases e.substitute_raises t with ⟨hnone, -⟩ | ⟨name, message', rest', hsome', hfirst, hfail⟩
    · rw [hnone] at hsome
      cases hsome
    · cases hsome'.symm.trans hsome
      exact ⟨name, hfirst, hfail⟩
  · rw [reports_substitute, reports_expandPieces]
  · intro result hok
    exact expandPieces_eq_ok_iff.mp (expandPieces_of_substitute_ok hok)

/-- The second of three required values is the first that is missing, and the text ends in an
expansion that is left open. The first one by itself makes no difference. -/
theorem substitute_reporting_second :
    ((withRaises ⟨⟨[(['X'], some ['v'])]⟩, false, true, []⟩ false).substitute
        "$\x7bX:?\x7d$\x7bY:?gone\x7d$\x7b!Z:?\x7d$\x7b".toList).reports =
      ["gone".toList, "Z: parameter null or not set".toList] ∧
    (∃ name, (scan "$\x7bX:?\x7d$\x7bY:?gone\x7d$\x7b!Z:?\x7d$\x7b".toList).pieces.findSome?
        (unmet? ⟨⟨[(['X'], some ['v'])]⟩, false, true, []⟩) = some (name, "gone".toList) ∧
      ((withRaises ⟨⟨[(['X'], some ['v'])]⟩, false, true, []⟩ true).substitute
        "$\x7bX:?\x7d$\x7bY:?gone\x7d$\x7b!Z:?\x7d$\x7b".toList).outcome =
          .error (.required name "gone".toList)) ∧
    ((withRaises ⟨⟨[(['X'], some ['v'])]⟩, false, true, []⟩ false).expand
        "Y:?gone".toList).outcome = .ok [] ∧
    (withRaises ⟨⟨[(['X'], some ['v'])]⟩, false, true, []⟩ true).substitute
        "$\x7bX:?\x7d".toList =
      (withRaises ⟨⟨[(['X'], some ['v'])]⟩, false, true, []⟩ false).substitute
        "$\x7bX:?\x7d".toList := by
  have hreports : ((withRaises ⟨⟨[(['X'], some ['v'])]⟩, false, true, []⟩ false).substitute
      "$\x7bX:?\x7d$\x7bY:?gone\x7d$\x7b!Z:?\x7d$\x7b".toList).reports =
        ["gone".toList, "Z: parameter null or not set".toList] := by decide +kernel
  have hparse : Expansion.parse "Y:?gone".toList =
      .ok ⟨⟨['Y'], false⟩, .require "gone".toList⟩ := by decide +kernel
  obtain ⟨-, hfirst, -, hrequire, -⟩ :=
    substitute_reporting ⟨⟨[(['X'], some ['v'])]⟩, false, true, []⟩
      "$\x7bX:?\x7d$\x7bY:?gone\x7d$\x7b!Z:?\x7d$\x7b".toList
  obtain ⟨s, hs, hempty⟩ := hrequire _ _ _ hparse (by decide)
  rw [hempty rfl] at hs
  exact ⟨hreports, hfirst _ _ hreports, hs,
    (substitute_reporting ⟨⟨[(['X'], some ['v'])]⟩, false, true, []⟩ _).1 (by decide +kernel)⟩

end ParameterExpansion.Evaluator
