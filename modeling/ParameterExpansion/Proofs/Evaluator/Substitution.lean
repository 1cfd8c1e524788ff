import ParameterExpansion.Evaluator
import ParameterExpansion.Proofs.Template.Scan

/-!
Substitution by equations on the text: a code point that opens nothing stands for itself, a closed
expansion for its result, and an opening that nothing closes is a failure. The shorter way for a
text without expansions comes to the same.
-/
namespace ParameterExpansion

namespace Run

theorem pure_andThen (a : α) (f : α → Run β) : (pure a : Run α).andThen f = f a := rfl

theorem andThen_of_error {x : Run α} {e : Error} (h : x.outcome = .error e) (f : α → Run β) :
    x.andThen f = ⟨.error e, x.reports⟩ := by
  rw [andThen, h]

theorem andThen_of_ok {x : Run α} {a : α} (h : x.outcome = .ok a) (f : α → Run β) :
    x.andThen f = ⟨(f a).outcome, x.reports ++ (f a).reports⟩ := by
  rw [andThen, h]

theorem andThen_pure (x : Run α) : x.andThen pure = x := by
  obtain ⟨outcome, reports⟩ := x
  cases outcome with
  | error e => rfl
  | ok a => exact congrArg (Run.mk _) (List.append_nil reports)

theorem andThen_assoc (x : Run α) (f : α → Run β) (g : β → Run γ) :
    (x.andThen f).andThen g = x.andThen fun a => (f a).andThen g := by
  cases hx : x.outcome with
  | error e => rw [andThen_of_error hx, andThen_of_error hx, andThen_of_error rfl]
  | ok a =>
    rw [andThen_of_ok hx, andThen_of_ok hx]
    cases hf : (f a).outcome with
    | error e => rw [andThen_of_error rfl, andThen_of_error hf]
    | ok b => rw [andThen_of_ok rfl, andThen_of_ok hf, List.append_assoc]

/-- A chain fails where its first part does, or where that succeeds and the second part fails. -/
theorem andThen_eq_error_iff {x : Run α} {f : α → Run β} {e : Error} :
    (x.andThen f).outcome = .error e ↔
      x.outcome = .error e ∨ ∃ a, x.outcome = .ok a ∧ (f a).outcome = .error e := by
  cases hx : x.outcome with
  | error e' => simp [andThen_of_error hx]
  | ok a => simp [andThen_of_ok hx]

/-- A chain succeeds where both parts do. -/
theorem andThen_eq_ok_iff {x : Run α} {f : α → Run β} {b : β} :
    (x.andThen f).outcome = .ok b ↔ ∃ a, x.outcome = .ok a ∧ (f a).outcome = .ok b := by
  cases hx : x.outcome with
  | error e => simp [andThen_of_error hx]
  | ok a => simp [andThen_of_ok hx]

/-- A second part that reports nothing leaves the reports as they are. -/
theorem reports_andThen {x : Run α} {f : α → Run β} (h : ∀ a, (f a).reports = []) :
    (x.andThen f).reports = x.reports := by
  cases hx : x.outcome with
  | error e => rw [andThen_of_error hx]
  | ok a => rw [andThen_of_ok hx, h, List.append_nil]

end Run

namespace Evaluator

open Template

theorem expandPieces_consLiteral (e : Evaluator) (c : Char) (template : Template) :
    e.expandPieces (consLiteral c template).pieces =
      (e.expandPieces template.pieces).andThen fun t => pure (c :: t) := by
  unfold consLiteral
  split
  · rename_i hp
    simp only [hp, expandPieces, expandPiece, Run.pure_andThen, Run.andThen_assoc]
    rfl
  · simp only [expandPieces, expandPiece, Run.pure_andThen]
    rfl

theorem expandTemplate_consLiteral (e : Evaluator) (c : Char) (template : Template) :
    e.expandTemplate (consLiteral c template) =
      (e.expandTemplate template).andThen fun t => pure (c :: t) := by
  simp only [expandTemplate, expandPieces_consLiteral, unclosed_consLiteral, Run.andThen_assoc]
  cases template.unclosed <;> rfl

theorem expandTemplate_consExpansion (e : Evaluator) (body : Text) (template : Template) :
    e.expandTemplate (consExpansion body template) =
      (e.expand body).andThen fun s =>
        (e.expandTemplate template).andThen fun t => pure (s ++ t) := by
  obtain ⟨pieces, unclosed⟩ := template
  simp only [expandTemplate, consExpansion, expandPieces, expandPiece, Run.andThen_assoc]
  cases unclosed <;> rfl

theorem hasOpening_of_opening? {t inside : Text} (h : opening? t = some inside) :
    hasOpening t = true := by
  cases t with
  | nil => cases h
  | cons c rest => rw [hasOpening, h, Option.isSome_some, Bool.true_or]

/-- Where there is nothing to expand, expanding the template changes nothing. -/
theorem expandTemplate_scan_of_not_hasOpening (e : Evaluator) {t : Text}
    (h : hasOpening t = false) : e.expandTemplate (scan t) = pure t := by
  induction t using scan_induction with
  | nil =>
    rw [scan_nil]
    rfl
  | literal c rest ho ih =>
    rw [hasOpening, Bool.or_eq_false_iff] at h
    rw [scan_literal ho, expandTemplate_consLiteral, ih h.2]
    rfl
  | unclosed inside hs =>
    rw [hasOpening_of_opening? rfl] at h
    cases h
  | closed body after hb ih =>
    rw [hasOpening_of_opening? rfl] at h
    cases h

/-- The shorter way for a text without expansions comes to the same as scanning it. -/
theorem substitute_eq (e : Evaluator) (t : Text) :
    e.substitute t = e.expandTemplate (scan t) := by
  unfold substitute
  split
  · rfl
  · rename_i h
    exact (e.expandTemplate_scan_of_not_hasOpening (Bool.eq_false_iff.mpr h)).symm

theorem substitute_nil (e : Evaluator) : e.substitute [] = pure [] := rfl

theorem substitute_literal (e : Evaluator) {c : Char} {rest : Text}
    (h : opening? (c :: rest) = none) :
    e.substitute (c :: rest) = (e.substitute rest).andThen fun t => pure (c :: t) := by
  rw [substitute_eq, substitute_eq, scan_literal h, expandTemplate_consLiteral]

theorem substitute_unclosed (e : Evaluator) {inside : Text} (h : splitBody 0 inside = none) :
    e.substitute ('$' :: '{' :: inside) = .fail .unmatchedBrace := by
  rw [substitute_eq, scan_unclosed h]
  rfl

theorem substitute_closed (e : Evaluator) {body : Text} (h : Balanced body) (after : Text) :
    e.substitute ('$' :: '{' :: (body ++ '}' :: after)) =
      (e.expand body).andThen fun s =>
        (e.substitute after).andThen fun t => pure (s ++ t) := by
  rw [substitute_eq, substitute_eq, scan_closed h, expandTemplate_consExpansion]

/-- A text that something is substituted in has no expansion left open. -/
theorem unclosed_of_substitute_ok {e : Evaluator} {t result : Text}
    (h : (e.substitute t).outcome = .ok result) : (scan t).unclosed = none := by
  cases hu : (scan t).unclosed with
  | none => rfl
  | some inside =>
    rw [substitute_eq, expandTemplate] at h
    cases hp : (e.expandPieces (scan t).pieces).outcome with
    | error err =>
      rw [Run.andThen_of_error hp] at h
      cases h
    | ok s =>
      rw [Run.andThen_of_ok hp, hu] at h
      cases h

theorem expandPieces_of_substitute_ok {e : Evaluator} {t result : Text}
    (h : (e.substitute t).outcome = .ok result) :
    (e.expandPieces (scan t).pieces).outcome = .ok result := by
  have hclosed := unclosed_of_substitute_ok h
  rw [substitute_eq, expandTemplate] at h
  obtain ⟨s, hs, hresult⟩ := Run.andThen_eq_ok_iff.mp h
  rw [hclosed] at hresult
  cases hresult
  exact hs

end Evaluator

end ParameterExpansion
