import Mathlib.Data.List.Basic
import ParameterExpansion.Proofs.Evaluator.Divergence
import ParameterExpansion.Proofs.Evaluator.Evaluation

/-!
Strictness only adds failures. A strict run and a lenient one over the same store are the same, or
the strict one stops at a direct reference to a name that the store does not hold, under an operator
that is not for missing values; up to there they are the same.
-/
namespace ParameterExpansion

namespace Evaluator

open Template

def withStrict (e : Evaluator) (strict : Bool) : Evaluator :=
  { e with strict := strict }

variable (e : Evaluator)

theorem lookup?_withStrict (strict : Bool) (ref : Reference) :
    (e.withStrict strict).lookup? ref = e.lookup? ref := by
  rw [lookup?_eq_resolve, lookup?_eq_resolve]
  rfl

theorem evaluateEnabled_of_tolerates {op : Operator} (h : op.kind.toleratesMissing = true)
    (strict : Bool) (ref : Reference) :
    (e.withStrict strict).evaluateEnabled op ref = e.evaluateEnabled op ref := by
  cases op with
  | fallback t => simp only [evaluateEnabled, lookup?_withStrict]
  | alternate t => simp only [evaluateEnabled, lookup?_withStrict]
  | require message =>
    simp only [evaluateEnabled, lookup?_withStrict]
    rfl
  | _ => cases h

/-- A strict evaluator refuses what a lenient one does, and direct references to names that the
store does not hold. -/
theorem refuses_strict (ref : Reference) :
    (e.withStrict true).refuses ref = (e.withStrict false).refuses ref ∨
      ref.indirect = false ∧ e.values.contains ref.name = false := by
  unfold refuses
  cases hi : ref.indirect with
  | true => exact .inl rfl
  | false =>
    cases hc : e.values.contains ref.name with
    | true =>
      left
      simp [withStrict, hc]
    | false => exact .inr ⟨rfl, rfl⟩

/-- An expansion that refers directly to a name which the store does not hold, under an operator
that is not for missing values. -/
def UnboundAt (body name : Text) : Prop :=
  ∃ op, Expansion.parse body = .ok ⟨⟨name, false⟩, op⟩ ∧ op.kind.toleratesMissing = false ∧
    op.kind ∉ e.disabled ∧ e.values.contains name = false

/-- A strict evaluator fails for it, whatever is to be made of the value. -/
theorem expand_of_unboundAt {body name : Text} (h : e.UnboundAt body name) :
    (e.withStrict true).expand body = .fail (.unbound name) := by
  obtain ⟨op, hparse, ht, hd, hc⟩ := h
  have hexpand : (e.withStrict true).expand body =
      (e.withStrict true).evaluate op ⟨name, false⟩ := by
    rw [expand, hparse]
  have hrefuses : (e.withStrict true).refuses ⟨name, false⟩ = true := by
    simp [refuses, withStrict, hc]
  rw [hexpand, (e.withStrict true).evaluate_of_enabled hd, evaluateEnabled_of_not_tolerates _ ht,
    applyTo, lookup_eq, if_pos hrefuses]

theorem evaluate_strict (op : Operator) (ref : Reference) :
    (e.withStrict true).evaluate op ref = (e.withStrict false).evaluate op ref ∨
      ref.indirect = false ∧ op.kind.toleratesMissing = false ∧ op.kind ∉ e.disabled ∧
        e.values.contains ref.name = false := by
  by_cases hd : op.kind ∈ e.disabled
  · left
    rw [(e.withStrict true).evaluate_of_disabled hd, (e.withStrict false).evaluate_of_disabled hd]
  · rw [(e.withStrict true).evaluate_of_enabled hd, (e.withStrict false).evaluate_of_enabled hd]
    cases ht : op.kind.toleratesMissing with
    | true =>
      left
      rw [evaluateEnabled_of_tolerates e ht, evaluateEnabled_of_tolerates e ht]
    | false =>
      rw [evaluateEnabled_of_not_tolerates _ ht, evaluateEnabled_of_not_tolerates _ ht]
      rcases e.refuses_strict ref with heq | ⟨hi, hc⟩
      · left
        rw [applyTo, applyTo, lookup_eq, lookup_eq, heq]
        rfl
      · exact .inr ⟨hi, rfl, hd, hc⟩

/-- Only for such an expansion do the modes differ. -/
theorem expand_strict (body : Text) :
    (e.withStrict true).expand body = (e.withStrict false).expand body ∨
      ∃ name, e.UnboundAt body name := by
  unfold expand
  cases hparse : Expansion.parse body with
  | error err => exact .inl rfl
  | ok expansion =>
    obtain ⟨⟨name, indirect⟩, op⟩ := expansion
    rcases e.evaluate_strict op ⟨name, indirect⟩ with heq | ⟨rfl, ht, hd, hc⟩
    · exact .inl heq
    · exact .inr ⟨name, op, hparse, ht, hd, hc⟩

theorem not_unboundAt {body name : Text}
    (h : ∀ expansion, Expansion.parse body = .ok expansion →
      expansion.ref.indirect = true ∨ expansion.op.kind.toleratesMissing = true) :
    ¬e.UnboundAt body name := by
  rintro ⟨op, hparse, ht, -, -⟩
  rcases h _ hparse with hi | ht'
  · cases hi
  · rw [ht] at ht'
    cases ht'

theorem substitute_of_unboundAt {t body name s : Text} {front back : List Piece}
    (hpieces : (scan t).pieces = front ++ .expansion body :: back)
    (hs : ((e.withStrict true).expandPieces front).outcome = .ok s) (hu : e.UnboundAt body name) :
    (e.withStrict true).substitute t =
      ⟨.error (.unbound name), ((e.withStrict true).expandPieces front).reports⟩ :=
  substitute_of_fail hpieces hs (e.expand_of_unboundAt hu)

/-- The runs of a text in both modes are the same, or the strict one fails at an expansion that
refers directly to a name which the store does not hold, under an operator that is not for missing
values. Everything before that is expanded in both modes, and all that the strict run reports the
lenient one reports first. A strict run that comes to such an expansion does fail there. If all
references go through other names or are under operators for missing values, the runs are the
same. -/
theorem substitute_strict (t : Text) :
    ((e.withStrict true).substitute t = (e.withStrict false).substitute t ∨
      ∃ front body back name, (scan t).pieces = front ++ .expansion body :: back ∧
        e.UnboundAt body name ∧
        (∀ piece ∈ front, ∃ s s', ((e.withStrict true).expandPiece piece).outcome = .ok s ∧
          ((e.withStrict false).expandPiece piece).outcome = .ok s') ∧
        ((e.withStrict true).substitute t).outcome = .error (.unbound name) ∧
        (Error.unbound name).message = name ++ ": unbound variable".toList ∧
        ((e.withStrict true).substitute t).reports <+:
          ((e.withStrict false).substitute t).reports) ∧
    (∀ front body back name s, (scan t).pieces = front ++ .expansion body :: back →
      ((e.withStrict true).expandPieces front).outcome = .ok s → e.UnboundAt body name →
      ((e.withStrict true).substitute t).outcome = .error (.unbound name)) ∧
    ((∀ body expansion, .expansion body ∈ (scan t).pieces →
        Expansion.parse body = .ok expansion →
        expansion.ref.indirect = true ∨ expansion.op.kind.toleratesMissing = true) →
      (e.withStrict true).substitute t = (e.withStrict false).substitute t) := by
  have hfails : ∀ front body back name s, (scan t).pieces = front ++ .expansion body :: back →
      ((e.withStrict true).expandPieces front).outcome = .ok s → e.UnboundAt body name →
      ((e.withStrict true).substitute t).outcome = .error (.unbound name) := by
    intro front body back name s hpieces hs hu
    rw [e.substitute_of_unboundAt hpieces hs hu]
  rcases substitute_eq_or_diverge (e.withStrict true) (e.withStrict false) t with
    heq | ⟨front, piece, back, s, hpieces, hfront, hs, hpiece⟩
  · exact ⟨.inl heq, hfails, fun _ => heq⟩
  obtain ⟨body, rfl⟩ : ∃ body, piece = .expansion body := by
    cases piece with
    | literal u => exact absurd rfl hpiece
    | expansion body => exact ⟨body, rfl⟩
  obtain ⟨name, hu⟩ := (e.expand_strict body).resolve_left hpiece
  refine ⟨.inr ⟨front, body, back, name, hpieces, hu, ?_, ?_, rfl, ?_⟩, hfails, fun hall => ?_⟩
  · intro other hother
    obtain ⟨r, hr⟩ := exists_ok_of_mem hs other hother
    obtain ⟨r', hr'⟩ := exists_ok_of_mem (hfront ▸ hs) other hother
    exact ⟨r, r', hr, hr'⟩
  · exact hfails front body back name s hpieces hs hu
  · rw [e.substitute_of_unboundAt hpieces hs hu, hfront]
    exact (List.prefix_append _ _).trans (reports_prefix_substitute hpieces (hfront ▸ hs))
  · have hmem : .expansion body ∈ (scan t).pieces := by simp [hpieces]
    exact absurd hu (e.not_unboundAt fun expansion => hall body expansion hmem)

/-- A pointer to a name that is not in the store, and that name with another text to take its
place, or by itself. -/
theorem substitute_strict_pointer :
    (∀ body expansion, .expansion body ∈ (scan "$\x7b!P\x7d$\x7bX:-d\x7d".toList).pieces →
      Expansion.parse body = .ok expansion →
      expansion.ref.indirect = true ∨ expansion.op.kind.toleratesMissing = true) ∧
    (withStrict ⟨⟨[(['P'], some ['X'])]⟩, false, true, []⟩ true).substitute
        "$\x7b!P\x7d$\x7bX:-d\x7d".toList =
      (withStrict ⟨⟨[(['P'], some ['X'])]⟩, false, true, []⟩ false).substitute
        "$\x7b!P\x7d$\x7bX:-d\x7d".toList ∧
    ((withStrict ⟨⟨[(['P'], some ['X'])]⟩, false, true, []⟩ false).substitute
        "$\x7b!P\x7d$\x7bX:-d\x7d".toList).outcome = .ok ['d'] ∧
    UnboundAt ⟨⟨[(['P'], some ['X'])]⟩, false, true, []⟩ ['X'] ['X'] ∧
    ((withStrict ⟨⟨[(['P'], some ['X'])]⟩, false, true, []⟩ true).substitute
        "$\x7b!P\x7d$\x7bX\x7d".toList).outcome = .error (.unbound ['X']) := by
  have hpointer : Expansion.parse ['!', 'P'] = .ok ⟨⟨['P'], true⟩, .bare⟩ := by decide +kernel
  have hfallback : Expansion.parse ['X', ':', '-', 'd'] =
      .ok ⟨⟨['X'], false⟩, .fallback ['d']⟩ := by decide +kernel
  have hall : ∀ body expansion,
      .expansion body ∈ (scan "$\x7b!P\x7d$\x7bX:-d\x7d".toList).pieces →
      Expansion.parse body = .ok expansion →
      expansion.ref.indirect = true ∨ expansion.op.kind.toleratesMissing = true := by
    have hpieces : (scan "$\x7b!P\x7d$\x7bX:-d\x7d".toList).pieces =
        [.expansion ['!', 'P'], .expansion ['X', ':', '-', 'd']] := by decide +kernel
    intro body expansion hmem hparse
    simp only [hpieces, List.mem_cons, Piece.expansion.injEq, List.not_mem_nil, or_false] at hmem
    rcases hmem with rfl | rfl
    · cases hpointer.symm.trans hparse
      exact .inl rfl
    · cases hfallback.symm.trans hparse
      exact .inr rfl
  have hunbound : UnboundAt ⟨⟨[(['P'], some ['X'])]⟩, false, true, []⟩ ['X'] ['X'] :=
    ⟨.bare, by decide +kernel, rfl, by decide, rfl⟩
  obtain ⟨-, hfails, -⟩ := substitute_strict ⟨⟨[(['P'], some ['X'])]⟩, false, true, []⟩
    "$\x7b!P\x7d$\x7bX\x7d".toList
  obtain ⟨-, -, hsame⟩ := substitute_strict ⟨⟨[(['P'], some ['X'])]⟩, false, true, []⟩
    "$\x7b!P\x7d$\x7bX:-d\x7d".toList
  refine ⟨hall, hsame hall, by decide +kernel, hunbound, ?_⟩
  exact hfails [.expansion ['!', 'P']] ['X'] [] ['X'] [] (by decide +kernel) (by decide +kernel)
    hunbound

end Evaluator

end ParameterExpansion
