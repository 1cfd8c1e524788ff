import ParameterExpansion.Proofs.Error.Complaint
import ParameterExpansion.Proofs.Evaluator.Attribution
import ParameterExpansion.Proofs.Evaluator.Reporting
import ParameterExpansion.Proofs.Session.Run

/-!
What can come out of a text as an error. That there is no text is said only where none is given,
and a required value that is missing is never reported without words, so every failure of an
evaluator, and every one that a session answers with, is said by its complaint. Substituting over a
store is done by an evaluator that raises: it reports nothing, and its outcome is all there is to
it.
-/
namespace ParameterExpansion

/-- The error is about something, and a required value that is missing comes with words. -/
def Error.OfText (err : Error) : Prop :=
  err ≠ .missingText ∧ ∀ name, err ≠ .required name []

theorem Error.OfText.voices {err : Error} (h : err.OfText) : err.complaint.Voices err :=
  voices_complaint_iff.mpr h.2

theorem Operator.ofText_of_apply {op : Operator} {value : Text} {err : Error}
    (h : op.apply value = .error err) : err.OfText := by
  rcases error_of_apply h with ⟨pattern, failure, rfl⟩ | ⟨-, field, operand, rfl⟩ <;>
    exact ⟨nofun, nofun⟩

theorem Expansion.ofText_of_parse {body : Text} {err : Error} (h : parse body = .error err) :
    err.OfText := by
  rcases error_of_parse h with ⟨why, rfl⟩ | rfl | rfl <;> exact ⟨nofun, nofun⟩

namespace Evaluator

theorem requirement_ne_nil (name message : Text) : requirement name message ≠ [] := by
  rw [requirement]
  split
  · exact List.append_ne_nil_of_right_ne_nil name (by decide)
  · assumption

variable {e : Evaluator}

theorem ofText_of_evaluate {op : Operator} {ref : Reference} {err : Error}
    (h : (e.evaluate op ref).outcome = .error err) : err.OfText := by
  cases evaluate_eq_error_iff.mp h with
  | disabled => exact ⟨nofun, nofun⟩
  | missing =>
    refine ⟨nofun, fun name heq => ?_⟩
    exact requirement_ne_nil _ _ (Error.required.inj heq).2
  | refused => exact ⟨nofun, nofun⟩
  | applied _ _ _ happly => exact Operator.ofText_of_apply happly

theorem ofText_of_expand {body : Text} {err : Error}
    (h : (e.expand body).outcome = .error err) : err.OfText := by
  rw [expand] at h
  cases hparse : Expansion.parse body with
  | error failure =>
    rw [hparse] at h
    cases h
    exact Expansion.ofText_of_parse hparse
  | ok expansion =>
    rw [hparse] at h
    exact ofText_of_evaluate h

theorem ofText_of_substitute {t : Text} {err : Error}
    (h : (e.substitute t).outcome = .error err) : err.OfText := by
  rcases e.substitute_eq_error_iff.mp h with
    ⟨front, piece, back, -, -, hpiece⟩ | ⟨-, -, rfl⟩
  · cases piece with
    | literal s => cases hpiece
    | expansion body => exact ofText_of_expand hpiece
  · exact ⟨nofun, nofun⟩

/-- That a text has to be given is said exactly where there is none. -/
theorem substituteGiven_eq_missingText_iff {text : Option Text} :
    (e.substituteGiven text).outcome = .error .missingText ↔ text = none := by
  cases text with
  | none => exact iff_of_true rfl rfl
  | some t => exact iff_of_false (fun h => (ofText_of_substitute h).1 rfl) nofun

theorem voices_of_substituteGiven {text : Option Text} {err : Error}
    (h : (e.substituteGiven text).outcome = .error err) : err.complaint.Voices err := by
  cases text with
  | none =>
    cases h
    exact Error.voices_complaint_iff.mpr nofun
  | some t => exact (ofText_of_substitute h).voices

theorem reports_substituteGiven (hraises : e.raises = true) (text : Option Text) :
    (e.substituteGiven text).reports = [] := by
  cases text with
  | none => rfl
  | some t =>
    have hself : e.withRaises true = e := by rw [withRaises, ← hraises]
    rw [substituteGiven, reports_substitute, ← hself]
    exact e.reports_expandPieces_raising _

end Evaluator

/-- To substitute over a store is what a plain evaluator over it does, and all that it does. -/
theorem substituteGiven_eq_ofExcept (values : Store) (strict : Bool) (text : Option Text) :
    Evaluator.substituteGiven ⟨values, strict, true, []⟩ text =
      .ofExcept (substitute values text strict) := by
  have hreports := Evaluator.reports_substituteGiven (e := ⟨values, strict, true, []⟩) rfl text
  rw [Run.ofExcept, ← hreports]
  rfl

namespace Session

variable {s : Session} {err : Error}

/-- An answer that is a failure is one of the run, if there is an evaluator to run. -/
theorem exists_outcome_of_failed {id : Text} {f : Evaluator → Run Text}
    (h : (s.runOn id f).answer = .failed err) : ∃ e, (f e).outcome = .error err := by
  cases hp : s.profile? id with
  | none =>
    rw [runOn, consult_of_none hp] at h
    cases h
  | some p =>
    rw [runOn, consult_of_some hp, replyTo] at h
    refine ⟨s.evaluator p, ?_⟩
    cases hrun : (f (s.evaluator p)).outcome with
    | ok t =>
      rw [hrun] at h
      cases h
    | error failure =>
      rw [hrun] at h
      cases h
      rfl

theorem voices_of_failed {command : Command} (h : (s.perform command).2.answer = .failed err) :
    err.complaint.Voices err := by
  cases command with
  | substitute id text =>
    obtain ⟨e, he⟩ := exists_outcome_of_failed h
    exact Evaluator.voices_of_substituteGiven he
  | expand id body =>
    obtain ⟨e, he⟩ := exists_outcome_of_failed h
    exact (Evaluator.ofText_of_expand he).voices
  | evaluate id op ref =>
    obtain ⟨e, he⟩ := exists_outcome_of_failed h
    exact (Evaluator.ofText_of_evaluate he).voices
  | create | setValue | eraseValue | setEnvironment => cases h
  | withStrict id _ _ | setRaises id _ | setChannel id _ =>
    cases hp : s.profile? id <;> simp only [perform, update, hp] at h <;> cases h
  | describe id | writeValue id _ _ | writeStrict id _ =>
    cases hp : s.profile? id <;> simp only [perform, consult, hp] at h <;> cases h

/-- Whatever a session is asked to do, every failure that it answers with is said by its
complaint. -/
theorem voices_of_mem_performAll {commands : List Command} {reply : Reply}
    (hmem : reply ∈ s.performAll commands) (h : reply.answer = .failed err) :
    err.complaint.Voices err := by
  induction commands generalizing s with
  | nil => cases hmem
  | cons command commands ih =>
    rw [performAll_cons] at hmem
    rcases List.mem_cons.mp hmem with rfl | hmem
    · exact voices_of_failed h
    · exact ih hmem

end Session

end ParameterExpansion
