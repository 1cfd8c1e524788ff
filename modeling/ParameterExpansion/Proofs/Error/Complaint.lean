import Mathlib.Logic.Relation
import ParameterExpansion.Error.Complaint

/-!
Errors among complaints. An error says what the complaint of its class says that is about the same
and has no details. The one exception is a required value for which there are no words, since the
words of a complaint are the usual ones where none are given. The classes that an error belongs to
are its own and all wider ones.
-/
namespace ParameterExpansion

/-- The complaint is of the class of the error, is put in the same words, and names the same. -/
structure Complaint.Voices (c : Complaint) (err : Error) : Prop where
  category : c.category = err.category
  message : c.message = err.message
  name : c.name? = err.name?.map some
  expression : c.expression? = err.expression?.map some

namespace Error

/-- The complaint that an error amounts to. -/
def complaint : Error → Complaint
  | .missingText => .missingText []
  | .malformed why => .malformed why.message []
  | .unmatchedBrace => .unmatchedBrace []
  | .invalidName => .invalidName []
  | .unsupported expression => .unsupported expression []
  | .unbound name => .unset name none
  | .required name message => .unset name message

theorem details_complaint (err : Error) : err.complaint.details = [] := by
  cases err <;> rfl

/-- Without details a complaint comes to its headline. -/
theorem message_complaint (err : Error) :
    err.complaint.message = Complaint.spoken err.complaint.headline :=
  if_pos err.details_complaint

theorem headline_complaint {err : Error} (h : ∀ name, err ≠ .required name []) :
    err.complaint.headline = some err.message := by
  cases err with
  | required name message =>
    cases message with
    | nil => exact absurd rfl (h name)
    | cons c rest => rfl
  | _ => rfl

/-- An error is said by its complaint, unless it is for want of a value and has nothing to say. -/
theorem voices_complaint_iff {err : Error} :
    err.complaint.Voices err ↔ ∀ name, err ≠ .required name [] := by
  constructor
  · rintro h name rfl
    -- the complaint has the words for a name without a value here
    have hmessage : name ++ ": unbound variable".toList = [] := h.message
    exact List.append_ne_nil_of_right_ne_nil name (by decide) hmessage
  · intro h
    refine ⟨?_, ?_, ?_, ?_⟩
    · cases err <;> rfl
    · rw [message_complaint, headline_complaint h]
      rfl
    · cases err <;> rfl
    · cases err <;> rfl

namespace Category

/-- The lineage of a class is as long as there is a wider class. -/
theorem lineage_eq (c : Category) : c.lineage = c :: (c.parent.map lineage).getD [] := by
  cases c <;> rfl

/-- The lineage of a class has that class in it and every one that it belongs to. -/
theorem mem_lineage_iff {narrow wide : Category} :
    wide ∈ narrow.lineage ↔ Relation.ReflTransGen (fun c d => c.parent = some d) narrow wide := by
  constructor
  · intro h
    rw [lineage] at h
    rcases List.mem_cons.mp h with rfl | h
    · exact .refl
    · cases hp : narrow.parent with
      | none =>
        rw [hp] at h
        cases h
      | some p =>
        rw [hp] at h
        rcases List.mem_cons.mp h with rfl | h
        · exact .single hp
        · exact .head hp (.single (Option.mem_toList.mp h))
  · intro h
    induction h using Relation.ReflTransGen.head_induction_on with
    | refl =>
      rw [lineage_eq]
      exact List.mem_cons_self
    | head hp _ ih =>
      rw [lineage_eq, hp]
      exact List.mem_cons_of_mem _ ih

/-- Whoever looks out for the widest class misses no error. -/
theorem substitution_mem_lineage (c : Category) : .substitution ∈ c.lineage := by
  cases c <;> decide

end Category

end Error

end ParameterExpansion
