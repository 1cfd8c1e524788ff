import ParameterExpansion.Proofs.Store.Content
import ParameterExpansion.Session

/-!
Runs of a session, one command after another, and what one command does to the evaluator with a
name: it makes a new one, or assigns its attributes, or leaves it as it is.
-/
namespace ParameterExpansion

namespace Command

/-- What a command assigns as the raise flag of the evaluator with a name. -/
def raisesFor? (id : Text) : Command → Option Bool
  | .setRaises target raises => if target = id then some raises else none
  | _ => none

/-- What a command assigns as the channel of the evaluator with a name. -/
def channelFor? (id : Text) : Command → Option Channel
  | .setChannel target channel => if target = id then some channel else none
  | _ => none

/-- The name of the evaluator that has to be there for a command. -/
def needs? : Command → Option Text
  | .withStrict id _ _ => some id
  | .substitute id _ => some id
  | .expand id _ => some id
  | .evaluate id _ _ => some id
  | .setRaises id _ => some id
  | .setChannel id _ => some id
  | .describe id => some id
  | .writeValue id _ _ => some id
  | .writeStrict id _ => some id
  | .create _ _ _ _ _ _ => none
  | .setValue _ _ => none
  | .eraseValue _ => none
  | .setEnvironment _ _ => none

end Command

/-- A profile after a command that does not make a new evaluator under its name. -/
def Profile.assigned (id : Text) (p : Profile) (command : Command) : Profile :=
  { p with
    raises := (command.raisesFor? id).getD p.raises
    channel := (command.channelFor? id).getD p.channel }

namespace Session

/-- A session in which nothing has been done. -/
def initial (values environment : Store) : Session :=
  ⟨values, environment, []⟩

/-- The session after commands. -/
def after (s : Session) (commands : List Command) : Session :=
  commands.foldl (fun s command => (s.perform command).1) s

theorem after_cons (s : Session) (command : Command) (commands : List Command) :
    s.after (command :: commands) = (s.perform command).1.after commands := rfl

theorem after_append (s : Session) (front back : List Command) :
    s.after (front ++ back) = (s.after front).after back := List.foldl_append

theorem after_concat (s : Session) (commands : List Command) (command : Command) :
    s.after (commands ++ [command]) = ((s.after commands).perform command).1 := by
  rw [after_append]
  rfl

theorem performAll_cons (s : Session) (command : Command) (commands : List Command) :
    s.performAll (command :: commands) =
      (s.perform command).2 :: (s.perform command).1.performAll commands := rfl

theorem performAll_append (s : Session) (front back : List Command) :
    s.performAll (front ++ back) = s.performAll front ++ (s.after front).performAll back := by
  induction front generalizing s with
  | nil => rfl
  | cons command front ih =>
    rw [List.cons_append, performAll_cons, performAll_cons, ih]
    rfl

/-- The command keeps a new evaluator under the name: one that it constructs, or derives from an
evaluator that is there. -/
def Makes (s : Session) (id : Text) : Command → Prop
  | .create target _ _ _ _ _ => target = id
  | .withStrict source target _ => target = id ∧ (s.profile? source).isSome
  | _ => False

/-- None of the commands, one after another, makes an evaluator under the name. -/
def NoneMakes (s : Session) (id : Text) : List Command → Prop
  | [] => True
  | command :: commands => ¬s.Makes id command ∧ (s.perform command).1.NoneMakes id commands

theorem noneMakes_concat_iff {s : Session} {id : Text} {commands : List Command}
    {command : Command} :
    s.NoneMakes id (commands ++ [command]) ↔
      s.NoneMakes id commands ∧ ¬(s.after commands).Makes id command := by
  induction commands generalizing s with
  | nil => exact ⟨fun h => ⟨trivial, h.1⟩, fun h => ⟨h.2, trivial⟩⟩
  | cons first commands ih =>
    rw [List.cons_append, NoneMakes, NoneMakes, ih, and_assoc]
    rfl

theorem profile?_keep (s : Session) (target id : Text) (p : Profile) :
    (s.keep target p).profile? id = if id = target then some p else s.profile? id := by
  unfold keep profile?
  rw [List.lookup_cons]
  split
  · rename_i h
    rw [if_pos (eq_of_beq h)]
  · rename_i h
    have hne : id ≠ target := beq_eq_false_iff_ne.mp h
    rw [if_neg hne, Store.lookup_filter_ne, if_neg hne]

/-- A change of the profile with one name is none of any other. -/
theorem profile?_update (s : Session) (target id : Text) (f : Profile → Profile) :
    (s.update target f).1.profile? id =
      (s.profile? id).map fun p => if target = id then f p else p := by
  unfold update
  by_cases h : target = id
  · subst h
    cases hp : s.profile? target with
    | none => simp [hp]
    | some p => simp [profile?_keep]
  · cases hp : s.profile? target with
    | none => simp [h]
    | some p => simp [profile?_keep, h, Ne.symm h]

theorem perform_withStrict {s : Session} {source : Text} {p : Profile}
    (hp : s.profile? source = some p) (target : Text) (strict : Bool) :
    s.perform (.withStrict source target strict) =
      (s.keep target { p with strict := strict, disabled := [] }, ⟨.done, []⟩) := by
  simp only [perform, hp]

/-- A command that does not make an evaluator under a name only assigns attributes of the one that
is there. -/
theorem profile?_perform_of_not_makes {s : Session} {id : Text} {command : Command}
    (h : ¬s.Makes id command) :
    (s.perform command).1.profile? id = (s.profile? id).map (·.assigned id command) := by
  have hsame : ∀ s' : Session, s'.profile? id = s.profile? id → command.raisesFor? id = none →
      command.channelFor? id = none →
      s'.profile? id = (s.profile? id).map (·.assigned id command) := by
    intro s' heq hr hc
    rw [heq]
    cases s.profile? id <;> simp [Profile.assigned, hr, hc]
  cases command with
  | create target fromEnvironment strict raises channel disabled =>
    refine hsame _ ?_ rfl rfl
    rw [perform, profile?_keep, if_neg fun heq => h heq.symm]
  | withStrict source target strict =>
    refine hsame _ ?_ rfl rfl
    cases hp : s.profile? source with
    | none => rw [perform, hp]
    | some p =>
      have hne : id ≠ target := fun heq => h ⟨heq.symm, by rw [hp]; rfl⟩
      rw [perform_withStrict hp, profile?_keep, if_neg hne]
  | setRaises target _ | setChannel target _ =>
    rw [perform, profile?_update]
    refine Option.map_congr fun p _ => ?_
    by_cases ht : target = id <;>
      simp [Profile.assigned, Command.raisesFor?, Command.channelFor?, ht]
  | _ => exact hsame _ rfl rfl rfl

/-! ### Evaluators that are not there -/

variable {s : Session} {id : Text}

theorem consult_of_none (h : s.profile? id = none) (f : Profile → Reply) :
    s.consult id f = ⟨.unknown, []⟩ := by
  rw [consult, h]

theorem consult_of_some {p : Profile} (h : s.profile? id = some p) (f : Profile → Reply) :
    s.consult id f = f p := by
  rw [consult, h]

theorem answer_replyTo_ne_unknown (channel : Channel) (run : Run Text) :
    (replyTo channel run).answer ≠ .unknown := by
  rw [replyTo]
  cases run.outcome <;> exact nofun

/-- A command that needs an evaluator which is not there does nothing else than to say so. -/
theorem perform_of_not_there {command : Command} (hneeds : command.needs? = some id)
    (h : s.profile? id = none) : s.perform command = (s, ⟨.unknown, []⟩) := by
  cases command with
  | create | setValue | eraseValue | setEnvironment => cases hneeds
  | withStrict | setRaises | setChannel =>
    cases hneeds
    simp only [perform, update, h]
  | substitute | expand | evaluate | describe | writeValue | writeStrict =>
    cases hneeds
    exact congrArg (Prod.mk s) (consult_of_none h _)

/-- A command that finds the evaluator it needs is answered, if only by a refusal. -/
theorem answer_ne_unknown_of_there {command : Command}
    (h : ∀ id, command.needs? = some id → s.profile? id ≠ none) :
    (s.perform command).2.answer ≠ .unknown := by
  have hthere : ∀ id, command.needs? = some id → ∃ p, s.profile? id = some p :=
    fun id hneeds => Option.ne_none_iff_exists'.mp (h id hneeds)
  cases command with
  | create | setValue | eraseValue | setEnvironment => exact nofun
  | withStrict | setRaises | setChannel =>
    obtain ⟨p, hp⟩ := hthere _ rfl
    simp only [perform, update, hp]
    exact nofun
  | substitute | expand | evaluate =>
    obtain ⟨p, hp⟩ := hthere _ rfl
    simp only [perform, runOn, consult_of_some hp]
    exact answer_replyTo_ne_unknown _ _
  | describe | writeValue | writeStrict =>
    obtain ⟨p, hp⟩ := hthere _ rfl
    simp only [perform, consult_of_some hp]
    exact nofun

theorem answer_eq_unknown_iff {command : Command} :
    (s.perform command).2.answer = .unknown ↔
      ∃ id, command.needs? = some id ∧ s.profile? id = none := by
  constructor
  · intro hunknown
    refine Classical.byContradiction fun hthere => ?_
    exact answer_ne_unknown_of_there (fun id hneeds hp => hthere ⟨id, hneeds, hp⟩) hunknown
  · rintro ⟨id, hneeds, hp⟩
    rw [perform_of_not_there hneeds hp]

end Session

end ParameterExpansion
