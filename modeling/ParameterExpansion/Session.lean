import ParameterExpansion.Evaluator

/-!
A session has a mapping that its evaluators share, an environment, and evaluators under their
names. An evaluator reads the mapping as it stands, or keeps a copy of the environment from the
time when it was made. `Session.perform` carries out one command; what it logs is what the
evaluator at work reports on its channel.
-/
namespace ParameterExpansion

/-- Where the reports of an evaluator go. -/
inductive Channel where
  | warning | collector | silent
  deriving DecidableEq, Repr

/-- What a channel logs of a report. -/
def Channel.log : Channel → Text → List Text
  | .warning, message => ["WARNING:".toList ++ message]
  | .collector, message => [message]
  | .silent, _ => []

/-- The values of an evaluator: those of the session, or a copy that is its own. -/
inductive Source where
  | shared
  | snapshot (values : Store)
  deriving DecidableEq, Repr

/-- An evaluator as a session keeps it. -/
structure Profile where
  source : Source
  strict : Bool
  raises : Bool
  channel : Channel
  disabled : List Operator.Kind
  deriving DecidableEq, Repr

structure Session where
  values : Store
  environment : Store
  profiles : List (Text × Profile)
  deriving DecidableEq, Repr

/-- What a session can be asked to do. -/
inductive Command where
  /-- Make an evaluator over the mapping, or over a copy of the environment. -/
  | create (id : Text) (fromEnvironment strict raises : Bool) (channel : Channel)
      (disabled : List Operator.Kind)
  /-- Make an evaluator like another one, with every operator enabled. -/
  | withStrict (id target : Text) (strict : Bool)
  | substitute (id : Text) (text : Option Text)
  | expand (id body : Text)
  | evaluate (id : Text) (op : Operator) (ref : Reference)
  | setValue (name : Text) (value : Value)
  | eraseValue (name : Text)
  | setEnvironment (name : Text) (value : Value)
  | setRaises (id : Text) (raises : Bool)
  | setChannel (id : Text) (channel : Channel)
  | describe (id : Text)
  /-- An attempt to change a value through an evaluator. -/
  | writeValue (id name : Text) (value : Value)
  /-- An attempt to change the mode of an evaluator. -/
  | writeStrict (id : Text) (strict : Bool)
  deriving DecidableEq, Repr

/-- What cannot be changed through an evaluator. -/
inductive ReadOnly where
  | values | strict
  deriving DecidableEq, Repr

inductive Answer where
  | done
  | text (result : Text)
  | failed (error : Error)
  | description (strict raises : Bool) (channel : Channel) (values : Store)
  | refused (what : ReadOnly)
  /-- No evaluator has the name. -/
  | unknown
  deriving DecidableEq, Repr

/-- An answer and what was logged before it. -/
structure Reply where
  answer : Answer
  log : List Text := []
  deriving DecidableEq, Repr

namespace Session

/-- The values that a profile stands for now. -/
def valuesOf (s : Session) (p : Profile) : Store :=
  match p.source with
  | .shared => s.values
  | .snapshot values => values

/-- The evaluator that a profile stands for now. -/
def evaluator (s : Session) (p : Profile) : Evaluator :=
  ⟨s.valuesOf p, p.strict, p.raises, p.disabled⟩

def profile? (s : Session) (id : Text) : Option Profile :=
  s.profiles.lookup id

/-- Keep a profile under a name. -/
def keep (s : Session) (id : Text) (p : Profile) : Session :=
  { s with profiles := (id, p) :: s.profiles.filter fun entry => entry.1 ≠ id }

/-- The reply to a run on a channel. -/
def replyTo (channel : Channel) (run : Run Text) : Reply :=
  ⟨match run.outcome with
    | .ok t => .text t
    | .error e => .failed e,
    run.reports.flatMap channel.log⟩

/-- The reply of the evaluator with a name, if there is one. -/
def consult (s : Session) (id : Text) (f : Profile → Reply) : Reply :=
  match s.profile? id with
  | none => ⟨.unknown, []⟩
  | some p => f p

/-- Run the evaluator with a name; a run changes nothing. -/
def runOn (s : Session) (id : Text) (f : Evaluator → Run Text) : Reply :=
  s.consult id fun p => replyTo p.channel (f (s.evaluator p))

/-- Change the profile with a name. -/
def update (s : Session) (id : Text) (f : Profile → Profile) : Session × Reply :=
  match s.profile? id with
  | none => (s, ⟨.unknown, []⟩)
  | some p => (s.keep id (f p), ⟨.done, []⟩)

/-- Carry out one command. -/
def perform (s : Session) : Command → Session × Reply
  | .create id fromEnvironment strict raises channel disabled =>
    let source := if fromEnvironment then .snapshot s.environment else .shared
    (s.keep id ⟨source, strict, raises, channel, disabled⟩, ⟨.done, []⟩)
  | .withStrict id target strict =>
    match s.profile? id with
    | none => (s, ⟨.unknown, []⟩)
    | some p => (s.keep target { p with strict := strict, disabled := [] }, ⟨.done, []⟩)
  | .substitute id text => (s, s.runOn id (·.substituteGiven text))
  | .expand id body => (s, s.runOn id (·.expand body))
  | .evaluate id op ref => (s, s.runOn id (·.evaluate op ref))
  | .setValue name value => ({ s with values := s.values.insert name value }, ⟨.done, []⟩)
  | .eraseValue name => ({ s with values := s.values.erase name }, ⟨.done, []⟩)
  | .setEnvironment name value =>
    ({ s with environment := s.environment.insert name value }, ⟨.done, []⟩)
  | .setRaises id raises => s.update id fun p => { p with raises := raises }
  | .setChannel id channel => s.update id fun p => { p with channel := channel }
  | .describe id =>
    (s, s.consult id fun p => ⟨.description p.strict p.raises p.channel (s.valuesOf p), []⟩)
  | .writeValue id _ _ => (s, s.consult id fun _ => ⟨.refused .values, []⟩)
  | .writeStrict id _ => (s, s.consult id fun _ => ⟨.refused .strict, []⟩)

/-- Carry out commands in order. -/
def performAll (s : Session) : List Command → List Reply
  | [] => []
  | command :: commands =>
    let (next, reply) := s.perform command
    reply :: next.performAll commands

end Session

end ParameterExpansion
