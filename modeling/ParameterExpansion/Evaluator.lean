import ParameterExpansion.Expansion.Reader
import ParameterExpansion.Operator.Apply
import ParameterExpansion.Run
import ParameterExpansion.Store
import ParameterExpansion.Template

/-!
Evaluators expand the references of a text over a store of values. A strict one refuses names that
the store does not hold; an operator for missing values works all the same. A required value that
is missing ends the run, or is reported if the evaluator does not raise. Operators of disabled
kinds are refused before anything is looked up.
-/
namespace ParameterExpansion

structure Evaluator where
  values : Store
  strict : Bool := false
  raises : Bool := true
  disabled : List Operator.Kind := []
  deriving DecidableEq, Repr

namespace Evaluator

/-- The non-empty value that a reference leads to. A reference through a name needs that name to
have a value, and a direct one in strict mode needs its name to be in the store. -/
def lookup (e : Evaluator) (ref : Reference) : Except Error (Option Text) :=
  if ref.indirect then
    match e.values.content ref.name with
    | none => .error (.unbound ref.name)
    | some target => .ok (e.values.content target)
  else if e.strict && !e.values.contains ref.name then
    .error (.unbound ref.name)
  else
    .ok (e.values.content ref.name)

/-- The value that a reference leads to, where a failure is no different from having none. -/
def lookup? (e : Evaluator) (ref : Reference) : Option Text :=
  match e.lookup ref with
  | .error _ => none
  | .ok value => value

/-- What is said of a required value that is missing, unless the expansion has its own words. -/
def requirement (name message : Text) : Text :=
  if message = [] then name ++ ": parameter null or not set".toList else message

/-- Apply an operator to the value of a reference, an empty one if there is none. -/
def applyTo (e : Evaluator) (op : Operator) (ref : Reference) : Run Text :=
  match e.lookup ref with
  | .error err => .fail err
  | .ok value => .ofExcept (op.apply (value.getD []))

/-- Evaluate an operator for a reference, whether it is enabled or not. -/
def evaluateEnabled (e : Evaluator) (op : Operator) (ref : Reference) : Run Text :=
  match op with
  | .fallback t => pure ((e.lookup? ref).getD t)
  | .alternate t => pure (if (e.lookup? ref).isSome then t else [])
  | .require message =>
    match e.lookup? ref with
    | some value => pure value
    | none =>
      let said := requirement ref.name message
      if e.raises then .fail (.required ref.name said) else .report said []
  | op => e.applyTo op ref

/-- Evaluate an operator for a reference. -/
def evaluate (e : Evaluator) (op : Operator) (ref : Reference) : Run Text :=
  if op.kind ∈ e.disabled then
    .fail (.malformed (.disabled op.kind))
  else
    e.evaluateEnabled op ref

/-- Evaluate the body of an expansion. -/
def expand (e : Evaluator) (body : Text) : Run Text :=
  match Expansion.parse body with
  | .error err => .fail err
  | .ok expansion => e.evaluate expansion.op expansion.ref

/-- A literal piece stands for itself. -/
def expandPiece (e : Evaluator) : Piece → Run Text
  | .literal t => pure t
  | .expansion body => e.expand body

/-- Expand pieces in order and join the results. -/
def expandPieces (e : Evaluator) : List Piece → Run Text
  | [] => pure []
  | piece :: pieces =>
    (e.expandPiece piece).andThen fun t =>
      (e.expandPieces pieces).andThen fun rest => pure (t ++ rest)

/-- Expand a template; that its last expansion is not closed comes out after the pieces before
it. -/
def expandTemplate (e : Evaluator) (template : Template) : Run Text :=
  (e.expandPieces template.pieces).andThen fun t =>
    if template.unclosed.isSome then .fail .unmatchedBrace else pure t

/-- Substitute for every expansion in a text. A text without any is its own result. -/
def substitute (e : Evaluator) (t : Text) : Run Text :=
  if Template.hasOpening t then e.expandTemplate (Template.scan t) else pure t

/-- Substitute in a text that has to be given. -/
def substituteGiven (e : Evaluator) : Option Text → Run Text
  | none => .fail .missingText
  | some t => e.substitute t

end Evaluator

/-- Substitute in a text, which has to be given, over a store of values. -/
def substitute (values : Store) (text : Option Text) (strict : Bool) : Except Error Text :=
  (Evaluator.substituteGiven { values := values, strict := strict } text).outcome

end ParameterExpansion
