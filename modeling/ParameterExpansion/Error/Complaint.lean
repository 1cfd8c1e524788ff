import ParameterExpansion.Error

/-!
A complaint is an error that a caller makes: of a class of its choice, about a name or in words of
its own, which may be null, and with any details. It says the same as an error of that class, and
lists its details after that.
-/
namespace ParameterExpansion

inductive Complaint where
  | substitution (message : Value) (details : List Value)
  | missingText (details : List Value)
  | malformed (reason : Text) (details : List Value)
  | unmatchedBrace (details : List Value)
  | invalidName (details : List Value)
  | unsupported (expression : Value) (details : List Value)
  /-- A null or empty message leaves it at the usual words. -/
  | unset (name message : Value)
  deriving DecidableEq, Repr

namespace Complaint

/-- How a null value is written. -/
def null : Text := "None".toList

/-- A value within a sentence. -/
def spoken (v : Value) : Text :=
  v.getD null

/-- A value in a list of values. -/
def listed : Value → Text
  | none => null
  | some t => Text.toLiteral t

def category : Complaint → Error.Category
  | .substitution _ _ => .substitution
  | .missingText _ => .missingText
  | .malformed _ _ => .malformed
  | .unmatchedBrace _ => .unmatchedBrace
  | .invalidName _ => .invalidName
  | .unsupported _ _ => .unsupported
  | .unset _ _ => .unset

/-- What is complained of, before any details. -/
def headline : Complaint → Value
  | .substitution message _ => message
  | .missingText _ => Error.missingText.message
  | .malformed reason _ => Error.bad reason
  | .unmatchedBrace _ => Error.unmatchedBrace.message
  | .invalidName _ => Error.invalidName.message
  | .unsupported expression _ => (Error.unsupported (spoken expression)).message
  | .unset name message =>
    match message with
    | some (c :: rest) => some (c :: rest)
    | _ => (Error.unbound (spoken name)).message

def details : Complaint → List Value
  | .substitution _ details => details
  | .missingText details => details
  | .malformed _ details => details
  | .unmatchedBrace details => details
  | .invalidName details => details
  | .unsupported _ details => details
  | .unset _ _ => []

/-- The headline by itself, or all values in parentheses where there are details. -/
def message (c : Complaint) : Text :=
  if c.details = [] then
    spoken c.headline
  else
    '(' :: List.intercalate [',', ' '] ((c.headline :: c.details).map listed) ++ [')']

/-- The name that has no value, if the complaint is about one. -/
def name? : Complaint → Option Value
  | .unset name _ => some name
  | _ => none

/-- The expression that has no meaning, if the complaint is about one. -/
def expression? : Complaint → Option Value
  | .unsupported expression _ => some expression
  | _ => none

end Complaint

end ParameterExpansion
