import ParameterExpansion.Operator
import ParameterExpansion.Regex.Failure

/-!
Why a substitution fails. An error is its cause; `Error.message` has the wording, and
`Error.category` the place in the hierarchy by which callers tell errors apart.
-/
namespace ParameterExpansion

/-- The numbers of a substring operator. -/
inductive Bound where
  | offset | length
  deriving DecidableEq, Repr

def Bound.label : Bound → Text
  | .offset => "offset".toList
  | .length => "length".toList

/-- What is wrong with an expansion that cannot be read or applied. -/
inductive Malformation where
  /-- Nothing stands between the braces. -/
  | empty
  /-- No slash ends the pattern of a replacement. -/
  | missingSlash (operand : Text)
  | nonNumeric (bound : Bound)
  | outOfRange (bound : Bound) (numeral : Text)
  | unknownTransformation (letter : Text)
  | badPattern (pattern : Text) (failure : Regex.Failure)
  /-- The evaluator refuses operators of this kind. -/
  | disabled (kind : Operator.Kind)
  deriving DecidableEq, Repr

namespace Malformation

def message : Malformation → Text
  | .empty => "empty expression".toList
  | .missingSlash operand => "missing '/' after pattern ".toList ++ Text.quoted operand
  | .nonNumeric bound => "non-numeric substring ".toList ++ bound.label
  | .outOfRange bound numeral =>
    "substring ".toList ++ bound.label ++ " out of range: ".toList ++ numeral
  | .unknownTransformation letter =>
    "unknown transformation ".toList ++ Text.quoted ('@' :: letter)
  | .badPattern pattern failure =>
    "bad pattern ".toList ++ Text.quoted pattern ++ ": ".toList ++ failure.message
  | .disabled kind => kind.label ++ " is disabled".toList

end Malformation

inductive Error where
  /-- There is no text to substitute in. -/
  | missingText
  | malformed (why : Malformation)
  /-- The braces of an expansion are never closed. -/
  | unmatchedBrace
  | invalidName
  /-- An expansion, or an operator, that has no meaning. -/
  | unsupported (expression : Text)
  /-- A name that has to have a value has none. -/
  | unbound (name : Text)
  /-- As `unbound`, with the message that an expansion gives for this case. -/
  | required (name message : Text)
  deriving DecidableEq, Repr

/-- The classes of errors. -/
inductive Error.Category where
  | substitution
  | missingText
  | malformed
  | unmatchedBrace
  | invalidName
  | unsupported
  | unset
  deriving DecidableEq, Repr

namespace Error.Category

/-- The wider class that a class belongs to. -/
def parent : Category → Option Category
  | .substitution => none
  | .missingText => some .substitution
  | .malformed => some .substitution
  | .unmatchedBrace => some .malformed
  | .invalidName => some .malformed
  | .unsupported => some .malformed
  | .unset => some .substitution

/-- The classes from this one to the widest; there are at most three. -/
def lineage (c : Category) : List Category :=
  c :: match c.parent with
    | none => []
    | some p => p :: p.parent.toList

end Error.Category

namespace Error

def category : Error → Category
  | .missingText => .missingText
  | .malformed _ => .malformed
  | .unmatchedBrace => .unmatchedBrace
  | .invalidName => .invalidName
  | .unsupported _ => .unsupported
  | .unbound _ => .unset
  | .required _ _ => .unset

/-- The name that has no value, if that is the error. -/
def name? : Error → Option Text
  | .unbound name => some name
  | .required name _ => some name
  | _ => none

/-- The expression that has no meaning, if that is the error. -/
def expression? : Error → Option Text
  | .unsupported expression => some expression
  | _ => none

/-- Every malformed expansion is reported as a bad one. -/
def bad (detail : Text) : Text :=
  "bad expansion; ".toList ++ detail

def message : Error → Text
  | .missingText => "no text given to substitute".toList
  | .malformed why => bad why.message
  | .unmatchedBrace => bad "unmatched '$\x7b'".toList
  | .invalidName => bad "invalid variable name".toList
  | .unsupported expression =>
    bad ("unsupported expression '$\x7b".toList ++ expression ++ "\x7d'".toList)
  | .unbound name => name ++ ": unbound variable".toList
  | .required _ message => message

end Error

end ParameterExpansion
