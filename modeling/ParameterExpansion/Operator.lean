import ParameterExpansion.Regex.Basic
import ParameterExpansion.Text.Literal

/-!
The operators of an expansion, and their kinds. A kind is an operator without its operands; it has
the symbol that introduces it in an expansion and the label it is reported under.
-/
namespace ParameterExpansion

/-- The end of a value that a removal works on. -/
inductive Side where
  | front | back
  deriving DecidableEq, Repr

/-- The matches that a replacement works on. -/
inductive Scope where
  | first | all | atStart | atEnd
  deriving DecidableEq, Repr

/-- The matches that a change of case works on. -/
inductive Occurrence where
  | first | all
  deriving DecidableEq, Repr

inductive LetterCase where
  | upper | lower
  deriving DecidableEq, Repr

inductive Operator where
  /-- The value as it is. -/
  | bare
  /-- The text where there is no value. -/
  | fallback (text : Text)
  /-- The text where there is a value. -/
  | alternate (text : Text)
  /-- The value, which has to be there. -/
  | require (message : Text)
  /-- Part of the value; a negative number counts from its end. -/
  | substring (offset : Int) (length : Option Int)
  /-- The value without a match at one of its ends. -/
  | remove (side : Side) (reach : Reach) (pattern : Text)
  /-- The value with another text for matches. -/
  | replace (scope : Scope) (pattern replacement : Text)
  /-- The value with matches in another case. -/
  | recase (target : LetterCase) (which : Occurrence) (pattern : Text)
  /-- The transformation that a letter names. -/
  | transformation (letter : Text)
  deriving DecidableEq, Repr

namespace Operator

inductive Kind where
  | bare
  | fallback
  | alternate
  | require
  | substring
  | remove (side : Side) (reach : Reach)
  | replace (scope : Scope)
  | recase (target : LetterCase) (which : Occurrence)
  | transformation
  deriving DecidableEq, Repr

def kind : Operator → Kind
  | .bare => .bare
  | .fallback _ => .fallback
  | .alternate _ => .alternate
  | .require _ => .require
  | .substring _ _ => .substring
  | .remove side reach _ => .remove side reach
  | .replace scope _ _ => .replace scope
  | .recase target which _ => .recase target which
  | .transformation _ => .transformation

/-- The pattern of an operator that has one. -/
def pattern? : Operator → Option Text
  | .remove _ _ p => some p
  | .replace _ p _ => some p
  | .recase _ _ p => some p
  | _ => none

namespace Kind

/-- What stands between the name and the operands. -/
def symbol : Kind → Text
  | .bare => []
  | .fallback => [':', '-']
  | .alternate => [':', '+']
  | .require => [':', '?']
  | .substring => [':']
  | .remove .front .longest => ['#', '#']
  | .remove .front .shortest => ['#']
  | .remove .back .longest => ['%', '%']
  | .remove .back .shortest => ['%']
  | .replace .all => ['/', '/']
  | .replace .atStart => ['/', '#']
  | .replace .atEnd => ['/', '%']
  | .replace .first => ['/']
  | .recase .upper .all => ['^', '^']
  | .recase .upper .first => ['^']
  | .recase .lower .all => [',', ',']
  | .recase .lower .first => [',']
  | .transformation => ['@']

/-- The kinds that a symbol introduces. A symbol comes before every other one that it goes on
from, so the first that fits a text is the longest. -/
def introduced : List Kind := [
  .fallback, .alternate, .require, .substring,
  .remove .front .longest, .remove .front .shortest,
  .remove .back .longest, .remove .back .shortest,
  .replace .all, .replace .atStart, .replace .atEnd, .replace .first,
  .recase .upper .all, .recase .upper .first,
  .recase .lower .all, .recase .lower .first,
  .transformation]

/-- The name of the kind in reports. -/
def label : Kind → Text
  | .bare => "Bare".toList
  | .fallback => "DefaultValue".toList
  | .alternate => "AlternateValue".toList
  | .require => "ErrorIfUnset".toList
  | .substring => "Substring".toList
  | .remove .front .shortest => "RemoveShortestPrefix".toList
  | .remove .front .longest => "RemoveLongestPrefix".toList
  | .remove .back .shortest => "RemoveShortestSuffix".toList
  | .remove .back .longest => "RemoveLongestSuffix".toList
  | .replace .first => "ReplaceFirst".toList
  | .replace .all => "ReplaceAll".toList
  | .replace .atStart => "ReplaceAtStart".toList
  | .replace .atEnd => "ReplaceAtEnd".toList
  | .recase .upper .first => "UppercaseFirstMatch".toList
  | .recase .upper .all => "UppercaseAllMatches".toList
  | .recase .lower .first => "LowercaseFirstMatch".toList
  | .recase .lower .all => "LowercaseAllMatches".toList
  | .transformation => "CaseTransformWhole".toList

/-- The kind with a label. -/
def ofLabel? (t : Text) : Option Kind :=
  (.bare :: introduced).find? (·.label == t)

/-- How an operator of this kind with one text operand is shown in a report. -/
def display (kind : Kind) (field : Text) (operand : Text) : Text :=
  kind.label ++ '(' :: field ++ '=' :: Text.toLiteral operand ++ [')']

end Kind

end Operator

end ParameterExpansion
