import ParameterExpansion.Casing
import ParameterExpansion.Glob.Compile
import ParameterExpansion.Regex.Convert

/-!
What an operator makes of a value that has been looked up. Operators that decide between a value
and another text have no part here.
-/
namespace ParameterExpansion.Operator

/-- The offset that a number stands for: from the end if it is negative, and within the text. -/
def startOffset (n : Nat) (offset : Int) : Nat :=
  if 0 ≤ offset then min n offset.toNat else (n + offset).toNat

/-- The offset where a substring ends: so far from its start, or so far from the end. -/
def stopOffset (n start : Nat) (length : Int) : Nat :=
  if 0 ≤ length then min n (start + length.toNat) else (n + length).toNat

def substringOf (value : Text) (offset : Int) (length : Option Int) : Text :=
  let start := startOffset value.length offset
  match length with
  | none => value.drop start
  | some length => Text.slice value start (stopOffset value.length start length)

/-- A prefix is removed up to the end of the match at the start of the value. A suffix is removed
from the leftmost start of a match at the end, or, the shortest one, from the rightmost. -/
def removeMatch (side : Side) (reach : Reach) (pattern value : Text) : Except Error Text :=
  match side with
  | .front =>
    (Glob.compile reach .atStart pattern).map fun regex =>
      match regex.search value with
      | none => value
      | some extent => value.drop extent.stop
  | .back =>
    (Glob.compile reach .atEnd pattern).map fun regex =>
      match reach with
      | .longest =>
        match regex.search value with
        | none => value
        | some extent => value.take extent.start
      | .shortest =>
        match regex.searchLast value with
        | none => value
        | some start => value.take start

/-- The replacement is inserted as it stands. -/
def replaceMatches (scope : Scope) (pattern replacement value : Text) : Except Error Text :=
  match scope with
  | .first =>
    (Glob.compile .longest .free pattern).map fun regex =>
      regex.convertFirst (fun _ => replacement) value
  | .all =>
    (Glob.compile .longest .free pattern).map fun regex =>
      regex.convertAll (fun _ => replacement) value
  | .atStart =>
    (Glob.compile .longest .atStart pattern).map fun regex =>
      regex.convertFirst (fun _ => replacement) value
  | .atEnd =>
    (Glob.compile .longest .atEnd pattern).map fun regex =>
      regex.convertFirst (fun _ => replacement) value

def toCase : LetterCase → Text → Text
  | .upper => Text.upper
  | .lower => Text.lower

/-- An empty pattern stands for any one code point. -/
def casePattern (pattern : Text) : Text :=
  if pattern = [] then ['?'] else pattern

/-- Every match is converted as a text of its own. -/
def recaseMatches (target : LetterCase) (which : Occurrence) (pattern value : Text) :
    Except Error Text :=
  (Glob.compile .longest .free (casePattern pattern)).map fun regex =>
    match which with
    | .first => regex.convertFirst (toCase target) value
    | .all => regex.convertAll (toCase target) value

/-- The first code point in upper case, and the others as they are. -/
def capitalize : Text → Text
  | [] => []
  | c :: rest => Text.upper [c] ++ rest

/-- The value under the transformation with a letter, if there is one. -/
def transformWhole (letter value : Text) : Option Text :=
  match letter with
  | ['U'] => some (Text.upper value)
  | ['L'] => some (Text.lower value)
  | ['u'] => some (capitalize value)
  | _ => none

/-- The error for an operator that makes nothing of a value. -/
def noEffect (kind : Kind) (field operand : Text) : Error :=
  .unsupported (kind.display field operand)

def apply (op : Operator) (value : Text) : Except Error Text :=
  match op with
  | .bare => .ok value
  | .substring offset length => .ok (substringOf value offset length)
  | .remove side reach pattern => removeMatch side reach pattern value
  | .replace scope pattern replacement => replaceMatches scope pattern replacement value
  | .recase target which pattern => recaseMatches target which pattern value
  | .transformation letter =>
    match transformWhole letter value with
    | some result => .ok result
    | none => .error (noEffect .transformation "op".toList letter)
  | .fallback t => .error (noEffect .fallback "text".toList t)
  | .alternate t => .error (noEffect .alternate "text".toList t)
  | .require message => .error (noEffect .require "message".toList message)

end ParameterExpansion.Operator
