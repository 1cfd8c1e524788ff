import ParameterExpansion.Text

/-!
Why a text is no regular expression, and where. A position counts code points from the start of
the text; in a text of several lines the message adds the line and the column, both from one.
-/
namespace ParameterExpansion.Regex

inductive FailureCause where
  /-- A range that ends before it begins, its ends as they are written. -/
  | badRange (first last : Text)
  /-- A set whose closing bracket is missing. -/
  | unterminatedSet
  /-- A letter that has no meaning after a backslash in a set. -/
  | badEscape (letter : Char)
  deriving DecidableEq, Repr

structure Failure where
  source : Text
  position : Nat
  cause : FailureCause
  deriving DecidableEq, Repr

def FailureCause.message : FailureCause → Text
  | .badRange first last => "bad character range ".toList ++ first ++ '-' :: last
  | .unterminatedSet => "unterminated character set".toList
  | .badEscape letter => "bad escape \\".toList ++ [letter]

namespace Failure

/-- The line of the position, counted from one. -/
def line (f : Failure) : Nat :=
  (f.source.take f.position).count '\n' + 1

/-- The column of the position, counted from one. -/
def column (f : Failure) : Nat :=
  ((f.source.take f.position).reverse.takeWhile (· != '\n')).length + 1

def message (f : Failure) : Text :=
  f.cause.message ++ " at position ".toList ++ Text.decimal f.position ++
    if '\n' ∈ f.source then
      " (line ".toList ++ Text.decimal f.line ++ ", column ".toList ++ Text.decimal f.column ++
        [')']
    else
      []

end Failure

end ParameterExpansion.Regex
