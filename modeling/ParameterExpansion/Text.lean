/-!
A text is a list of code points, so every offset and length in this library counts code points.
-/
namespace ParameterExpansion

abbrev Text := List Char

/-- A value is a text or null. -/
abbrev Value := Option Text

/-- Whether a code point lies in one of some closed ranges. -/
def inRanges (ranges : List (Nat × Nat)) (c : Char) : Bool :=
  ranges.any fun r => r.1 ≤ c.toNat && c.toNat ≤ r.2

/-- A stretch of a text, from the offset of its first code point to the offset past its last. -/
structure Extent where
  start : Nat
  stop : Nat
  deriving DecidableEq, Repr

namespace Text

/-- The code points from offset `start` up to, and without, offset `stop`. -/
def slice (t : Text) (start stop : Nat) : Text :=
  (t.take stop).drop start

/-- The decimal digits of a number. -/
def decimal (n : Nat) : Text :=
  Nat.toDigits 10 n

/-- The decimal digits of an integer, after a minus sign if it is negative. -/
def decimalInt : Int → Text
  | .ofNat n => decimal n
  | .negSucc n => '-' :: decimal (n + 1)

/-- The text between single quotes, as it stands. -/
def quoted (t : Text) : Text :=
  '\'' :: t ++ ['\'']

end Text

end ParameterExpansion
