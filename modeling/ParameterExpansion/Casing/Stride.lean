/-!
A stride holds code points at equal steps whose case differs from their own by one shift. The
case tables of a standard are lists of strides.
-/
namespace ParameterExpansion

/-- Every `step`-th code point from `first` to `last` is mapped by adding `shift`. -/
structure Stride where
  first : Nat
  last : Nat
  step : Nat
  shift : Int
  deriving DecidableEq, Repr

namespace Stride

/-- Whether a code point lies on the stride. -/
def covers (s : Stride) (n : Nat) : Bool :=
  s.first ≤ n && n ≤ s.last && (n - s.first) % s.step == 0

/-- The code point that a covered code point is mapped to. -/
def apply (s : Stride) (n : Nat) : Nat :=
  (n + s.shift).toNat

end Stride

end ParameterExpansion
