import ParameterExpansion.Operator
import ParameterExpansion.Text.Lexeme

/-!
An expansion refers to a name, directly or through the name that its value holds, and applies an
operator to what it finds. `Expansion.render` is its canonical body, and `Expansion.WellFormed`
tells which expansions have a body at all.
-/
namespace ParameterExpansion

structure Reference where
  name : Text
  /-- The value of the name is the name that is meant. -/
  indirect : Bool := false
  deriving DecidableEq, Repr

structure Expansion where
  ref : Reference
  op : Operator
  deriving DecidableEq, Repr

/-- The numbers of a substring operator are signed 32-bit integers. -/
def InBounds (n : Int) : Prop :=
  -2147483648 ≤ n ∧ n ≤ 2147483647

instance (n : Int) : Decidable (InBounds n) :=
  inferInstanceAs (Decidable (_ ∧ _))

/-- The letters that name a transformation. -/
def transformationLetters : List Char := ['U', 'u', 'L']

namespace Operator

/-- What follows the symbol of an operator. -/
def operand : Operator → Text
  | .bare => []
  | .fallback t => t
  | .alternate t => t
  | .require message => message
  | .substring offset none => ' ' :: Text.decimalInt offset
  | .substring offset (some length) =>
    ' ' :: Text.decimalInt offset ++ ':' :: Text.decimalInt length
  | .remove _ _ p => p
  | .replace _ p r => escapeSlash p ++ '/' :: escapeSlash r
  | .recase _ _ p => p
  | .transformation letter => letter

/-- The operator in the body of an expansion. -/
def render (op : Operator) : Text :=
  op.kind.symbol ++ op.operand

/-- An operator has a body if its numbers are in bounds, its operand does not make its symbol a
longer one, no backslash touches its separating slash, and its letter is known. -/
def WellFormed : Operator → Prop
  | .substring offset length => InBounds offset ∧ ∀ n ∈ length, InBounds n
  | .remove .front .shortest p => p.head? ≠ some '#'
  | .remove .back .shortest p => p.head? ≠ some '%'
  | .replace .first p _ =>
    p ≠ [] ∧ p.head? ≠ some '#' ∧ p.head? ≠ some '%' ∧ p.getLast? ≠ some '\\'
  | .replace _ p _ => p.getLast? ≠ some '\\'
  | .recase .upper .first p => p.head? ≠ some '^'
  | .recase .lower .first p => p.head? ≠ some ','
  | .transformation letter => ∃ c ∈ transformationLetters, letter = [c]
  | _ => True

end Operator

namespace Expansion

/-- The canonical body of an expansion. -/
def render (e : Expansion) : Text :=
  (if e.ref.indirect then ['!'] else []) ++ e.ref.name ++ e.op.render

def WellFormed (e : Expansion) : Prop :=
  isName e.ref.name = true ∧ e.op.WellFormed

end Expansion

end ParameterExpansion
