import ParameterExpansion.Template

/-!
Which lists of pieces a text can have. Literals are not empty, hold no beginning of an expansion,
and do not touch, and the braces of a body balance, so that no text has two such lists.
-/
namespace ParameterExpansion

/-- No start of the text closes more braces than it opens, and the whole closes them all. -/
def Balanced (t : Text) : Prop :=
  t.count '}' = t.count '{' ∧ ∀ start, start <+: t → start.count '}' ≤ start.count '{'

namespace Piece

def isLiteral : Piece → Bool
  | .literal _ => true
  | .expansion _ => false

def WellFormed : Piece → Prop
  | .literal t => t ≠ [] ∧ ¬ ['$', '{'] <:+: t
  | .expansion body => Balanced body

end Piece

/-- Every piece is well formed by itself, and of two neighbours at most one is a literal. -/
def WellFormedPieces : List Piece → Prop
  | [] => True
  | [piece] => piece.WellFormed
  | piece :: next :: pieces =>
    piece.WellFormed ∧ ¬ (piece.isLiteral ∧ next.isLiteral) ∧ WellFormedPieces (next :: pieces)

end ParameterExpansion
