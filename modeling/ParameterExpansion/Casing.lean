import ParameterExpansion.Text
import ParameterExpansion.Casing.Uppercase
import ParameterExpansion.Casing.Lowercase
import ParameterExpansion.Casing.Cased

/-!
Upper and lower case of whole texts. Upper case is taken code point by code point; lower case is
too, but for the capital sigma, whose form depends on its neighbours.
-/
namespace ParameterExpansion

/-- A code point under a case mapping: its longer form if it has one, else its place on a stride,
else itself. -/
def mapCase (expansions : List (Nat × List Nat)) (strides : List Stride) (c : Char) : Text :=
  match expansions.lookup c.toNat with
  | some form => form.map Char.ofNat
  | none =>
    match strides.find? (·.covers c.toNat) with
    | some s => [Char.ofNat (s.apply c.toNat)]
    | none => [c]

/-- The upper-case form of one code point, one to three code points long. -/
def upperChar (c : Char) : Text :=
  mapCase uppercaseExpansions uppercaseStrides c

/-- The lower-case form of one code point by itself. -/
def lowerChar (c : Char) : Text :=
  mapCase lowercaseExpansions lowercaseStrides c

/-- Marks that are skipped when a sigma looks for its neighbour. -/
def isCaseIgnorable (c : Char) : Bool :=
  inRanges caseIgnorableRanges c

/-- Whether the first code point that is not ignored has a case. -/
def meetsCased (t : Text) : Bool :=
  match t.dropWhile isCaseIgnorable with
  | [] => false
  | c :: _ => inRanges casedRanges c

/-- The capital sigma. -/
def capitalSigma : Char := 'Σ'

/-- A sigma ends a word, and takes its final form, when a cased code point comes before it and
none after it. `before` is read backwards. -/
def lowerSigma (before after : Text) : Char :=
  if meetsCased before && !meetsCased after then 'ς' else 'σ'

/-- Lower case of a text whose preceding code points are `before`, read backwards. -/
def lowerAfter (before : Text) : Text → Text
  | [] => []
  | c :: rest =>
    (if c = capitalSigma then [lowerSigma before rest] else lowerChar c) ++
      lowerAfter (c :: before) rest

namespace Text

/-- The text in upper case. -/
def upper (t : Text) : Text :=
  t.flatMap upperChar

/-- The text in lower case. -/
def lower (t : Text) : Text :=
  lowerAfter [] t

end Text

end ParameterExpansion
