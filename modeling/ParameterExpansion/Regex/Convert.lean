import ParameterExpansion.Regex.Match

/-!
Putting other text in the place of matches and leaving what lies between them.
-/
namespace ParameterExpansion.Regex

/-- Convert stretches of a text that begins at offset `start` of the whole. -/
def convertExtents (f : Text → Text) (start : Nat) : List Extent → Text → Text
  | [], t => t
  | e :: extents, t =>
    t.take (e.start - start) ++ f (Text.slice t (e.start - start) (e.stop - start)) ++
      convertExtents f e.stop extents (t.drop (e.stop - start))

/-- Convert every match. -/
def convertAll (r : Regex) (f : Text → Text) (t : Text) : Text :=
  convertExtents f 0 (r.extents t) t

/-- Convert the first match alone. -/
def convertFirst (r : Regex) (f : Text → Text) (t : Text) : Text :=
  convertExtents f 0 ((r.extents t).take 1) t

end ParameterExpansion.Regex
