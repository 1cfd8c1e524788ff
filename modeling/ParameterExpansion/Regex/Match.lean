import ParameterExpansion.Regex.Basic

/-!
Matching by a table. For each offset of a text a row of cells tells where the preferred match of
the items from there ends; the row of a sequence of items is made from the row of its tail, so
that a text of length n and a sequence of k items take k rows of n + 1 cells.

A search takes the leftmost start. After a match the next search goes on at its end, and if the
match was empty, another one at that offset must consume something.
-/
namespace ParameterExpansion.Regex

/-- What is known of one offset: where the preferred match from there ends, and where the
preferred one of those that consume something ends. -/
structure Cell where
  preferred : Option Nat
  advancing : Option Nat
  deriving DecidableEq, Repr

namespace Cell

/-- No match starts here. -/
def blocked : Cell := ⟨none, none⟩

/-- One code point is consumed before a match from the next offset. -/
def consuming (next : Cell) : Cell := ⟨next.preferred, next.preferred⟩

end Cell

/-- No items match the empty stretch at every offset. -/
def emptyRow (t : Text) : List Cell :=
  (List.range (t.length + 1)).map fun i => ⟨some i, none⟩

/-- An atom consumes a code point that it accepts, so it never matches at the end. -/
def atomRow (a : Atom) : Text → List Cell → List Cell
  | c :: t, _ :: next :: row =>
    (if a.accepts c then next.consuming else .blocked) :: atomRow a t (next :: row)
  | _, _ => [.blocked]

/-- Where a run that consumes something ends up: at the end found from the next offset on. -/
def beyond (row : List Cell) : Option Nat :=
  row.head?.bind Cell.preferred

/-- A run tries to go on before it stops if it is to be longest, and after that if shortest. -/
def runRow (reach : Reach) : List Cell → List Cell
  | [] => []
  | cell :: row =>
    let later := runRow reach row
    (match reach with
      | .longest => ⟨beyond later <|> cell.preferred, beyond later <|> cell.advancing⟩
      | .shortest => ⟨cell.preferred <|> beyond later, cell.advancing <|> beyond later⟩) :: later

/-- Only the first offset is the start of the text. -/
def startRow : List Cell → List Cell
  | [] => []
  | cell :: row => cell :: row.map fun _ => .blocked

/-- Only the last offset is the end of the text. -/
def endRow : List Cell → List Cell
  | [] => []
  | [cell] => [cell]
  | _ :: row => .blocked :: endRow row

/-- The row of an item followed by items whose row is known. -/
def itemRow (t : Text) : Item → List Cell → List Cell
  | .one a, row => atomRow a t row
  | .run reach, row => runRow reach row
  | .textStart, row => startRow row
  | .textEnd, row => endRow row

/-- One cell for each offset of the text, its end included. -/
def cells (items : List Item) (t : Text) : List Cell :=
  items.foldr (itemRow t) (emptyRow t)

/-- The leftmost match in a row whose first cell is that of offset `i`. -/
def firstExtent (i : Nat) : List Cell → Option Extent
  | [] => none
  | cell :: row =>
    match cell.preferred with
    | some stop => some ⟨i, stop⟩
    | none => firstExtent (i + 1) row

/-- The rightmost offset at which a match starts, in a row whose first cell is that of offset
`i`. -/
def lastStart (i : Nat) : List Cell → Option Nat
  | [] => none
  | cell :: row => lastStart (i + 1) row <|> cell.preferred.map fun _ => i

/-- All matches in a row whose first cell is that of offset `i`, when the text before offset
`free` has been taken by earlier ones. -/
def extentsFrom (i free : Nat) : List Cell → List Extent
  | [] => []
  | cell :: row =>
    if i < free then
      extentsFrom (i + 1) free row
    else
      match cell.preferred with
      | none => extentsFrom (i + 1) free row
      | some stop =>
        if stop = i then
          ⟨i, i⟩ ::
            match cell.advancing with
            | none => extentsFrom (i + 1) free row
            | some stop' => ⟨i, stop'⟩ :: extentsFrom (i + 1) stop' row
        else
          ⟨i, stop⟩ :: extentsFrom (i + 1) stop row

/-- The leftmost match, ending where the preferences of its runs make it end. -/
def search (r : Regex) (t : Text) : Option Extent :=
  firstExtent 0 (cells r.items t)

/-- The rightmost offset at which a match starts. -/
def searchLast (r : Regex) (t : Text) : Option Nat :=
  lastStart 0 (cells r.items t)

/-- All matches from left to right, none overlapping another. -/
def extents (r : Regex) (t : Text) : List Extent :=
  extentsFrom 0 0 (cells r.items t)

/-- Whether some match takes the whole text. -/
def fullMatch (r : Regex) (t : Text) : Bool :=
  (beyond (cells (r.items ++ [.textEnd]) t)).isSome

end ParameterExpansion.Regex
