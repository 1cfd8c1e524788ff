import ParameterExpansion.Text

/-!
A store maps names to values. A value may be null, which is to be set and empty. Entries are kept
in the order of their names, by code points.
-/
namespace ParameterExpansion

structure Store where
  entries : List (Text × Value)
  deriving DecidableEq, Repr

namespace Store

def empty : Store := ⟨[]⟩

/-- Put an entry in its place, and in that of an entry with the same name. -/
def insertEntry (name : Text) (value : Value) : List (Text × Value) → List (Text × Value)
  | [] => [(name, value)]
  | (other, old) :: entries =>
    if name = other then (name, value) :: entries
    else if name < other then (name, value) :: (other, old) :: entries
    else (other, old) :: insertEntry name value entries

def insert (s : Store) (name : Text) (value : Value) : Store :=
  ⟨insertEntry name value s.entries⟩

def erase (s : Store) (name : Text) : Store :=
  ⟨s.entries.filter fun entry => entry.1 ≠ name⟩

/-- Entries later in the list take the place of earlier ones. -/
def ofList (entries : List (Text × Value)) : Store :=
  entries.foldl (fun s entry => s.insert entry.1 entry.2) empty

def get? (s : Store) (name : Text) : Option Value :=
  s.entries.lookup name

def contains (s : Store) (name : Text) : Bool :=
  (s.get? name).isSome

/-- The value of a name if it is not empty; a null value and a missing one are as an empty one. -/
def content (s : Store) (name : Text) : Option Text :=
  match s.get? name with
  | some (some (c :: rest)) => some (c :: rest)
  | _ => none

end Store

end ParameterExpansion
