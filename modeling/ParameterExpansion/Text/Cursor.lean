import ParameterExpansion.Text.Lexeme

/-!
A cursor is a reading position over a text that does not change. Reading returns what was read
and the cursor behind it; a position may lie past the end, where nothing is left to read.
-/
namespace ParameterExpansion

structure Cursor where
  text : Text
  pos : Nat := 0
  deriving DecidableEq, Repr

namespace Cursor

/-- The text that is still to be read. -/
def remaining (c : Cursor) : Text :=
  c.text.drop c.pos

def done (c : Cursor) : Bool :=
  c.text.length ≤ c.pos

/-- The next code point as a text, empty at the end. -/
def peek (c : Cursor) : Text :=
  c.remaining.take 1

/-- Move by `count`, back if it is negative, but never past the end, and return what was passed
over on the way forward. -/
def advance (c : Cursor) (count : Int) : Text × Cursor :=
  let stop := min c.text.length (c.pos + count).toNat
  (Text.slice c.text c.pos stop, { c with pos := stop })

/-- Consume a literal if the text goes on with it. -/
def attempt (c : Cursor) (literal : Text) : Bool × Cursor :=
  if c.pos ≤ c.text.length ∧ literal.isPrefixOf c.remaining then
    (true, { c with pos := c.pos + literal.length })
  else
    (false, c)

/-- Consume a lexeme if one begins here; past the end the text ends, and so reads as empty. -/
def accept (c : Cursor) (lexeme : Lexeme) : Option Extent × Cursor :=
  let start := min c.pos c.text.length
  match lexeme.lengthAt (c.text.take start) (c.text.drop start) with
  | none => (none, c)
  | some n => (some ⟨start, start + n⟩, { c with pos := start + n })

/-- Consume everything that is left. -/
def rest (c : Cursor) : Text × Cursor :=
  (c.remaining, { c with pos := c.text.length })

/-- One request to a cursor. -/
inductive Move where
  | peek
  | done
  | advance (count : Int)
  | attempt (literal : Text)
  | accept (lexeme : Lexeme)
  | rest
  | seek (pos : Nat)
  deriving DecidableEq, Repr

/-- What a cursor answers to a request. -/
inductive Sight where
  | moved
  | flag (value : Bool)
  | read (text : Text)
  | found (extent : Option Extent)
  deriving DecidableEq, Repr

/-- Carry out one request. -/
def perform (c : Cursor) : Move → Sight × Cursor
  | .peek => (.read c.peek, c)
  | .done => (.flag c.done, c)
  | .advance count => let (t, c') := c.advance count; (.read t, c')
  | .attempt literal => let (ok, c') := c.attempt literal; (.flag ok, c')
  | .accept lexeme => let (extent, c') := c.accept lexeme; (.found extent, c')
  | .rest => let (t, c') := c.rest; (.read t, c')
  | .seek pos => (.moved, { c with pos := pos })

/-- Carry out requests in order; each answer comes with the position after it. -/
def performAll (c : Cursor) : List Move → List (Sight × Nat)
  | [] => []
  | m :: moves =>
    let (sight, c') := c.perform m
    (sight, c'.pos) :: c'.performAll moves

end Cursor

end ParameterExpansion
