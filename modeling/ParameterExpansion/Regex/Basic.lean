import ParameterExpansion.Text

/-!
The regular expressions that wildcard patterns are compiled to: sequences of atoms, runs of any
code points, and the two assertions for the ends of the text.
-/
namespace ParameterExpansion

/-- Which of several possible matches is preferred. -/
inductive Reach where
  | shortest | longest
  deriving DecidableEq, Repr

namespace Regex

/-- A closed range of code points. -/
structure Interval where
  first : Char
  last : Char
  deriving DecidableEq, Repr

def Interval.contains (i : Interval) (c : Char) : Bool :=
  i.first ≤ c && c ≤ i.last

/-- The code points in some of the intervals, or those in none. -/
structure CharSet where
  negated : Bool
  intervals : List Interval
  deriving DecidableEq, Repr

def CharSet.contains (s : CharSet) (c : Char) : Bool :=
  s.negated != s.intervals.any (·.contains c)

/-- What matches exactly one code point. -/
inductive Atom where
  | char (c : Char)
  | any
  | oneOf (set : CharSet)
  deriving DecidableEq, Repr

def Atom.accepts : Atom → Char → Bool
  | .char c, x => x == c
  | .any, _ => true
  | .oneOf set, x => set.contains x

/-- An item matches one code point, a run of any code points, or an end of the text. -/
inductive Item where
  | one (atom : Atom)
  | run (reach : Reach)
  | textStart
  | textEnd
  deriving DecidableEq, Repr

end Regex

/-- A regular expression and the text that it was read from. -/
structure Regex where
  source : Text
  items : List Regex.Item
  deriving DecidableEq, Repr

end ParameterExpansion
