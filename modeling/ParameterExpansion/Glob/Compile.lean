import ParameterExpansion.Glob.Token
import ParameterExpansion.Regex.Reader
import ParameterExpansion.Error

/-!
Compiling a wildcard pattern: its tokens are written as a regular expression, which is then read.
Whether a pattern is good is decided by that reading, so a class can mean more than its members
say, and a range can be refused.
-/
namespace ParameterExpansion.Glob

/-- Which ends of a match are tied to the ends of the text. -/
inductive Anchoring where
  | free | atStart | atEnd
  deriving DecidableEq, Repr

/-- Code points that a regular expression has a meaning for, or might have. -/
def isSpecial (c : Char) : Bool :=
  c ∈ ['\t', '\n', '\x0b', '\x0c', '\x0d', ' ', '#', '$', '&', '(', ')', '*', '+', '-', '.', '?',
    '[', '\\', ']', '^', '{', '|', '}', '~']

/-- A code point that stands for itself in a regular expression. -/
def escape (c : Char) : Text :=
  if isSpecial c then ['\\', c] else [c]

/-- A member of a class in a set of a regular expression. Hyphens keep their meaning. -/
def escapeMember (c : Char) : Text :=
  if c = '\\' ∨ c = '[' ∨ c = ']' then ['\\', c] else [c]

/-- The regular expression for a token; `reach` is that of its runs. -/
def Token.regexText (reach : Reach) : Token → Text
  | .literal c => escape c
  | .anyChar => ['.']
  | .anyRun => '.' :: '*' :: if reach = .shortest then ['?'] else []
  | .charClass negated members =>
    '[' :: (if negated then ['^'] else []) ++ members.flatMap escapeMember ++ [']']

/-- The regular expression for a pattern, with neither end tied. -/
def regexText (reach : Reach) (pattern : Text) : Text :=
  (tokenize pattern).flatMap (Token.regexText reach)

/-- The regular expression for a pattern, with an end tied or neither. -/
def anchoredText (reach : Reach) (anchoring : Anchoring) (pattern : Text) : Text :=
  match anchoring with
  | .free => regexText reach pattern
  | .atStart => '^' :: regexText reach pattern
  | .atEnd => regexText reach pattern ++ ['\\', 'Z']

def compile (reach : Reach) (anchoring : Anchoring) (pattern : Text) : Except Error Regex :=
  match Regex.read (anchoredText reach anchoring pattern) with
  | .error failure => .error (.malformed (.badPattern pattern failure))
  | .ok regex => .ok regex

end ParameterExpansion.Glob
