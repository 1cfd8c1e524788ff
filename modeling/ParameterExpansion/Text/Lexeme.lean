import ParameterExpansion.Text

/-!
The lexical parts of an expansion: names, integers between blanks, and the slash that separates a
pattern from its replacement. Each splitter takes the longest lexeme that the text allows and
leaves the rest.
-/
namespace ParameterExpansion

/-- A name begins with an ASCII letter or an underscore. -/
def isNameStart (c : Char) : Bool :=
  c.isAlpha || c == '_'

/-- A name goes on with ASCII letters, digits and underscores. -/
def isNameRest (c : Char) : Bool :=
  c.isAlphanum || c == '_'

/-- The blanks around an integer are spaces and tabs. -/
def isBlank (c : Char) : Bool :=
  c == ' ' || c == '\t'

/-- The whole text is one name. -/
def isName : Text → Bool
  | [] => false
  | c :: rest => isNameStart c && rest.all isNameRest

/-- The longest name that begins the text, and what follows it. -/
def splitName : Text → Option (Text × Text)
  | [] => none
  | c :: rest =>
    if isNameStart c then
      some (c :: rest.takeWhile isNameRest, rest.dropWhile isNameRest)
    else
      none

/-- An integer as it stands in a text: blanks, an optional sign, digits (maybe none), blanks. -/
structure IntegerField where
  lead : Text
  sign : Text
  digits : Text
  trail : Text
  deriving DecidableEq, Repr

namespace IntegerField

/-- The sign and the digits as written. -/
def numeral (f : IntegerField) : Text :=
  f.sign ++ f.digits

/-- The field as written, with its blanks. -/
def written (f : IntegerField) : Text :=
  f.lead ++ f.sign ++ f.digits ++ f.trail

/-- A numeral with more digits than this is not read as a number. -/
def maxDigits : Nat := 4300

/-- The value, if there is at least one digit and not too many, leading zeros included. -/
def value? (f : IntegerField) : Option Int :=
  if f.digits = [] ∨ maxDigits < f.digits.length then
    none
  else if f.sign = ['-'] then
    some (-(Nat.ofDigitChars 10 f.digits 0 : Int))
  else
    some (Nat.ofDigitChars 10 f.digits 0)

end IntegerField

/-- A leading sign, if there is one, and what follows it. -/
def splitSign : Text → Text × Text
  | [] => ([], [])
  | c :: rest => if c = '+' ∨ c = '-' then ([c], rest) else ([], c :: rest)

/-- The integer field that begins the text, and what follows it. There always is one, since all
its parts may be empty. -/
def splitInteger (t : Text) : IntegerField × Text :=
  let signed := t.dropWhile isBlank
  let unsigned := (splitSign signed).2
  let trailing := unsigned.dropWhile Char.isDigit
  (⟨t.takeWhile isBlank, (splitSign signed).1, unsigned.takeWhile Char.isDigit,
      trailing.takeWhile isBlank⟩,
    trailing.dropWhile isBlank)

/-- The text on either side of the first slash whose preceding code point is no backslash;
`escaped` tells whether a backslash precedes the text. -/
def splitSlash (escaped : Bool) : Text → Option (Text × Text)
  | [] => none
  | c :: rest =>
    if c = '/' ∧ escaped = false then
      some ([], rest)
    else
      (splitSlash (c == '\\') rest).map fun (before, after) => (c :: before, after)

/-- Every slash that a backslash precedes stands for a slash. -/
def unescapeSlash : Text → Text
  | [] => []
  | '\\' :: '/' :: rest => '/' :: unescapeSlash rest
  | c :: rest => c :: unescapeSlash rest

/-- Every slash is preceded by a backslash of its own. -/
def escapeSlash (t : Text) : Text :=
  t.flatMap fun c => if c = '/' then ['\\', '/'] else [c]

/-- The lexemes that a reader can ask for at a position. -/
inductive Lexeme where
  | name | integer | slash
  deriving DecidableEq, Repr

namespace Lexeme

/-- The length of the lexeme that begins `after`, when `before` is the text that precedes it. -/
def lengthAt (before after : Text) : Lexeme → Option Nat
  | .name => (splitName after).map fun split => split.1.length
  | .integer => some (splitInteger after).1.written.length
  | .slash =>
    if after.head? = some '/' ∧ before.getLast? ≠ some '\\' then some 1 else none

end Lexeme

end ParameterExpansion
