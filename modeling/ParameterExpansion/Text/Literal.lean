import ParameterExpansion.Text
import ParameterExpansion.Text.Unprintable

/-!
A text as a literal: between quotes, with escapes for the quote, the backslash and every code
point that has no printed form. The quotes are single unless that would need an escape that double
quotes do without.
-/
namespace ParameterExpansion.Text

/-- The quote of a literal. -/
def literalQuote (t : Text) : Char :=
  if '\'' ∈ t ∧ '"' ∉ t then '"' else '\''

/-- The hexadecimal digits of a number, after zeros up to a width. -/
def hexadecimal (width n : Nat) : Text :=
  let digits := Nat.toDigits 16 n
  List.replicate (width - digits.length) '0' ++ digits

/-- A code point by its number, in two, four or eight digits. -/
def numericEscape (c : Char) : Text :=
  if c.toNat < 0x100 then '\\' :: 'x' :: hexadecimal 2 c.toNat
  else if c.toNat < 0x10000 then '\\' :: 'u' :: hexadecimal 4 c.toNat
  else '\\' :: 'U' :: hexadecimal 8 c.toNat

/-- A code point in a literal. -/
def literalChar (quote c : Char) : Text :=
  if c = quote ∨ c = '\\' then ['\\', c]
  else if c = '\t' then ['\\', 't']
  else if c = '\n' then ['\\', 'n']
  else if c = '\r' then ['\\', 'r']
  else if inRanges unprintableRanges c then numericEscape c
  else [c]

/-- The text as a literal. -/
def toLiteral (t : Text) : Text :=
  literalQuote t :: t.flatMap (literalChar (literalQuote t)) ++ [literalQuote t]

end ParameterExpansion.Text
