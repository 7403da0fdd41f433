/-
  Texts in quotes, as messages show names. The quotes are single unless the text holds a single
  quote and no double one. The backslash and the chosen quote are escaped, and so is every
  character that is not printable, as a letter escape or by its number.
-/
import LoxLexer.Text.Printable
import LoxLexer.Text.Hexadecimal

namespace LoxLexer.Text

/-- The quote that a text is put into. -/
def quoteFor (t : Text) : Char := if '\'' ∈ t ∧ '"' ∉ t then '"' else '\''

/-- A character by its number, in as few digits as its size allows out of two, four and eight. -/
def numericEscape (n : Nat) : Text :=
  if n < 0x100 then '\\' :: 'x' :: hexadecimal 2 n
  else if n < 0x10000 then '\\' :: 'u' :: hexadecimal 4 n
  else '\\' :: 'U' :: hexadecimal 8 n

/-- A character as it stands between quotes. -/
def escapeWithin (quote c : Char) : Text :=
  if c = quote ∨ c = '\\' then ['\\', c]
  else if c = '\t' then ['\\', 't']
  else if c = '\n' then ['\\', 'n']
  else if c = '\r' then ['\\', 'r']
  else if isPrintable c then [c]
  else numericEscape c.toNat

/-- A text in quotes. -/
def quoted (t : Text) : Text :=
  quoteFor t :: t.flatMap (escapeWithin (quoteFor t)) ++ [quoteFor t]

end LoxLexer.Text
