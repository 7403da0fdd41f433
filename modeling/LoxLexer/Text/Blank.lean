/-
  Blank characters: the white space of Unicode, in ASCII the space and U+0009 to U+000D.
-/
import LoxLexer.Text

namespace LoxLexer.Text

/-- The blank characters outside ASCII, apart from U+2000 to U+200A. -/
def wideBlanks : List Nat :=
  [0x85, 0xa0, 0x1680, 0x2028, 0x2029, 0x202f, 0x205f, 0x3000]

/-- Whether a character is blank. -/
def isBlank (c : Char) : Bool :=
  c = ' ' || (0x09 ≤ c.toNat && c.toNat ≤ 0x0d) || (0x2000 ≤ c.toNat && c.toNat ≤ 0x200a)
    || wideBlanks.contains c.toNat

/-- A text without the blanks at its two ends. -/
def trimmed (t : Text) : Text :=
  ((t.dropWhile isBlank).reverse.dropWhile isBlank).reverse

end LoxLexer.Text
