/-
  Numbers in hexadecimal with a fixed number of lower-case digits.
-/
import LoxLexer.Text

namespace LoxLexer.Text

/-- The last `width` hexadecimal digits of a number. -/
def hexadecimal : Nat → Nat → Text
  | 0, _ => []
  | width + 1, n => hexadecimal width (n / 16) ++ [Nat.digitChar (n % 16)]

end LoxLexer.Text
