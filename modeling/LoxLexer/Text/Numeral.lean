/-
  Integers spelt in texts. Around a numeral may be blanks, before it a sign and zeros, behind it
  a point with zeros, and an underscore between any two of its digits. A numeral of more than
  4300 characters is too long to be read, and then what follows it does not matter.
-/
import LoxLexer.Text.Blank
import LoxLexer.Text.Decimal

namespace LoxLexer.Text

/-- Why a text does not spell an integer. -/
inductive NumeralProblem
  | unreadable
  | tooLong
deriving DecidableEq, Repr

namespace Numeral

/-- The most characters that a numeral may have, its minus sign among them. -/
def longest : Nat := mostDigits

/-- Whether a character among leading zeros does not count. -/
def isPadding (c : Char) : Bool := c = '0' || c = '_'

/-- A text without its plus sign. -/
def withoutPlus : Text → Option Text
  | '+' :: '-' :: _ => none
  | '+' :: rest => some rest
  | t => some t

/-- A text without leading zeros, if it begins like a numeral. The last of them stays where no
digit follows. -/
def withoutZeros : Text → Option Text
  | [] => none
  | c :: rest =>
    if c = '0' then
      let last := ((c :: rest).takeWhile isPadding).getLast?.toList
      match rest.dropWhile isPadding with
      | [] => some last
      | d :: more =>
        if d = '.' then some (last ++ d :: more) else if d.isDigit then some (d :: more) else none
    else if c.isDigit || c = '-' then some (c :: rest)
    else none

/-- A text without a fraction of zeros. -/
def withoutFraction (t : Text) : Text :=
  let whole := t.takeWhile (· ≠ '.')
  if (t.drop (whole.length + 1)).all (· = '0') then whole else t

/-- A text without underscores, if each of them stands by itself and inside the text. -/
def withoutUnderscores (t : Text) : Text :=
  if t.head? = some '_' ∨ t.getLast? = some '_' ∨ (t.zip t.tail).contains ('_', '_') then t
  else t.filter (· ≠ '_')

/-- The number that a text of at most `room` digits without leading zeros spells. -/
def readDigits (room : Nat) (t : Text) : Except NumeralProblem Nat :=
  let digits := t.takeWhile Char.isDigit
  if digits = [] ∨ (digits.head? = some '0' ∧ digits ≠ ['0']) then .error .unreadable
  else if room < digits.length then .error .tooLong
  else if digits = t then .ok (valueOfDigits t)
  else .error .unreadable

/-- The integer that a text with a minus sign or none and without leading zeros spells. -/
def read : Text → Except NumeralProblem Int
  | '-' :: t => (readDigits (longest - 1) t).map fun n => -n
  | t => (readDigits longest t).map fun n => n

end Numeral

/-- The integer that a text spells. -/
def toInteger (t : Text) : Except NumeralProblem Int :=
  match (Numeral.withoutPlus (trimmed t)).bind Numeral.withoutZeros with
  | some s => Numeral.read (Numeral.withoutUnderscores (Numeral.withoutFraction s))
  | none => .error .unreadable

end LoxLexer.Text
