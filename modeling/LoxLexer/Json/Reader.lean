/-
  Reading JSON text. Blanks may stand between all parts, texts may hold any escape that JSON
  has, and numbers are integers. A text that is not JSON, or is followed by anything but blanks,
  is refused.
-/
import LoxLexer.Json

namespace LoxLexer.Json

/-! ## Leaves -/

/-- The characters that may stand between the parts of a JSON text. -/
def isBlank (c : Char) : Bool := c == ' ' || c == '\t' || c == '\n' || c == '\r'

/-- The text behind its leading blanks. -/
def skipBlank (t : Text) : Text := t.dropWhile isBlank

/-- The value of a hexadecimal digit in either case. -/
def hexValue? (c : Char) : Option Nat :=
  if c.isDigit then some (c.toNat - '0'.toNat)
  else if 'a' ≤ c ∧ c ≤ 'f' then some (c.toNat - 'a'.toNat + 10)
  else if 'A' ≤ c ∧ c ≤ 'F' then some (c.toNat - 'A'.toNat + 10)
  else none

/-- The number that four hexadecimal digits stand for. -/
def fourDigits? (a b c d : Char) : Option Nat := do
  return (((← hexValue? a) * 16 + (← hexValue? b)) * 16 + (← hexValue? c)) * 16 + (← hexValue? d)

/-- What a letter behind a backslash stands for. -/
def unescape? : Char → Option Char
  | '"' => some '"'
  | '\\' => some '\\'
  | '/' => some '/'
  | 'b' => some '\x08'
  | 'f' => some '\x0c'
  | 'n' => some '\n'
  | 'r' => some '\r'
  | 't' => some '\t'
  | _ => none

/-- The rest of a quoted text whose opening quote has been read, and what follows it. A number
escape stands for a character, or two of them for one beyond U+FFFF. -/
def readText : Text → Option (Text × Text)
  | [] => none
  | '"' :: rest => some ([], rest)
  | '\\' :: 'u' :: a :: b :: c :: d :: rest =>
    match fourDigits? a b c d with
    | none => none
    | some high =>
      if 0xd800 ≤ high ∧ high < 0xdc00 then
        match rest with
        | '\\' :: 'u' :: e :: f :: g :: h :: after =>
          match fourDigits? e f g h with
          | none => none
          | some low =>
            if 0xdc00 ≤ low ∧ low < 0xe000 then
              (readText after).map fun r =>
                (Char.ofNat (0x10000 + (high - 0xd800) * 0x400 + (low - 0xdc00)) :: r.1, r.2)
            else none
        | _ => none
      else if 0xdc00 ≤ high ∧ high < 0xe000 then none
      else (readText rest).map fun r => (Char.ofNat high :: r.1, r.2)
  | '\\' :: c :: rest =>
    match unescape? c with
    | none => none
    | some d => (readText rest).map fun r => (d :: r.1, r.2)
  | c :: rest =>
    if c.toNat < 0x20 ∨ c = '\\' then none else (readText rest).map fun r => (c :: r.1, r.2)

/-- A number without sign or leading zeros, and what follows it. -/
def readNat (t : Text) : Option (Nat × Text) :=
  let digits := t.takeWhile Char.isDigit
  if digits = [] ∨ (digits.head? = some '0' ∧ digits ≠ ['0']) then none
  else some (Text.valueOfDigits digits, t.dropWhile Char.isDigit)

/-- A number, and what follows it. -/
def readInteger : Text → Option (Int × Text)
  | '-' :: rest => (readNat rest).map fun r => (-(r.1 : Int), r.2)
  | t => (readNat t).map fun r => ((r.1 : Int), r.2)

/-- What follows a given word. -/
def readWord (word t : Text) : Option Text :=
  if word.isPrefixOf t then some (t.drop word.length) else none

/-! ## Values -/

mutual

/-- A value at the beginning of a text, and what follows it; `fuel` bounds the parts read. -/
def readValue : Nat → Text → Option (Json × Text)
  | 0, _ => none
  | fuel + 1, t =>
    match skipBlank t with
    | [] => none
    | '"' :: rest => (readText rest).map fun r => (text r.1, r.2)
    | '[' :: rest =>
      match skipBlank rest with
      | ']' :: after => some (list [], after)
      | _ => (readItems fuel rest).map fun r => (list r.1, r.2)
    | '{' :: rest =>
      match skipBlank rest with
      | '}' :: after => some (object [], after)
      | _ => (readMembers fuel rest).map fun r => (object r.1, r.2)
    | 'n' :: rest => (readWord "ull".toList rest).map fun after => (null, after)
    | 't' :: rest => (readWord "rue".toList rest).map fun after => (bool true, after)
    | 'f' :: rest => (readWord "alse".toList rest).map fun after => (bool false, after)
    | c :: rest => (readInteger (c :: rest)).map fun r => (integer r.1, r.2)

/-- The items of a list up to its closing bracket, and what follows it. -/
def readItems : Nat → Text → Option (List Json × Text)
  | 0, _ => none
  | fuel + 1, t =>
    match readValue fuel t with
    | none => none
    | some (v, rest) =>
      match skipBlank rest with
      | ',' :: after => (readItems fuel after).map fun r => (v :: r.1, r.2)
      | ']' :: after => some ([v], after)
      | _ => none

/-- The members of an object up to its closing brace, and what follows it. -/
def readMembers : Nat → Text → Option (List (Text × Json) × Text)
  | 0, _ => none
  | fuel + 1, t =>
    match skipBlank t with
    | '"' :: quotedName =>
      match readText quotedName with
      | none => none
      | some (name, afterName) =>
        match skipBlank afterName with
        | ':' :: afterColon =>
          match readValue fuel afterColon with
          | none => none
          | some (v, rest) =>
            match skipBlank rest with
            | ',' :: after => (readMembers fuel after).map fun r => ((name, v) :: r.1, r.2)
            | '}' :: after => some ([(name, v)], after)
            | _ => none
        | _ => none
    | _ => none

end

/-- The value that a JSON text stands for, if it is one. -/
def read? (t : Text) : Option Json :=
  match readValue (t.length + 1) t with
  | some (v, rest) => if skipBlank rest = [] then some v else none
  | none => none

end LoxLexer.Json
