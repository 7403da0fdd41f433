/-
  A monitor for faults: an automaton that reads a program text one character at a time, without
  looking ahead, and reports what is wrong in it. It keeps a mode and a line, and knows neither
  numbers nor operators.
-/
import LoxLexer.Item
import LoxLexer.Diagnostic

namespace LoxLexer.Monitor

/-- What the monitor is in the midst of. -/
inductive Mode
  | normal
  | word
  | slash
  | comment
  | string
deriving DecidableEq, Repr

/-- The characters that mean nothing to the monitor and are never wrong. -/
def isPlain (c : Char) : Bool :=
  c.isDigit || Item.isBlank c || "()\x7b\x7d,.-+;*!=<>".toList.contains c

/-- The mode after a character that belongs to nothing begun before. -/
def enter (c : Char) : Mode :=
  if Text.isLetter c then .word
  else if c = '"' then .string
  else if c = '/' then .slash
  else .normal

/-- The mode after a character. -/
def next : Mode → Char → Mode
  | .normal, c => enter c
  | .word, c => if Item.isWordChar c then .word else enter c
  | .slash, c => if c = '/' then .comment else enter c
  | .comment, c => if c = '\n' then .normal else .comment
  | .string, c => if c = '"' then .normal else .string

/-- Whether a character that belongs to nothing begun before is wrong. -/
def isStray (c : Char) : Bool := enter c == .normal && !isPlain c

/-- Whether a character is wrong in a mode. -/
def isWrong : Mode → Char → Bool
  | .normal, c => isStray c
  | .word, c => !Item.isWordChar c && isStray c
  | .slash, c => c != '/' && isStray c
  | .comment, _ => false
  | .string, _ => false

/-- What is reported from a mode and a line on. -/
def watch : Mode → Nat → Text → List Diagnostic
  | .string, line, [] => [.ofFault line .unterminatedString]
  | _, _, [] => []
  | mode, line, c :: rest =>
    (if isWrong mode c then [.ofFault line .unexpectedCharacter] else [])
      ++ watch (next mode c) (if c = '\n' then line + 1 else line) rest

/-- What is reported in a whole text. -/
def diagnostics (source : Text) : List Diagnostic := watch .normal 1 source

end LoxLexer.Monitor
