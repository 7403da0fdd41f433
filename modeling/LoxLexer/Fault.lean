/-
  What can be wrong in a program text. Both faults are survived: the reader of the text reports
  them and goes on behind them.
-/
import LoxLexer.Text

namespace LoxLexer

/-- A lexical error. -/
inductive Fault
  | unexpectedCharacter
  | unterminatedString
deriving DecidableEq, Repr

namespace Fault

/-- Every fault. -/
def all : List Fault := [unexpectedCharacter, unterminatedString]

/-- The name under which a fault is printed. -/
def name : Fault → Text
  | unexpectedCharacter => "UNEXPECTED_CHARACTER".toList
  | unterminatedString => "UNTERMINATED_STRING".toList

/-- What a report of the fault says. -/
def message : Fault → Text
  | unexpectedCharacter => "Unexpected character.".toList
  | unterminatedString => "Unterminated string.".toList

/-- The fault with a given message, if there is one. -/
def ofMessage? (t : Text) : Option Fault := all.find? fun f => f.message == t

/-- The fault with a given name, if there is one. -/
def ofName? (t : Text) : Option Fault := all.find? fun f => f.name == t

theorem mem_all (f : Fault) : f ∈ all := by cases f <;> decide

theorem ofMessage?_message (f : Fault) : ofMessage? f.message = some f := by cases f <;> decide

end Fault

end LoxLexer
