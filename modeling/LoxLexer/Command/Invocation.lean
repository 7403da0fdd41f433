/-
  The command's arguments. An argument that begins with a dash is one switch by its long name,
  or several by their letters; a lone dash is no switch, and after `--` there are none. Every
  other argument is taken as it stands. Switches may come anywhere and more than once.
-/
import LoxLexer.Run

namespace LoxLexer

/-- What can be switched on. -/
inductive Switch
  | help
  | dumpTokens
  | verbose
deriving DecidableEq, Repr

namespace Switch

/-- Every switch. -/
def all : List Switch := [help, dumpTokens, verbose]

/-- The name of a switch behind two dashes, with the dashes. -/
def longName : Switch → Text
  | help => "--help".toList
  | dumpTokens => "--dump-tokens".toList
  | verbose => "--verbose".toList

/-- The letter that stands for a switch behind a single dash. -/
def letter? : Switch → Option Char
  | help => some 'h'
  | dumpTokens => none
  | verbose => some 'v'

/-- The switch with a long name, if there is one. -/
def ofLongName? (name : Text) : Option Switch := all.find? fun s => s.longName == name

/-- The switch that a letter stands for, if there is one. -/
def ofLetter? (c : Char) : Option Switch := all.find? fun s => s.letter? == some c

end Switch

/-- Why arguments make no sense as switches. -/
inductive SwitchError
  | unknown (name : Text)
  | takesNoValue (name : Text)
deriving DecidableEq, Repr

/-- What the arguments ask for. -/
structure Invocation where
  help : Bool
  flags : Flags
  arguments : List Text
deriving DecidableEq, Repr

namespace Invocation

/-- What no arguments ask for. -/
def empty : Invocation := ⟨false, ⟨false, false⟩, []⟩

/-- With a switch on. -/
def set (v : Invocation) : Switch → Invocation
  | .help => { v with help := true }
  | .dumpTokens => { v with flags := { v.flags with dump := true } }
  | .verbose => { v with flags := { v.flags with verbose := true } }

/-- With switches on that are given by their letters. -/
def setLetters (v : Invocation) : Text → Except SwitchError Invocation
  | [] => .ok v
  | c :: rest =>
    match Switch.ofLetter? c with
    | some s => (v.set s).setLetters rest
    | none => .error (.unknown ['-', c])

/-- Whether an argument is meant as switches. -/
def isSwitch (arg : Text) : Bool := arg.head? == some '-' && 1 < arg.length

/-- With the switches on that an argument stands for. -/
def setArgument (v : Invocation) (arg : Text) : Except SwitchError Invocation :=
  let name := arg.takeWhile (· != '=')
  match Switch.ofLongName? name with
  | some s => if name = arg then .ok (v.set s) else .error (.takesNoValue name)
  | none => if arg.take 2 = ['-', '-'] then .error (.unknown name) else v.setLetters arg.tail

/-- With all that further arguments ask for. -/
def extend (v : Invocation) : List Text → Except SwitchError Invocation
  | [] => .ok v
  | arg :: rest =>
    if arg = ['-', '-'] then .ok { v with arguments := v.arguments ++ rest }
    else if isSwitch arg then
      match v.setArgument arg with
      | .ok after => after.extend rest
      | .error e => .error e
    else extend { v with arguments := v.arguments ++ [arg] } rest

/-- What arguments ask for. -/
def ofArguments (args : List Text) : Except SwitchError Invocation := empty.extend args

end Invocation

end LoxLexer
