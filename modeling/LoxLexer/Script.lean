/-
  Script files. A script is UTF-8 with line ends of any of the three usual forms. A file that is
  not there, may not be read or is no text is not run at all; else the exit status says whether an
  error was reported.
-/
import LoxLexer.Run
import LoxLexer.FileTree
import LoxLexer.Text.Newline
import LoxLexer.Text.Quoted

namespace LoxLexer

namespace Script

/-- Why a script cannot be read. -/
inductive OpenError
  | path (e : PathError)
  | isLocked
  | isDirectory
  | notText (defect : Utf8.Defect)
deriving DecidableEq, Repr

/-- The cause in words. -/
def OpenError.hint : OpenError → Text
  | path .missing => "No such file or directory".toList
  | path .notDirectory => "Not a directory".toList
  | path .nameTooLong => "File name too long".toList
  | isLocked => "Permission denied".toList
  | isDirectory => "Is a directory".toList
  | notText defect => "not valid UTF-8 (".toList ++ defect.message ++ [')']

/-- What is said about a script that cannot be read. -/
def OpenError.message (path : Path) (e : OpenError) : Text :=
  "Could not open file ".toList ++ Text.quoted path.text ++ ": ".toList ++ e.hint

/-- The program text in a file. -/
def read (content : List UInt8) : Except OpenError Text :=
  match Utf8.decode content with
  | .ok t => .ok (Text.unifyNewlines t)
  | .error defect => .error (.notText defect)

/-- The program text in the file at a path. -/
def openAt (found : Except PathError Entry) : Except OpenError Text :=
  match found with
  | .error e => .error (.path e)
  | .ok .locked => .error .isLocked
  | .ok .directory => .error .isDirectory
  | .ok (.file content) => read content

/-- What has become of a program: what it wrote and its exit status. -/
structure Outcome where
  transcript : Transcript
  status : Nat
deriving DecidableEq, Repr

/-- The exit status after errors in a script. -/
def errorStatus : Nat := 65

/-- Runs a program text as a script. -/
def run (flags : Flags) (source : Text) : Outcome :=
  let (printed, log) := Run.perform flags source (.empty true)
  ⟨printed, if log.hadError then errorStatus else 0⟩

theorem status_run (flags : Flags) (source : Text) :
    (run flags source).status = if (scan source).diagnostics = [] then 0 else errorStatus := by
  have hlog : (run flags source).status
      = if ((Log.empty true).recordAll (scan source).diagnostics).hadError then errorStatus
        else 0 := by
    rw [← Run.snd_perform flags]
    rfl
  rw [hlog]
  cases (scan source).diagnostics <;> rfl

/-- Runs what was found at a script's path. -/
def runFound (flags : Flags) (found : Except PathError Entry) : Except OpenError Outcome :=
  (openAt found).map (run flags)

end Script

end LoxLexer
