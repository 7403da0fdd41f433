/-
  A run: scanning a program text and printing what is found. The diagnostics go to a log that
  may echo them, each before the next is looked for; the tokens are printed when the whole text
  has been scanned, line by line or as one JSON list. A verbose run also announces every
  diagnostic and sums up the scan on the error output.
-/
import LoxLexer.Scan
import LoxLexer.Log

namespace LoxLexer

/-- How a run is printed. -/
structure Flags where
  dump : Bool
  verbose : Bool
deriving DecidableEq, Repr

namespace Run

/-- The beginning of every line that a verbose run adds. -/
def debugLead : Text := "DEBUG rox.scanner: ".toList

/-- The line that announces a diagnostic. -/
def announcement (d : Diagnostic) : Write :=
  ⟨.err, debugLead ++ "line ".toList ++ Text.ofInt d.line ++ ": ".toList
    ++ (d.fault.elim [] Fault.name) ++ ['\n']⟩

/-- The line that sums up a scan. -/
def summary (tokens lines errors : Nat) : Write :=
  ⟨.err, debugLead ++ "scanned ".toList ++ Text.ofNat tokens ++ " tokens over ".toList
    ++ Text.ofNat lines ++ " lines, ".toList ++ Text.ofNat errors ++ " errors\n".toList⟩

/-- The tokens as they are printed. -/
def listing (flags : Flags) (tokens : List Token) : Transcript :=
  if flags.dump then [.line .out (Json.list (tokens.map Token.toJson)).indented]
  else tokens.map fun t => .line .out t.toText

/-- What is printed as diagnostics are recorded one after the other, and the log after them. -/
def reports (flags : Flags) (log : Log) : List Diagnostic → Transcript × Log
  | [] => ([], log)
  | d :: ds =>
    let (printed, after) := reports flags (log.record d) ds
    ((if flags.verbose then [announcement d] else []) ++ log.line d ++ printed, after)

/-- What a run prints, and the log after it. -/
def perform (flags : Flags) (source : Text) (log : Log) : Transcript × Log :=
  let start := Cursor.ofText source
  let steps := start.drain
  let (printed, after) := reports flags log (steps.flatMap Step.diagnostics)
  let summed :=
    if flags.verbose then [summary steps.length (start.after steps).line after.entries.length]
    else []
  (printed ++ summed ++ listing flags (steps.map Step.token), after)

theorem snd_reports (flags : Flags) (log : Log) (ds : List Diagnostic) :
    (reports flags log ds).2 = log.recordAll ds := by
  induction ds generalizing log with
  | nil => rw [Log.recordAll_nil]; rfl
  | cons d ds ih => rw [Log.recordAll_cons, ← ih]; rfl

/-- A run leaves the diagnostics of its text in the log. -/
theorem snd_perform (flags : Flags) (source : Text) (log : Log) :
    (perform flags source log).2 = log.recordAll (scan source).diagnostics :=
  snd_reports flags log _

end Run

end LoxLexer
