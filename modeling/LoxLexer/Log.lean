/-
  Logs of diagnostics. A log keeps the valid diagnostics reported to it, oldest first, until it
  is emptied; a log that echoes also prints each on the error output as it is reported. A report
  that is refused changes nothing. A diagnostic is kept before it is printed, so it is in the log
  also when its line number has too many digits to be written out and printing it fails (`echo`).
  Scanning takes no account of this, as no text has so many lines (`Step.echo_of_sound`).
-/
import LoxLexer.Diagnostic
import LoxLexer.Transcript

namespace LoxLexer

/-- A log of diagnostics, oldest first. -/
structure Log where
  echoes : Bool
  entries : List Diagnostic
deriving DecidableEq, Repr

namespace Log

/-- A log without entries. -/
def empty (echoes : Bool) : Log := ⟨echoes, []⟩

/-- The log with one more entry. -/
def record (log : Log) (d : Diagnostic) : Log := { log with entries := log.entries ++ [d] }

/-- The log with more entries, in order. -/
def recordAll (log : Log) (ds : List Diagnostic) : Log := { log with entries := log.entries ++ ds }

/-- What the log prints of a diagnostic with few enough digits. -/
def line (log : Log) (d : Diagnostic) : Transcript :=
  if log.echoes then [.line .err d.toText] else []

/-- What the log prints when a diagnostic is recorded, or why this fails. -/
def echo (log : Log) (d : Diagnostic) : Except Text.DigitsProblem Transcript :=
  if log.echoes then d.writeText.map fun t => [.line .err t] else .ok []

/-- The log after a report, or why the report is refused. -/
def report (log : Log) (d : Diagnostic) : Except (List FieldError) Log := d.check.map log.record

/-- The log without its entries. -/
def reset (log : Log) : Log := { log with entries := [] }

/-- Whether anything is in the log. -/
def hadError (log : Log) : Bool := !log.entries.isEmpty

/-- A log as an object. -/
def toJson (log : Log) : Json :=
  .object [("diagnostics".toList, .list (log.entries.map Diagnostic.toJson))]

theorem hadError_iff (log : Log) : log.hadError = true ↔ log.entries ≠ [] := by simp [hadError]

theorem recordAll_nil (log : Log) : log.recordAll [] = log := by simp [recordAll]

theorem recordAll_cons (log : Log) (d : Diagnostic) (ds : List Diagnostic) :
    log.recordAll (d :: ds) = (log.record d).recordAll ds := by simp [recordAll, record]

theorem report_eq_ok_iff {log after : Log} {d : Diagnostic} :
    log.report d = .ok after ↔ d.Valid ∧ after = log.record d := by
  unfold report Diagnostic.check
  split <;> rename_i h
  · simp [Except.map, h, eq_comm]
  · simp [Except.map, h]

theorem report_of_not_valid {log : Log} {d : Diagnostic} (h : ¬ d.Valid) :
    log.report d = .error [⟨"line".toList, .belowOne⟩] := by
  rw [report, Diagnostic.check_of_not_valid h]
  rfl

theorem echo_of_fewDigits {d : Diagnostic} (h : Text.FewDigits d.line) (log : Log) :
    log.echo d = .ok (log.line d) := by
  rw [echo, Diagnostic.writeText, Text.writeInt, if_pos h, line]
  cases log.echoes <;> rfl

theorem echo_of_not_fewDigits {d : Diagnostic} (h : ¬ Text.FewDigits d.line) (log : Log) :
    log.echo d = if log.echoes then .error .tooMany else .ok [] := by
  rw [echo, Diagnostic.writeText, Text.writeInt, if_neg h]
  rfl

end Log

end LoxLexer
