/-
  Sessions: several logs and several scanners at work side by side. Every scanner reports to one
  of the logs, and a log may serve any number of scanners and take reports from outside as well.
  Logs and scanners are addressed by the number under which they were opened. An action concerns
  one log, and no other log and at most the acting scanner changes.
-/
import LoxLexer.Scan
import LoxLexer.Log

namespace LoxLexer

/-- A cursor together with the number of the log that it reports to. -/
structure Scanner where
  cursor : Cursor
  log : Nat
deriving DecidableEq, Repr

/-- Logs and scanners in the order in which they were opened. -/
structure Session where
  logs : List Log
  scanners : List Scanner
deriving DecidableEq, Repr

namespace Session

/-- A session in which nothing has been opened. -/
def empty : Session := ⟨[], []⟩

/-- Opens a log without entries; its number is the second component. -/
def openLog (s : Session) (echoes : Bool) : Session × Nat :=
  ({ s with logs := s.logs ++ [.empty echoes] }, s.logs.length)

/-- Opens a scanner at the beginning of a text; its number is the second component. -/
def openScanner (s : Session) (source : Text) (log : Nat) : Session × Nat :=
  ({ s with scanners := s.scanners ++ [⟨.ofText source, log⟩] }, s.scanners.length)

/-- What is done on a log or a scanner of a session. -/
inductive Action
  | pull (scanner : Nat) (p : Cursor.Pull)
  | report (log : Nat) (d : Diagnostic)
  | fault (log : Nat) (line : Int) (f : Fault)
  | reset (log : Nat)
deriving DecidableEq, Repr

/-- What an action gives: tokens, or the reasons of a refusal, what it printed, and the failure of
its printing if it failed. -/
structure Outcome where
  answer : Except (List FieldError) (List Token)
  written : Transcript
  failure : Option Text.DigitsProblem

namespace Outcome

/-- The outcome of an action without answer. -/
def silent : Outcome := ⟨.ok [], [], none⟩

/-- The outcome of an action that is refused. -/
def refused (errors : List FieldError) : Outcome := ⟨.error errors, [], none⟩

/-- The outcome of a report that is recorded and then printed, or not. -/
def reported : Except Text.DigitsProblem Transcript → Outcome
  | .ok written => ⟨.ok [], written, none⟩
  | .error problem => ⟨.ok [], [], some problem⟩

/-- A report is not refused because it cannot be printed. -/
theorem answer_reported (printed : Except Text.DigitsProblem Transcript) :
    (reported printed).answer = .ok [] := by cases printed <;> rfl

end Outcome

/-- Takes tokens from a scanner. -/
def pull (s : Session) (i : Nat) (p : Cursor.Pull) : Session × Outcome :=
  match s.scanners[i]? with
  | none => (s, .silent)
  | some scanner =>
    let passed := scanner.cursor.pull p
    let found := Scan.ofSteps passed
    ({ logs := s.logs.modify scanner.log (·.recordAll found.diagnostics)
       scanners := s.scanners.set i { scanner with cursor := scanner.cursor.after passed } },
      { answer := .ok found.tokens
        written :=
          match s.logs[scanner.log]? with
          | none => []
          | some log => found.diagnostics.flatMap log.line
        failure := none })

/-- Reports a diagnostic to a log. -/
def report (s : Session) (i : Nat) (d : Diagnostic) : Session × Outcome :=
  match s.logs[i]? with
  | none => (s, .silent)
  | some log =>
    match log.report d with
    | .error errors => (s, .refused errors)
    | .ok after => ({ s with logs := s.logs.set i after }, .reported (log.echo d))

/-- Performs an action. -/
def perform (s : Session) : Action → Session × Outcome
  | .pull i p => s.pull i p
  | .report i d => s.report i d
  | .fault i line f => s.report i (.ofFault line f)
  | .reset i => ({ s with logs := s.logs.modify i Log.reset }, .silent)

/-- Performs actions in order. -/
def performAll (s : Session) : List Action → Session × List Outcome
  | [] => (s, [])
  | a :: actions =>
    let (middle, outcome) := s.perform a
    let (after, outcomes) := middle.performAll actions
    (after, outcome :: outcomes)

/-! ## What the parts of an action give -/

section

variable {s : Session} {i : Nat} {d : Diagnostic} {log : Log}

theorem pull_of_none (h : s.scanners[i]? = none) (p : Cursor.Pull) : s.pull i p = (s, .silent) := by
  simp only [pull, h]

theorem pull_of_some {scanner : Scanner} (h : s.scanners[i]? = some scanner) (p : Cursor.Pull) :
    (s.pull i p).1
        = { logs := s.logs.modify scanner.log
              (·.recordAll (Scan.ofSteps (scanner.cursor.pull p)).diagnostics)
            scanners := s.scanners.set i
              { scanner with cursor := scanner.cursor.after (scanner.cursor.pull p) } }
      ∧ (s.pull i p).2.answer = .ok (Scan.ofSteps (scanner.cursor.pull p)).tokens := by
  simp only [pull, h, and_self]

theorem report_of_none (h : s.logs[i]? = none) (d : Diagnostic) : s.report i d = (s, .silent) := by
  simp only [report, h]

theorem report_of_valid (h : s.logs[i]? = some log) (hd : d.Valid) :
    s.report i d = ({ s with logs := s.logs.set i (log.record d) }, .reported (log.echo d)) := by
  have hreport : log.report d = .ok (log.record d) := Log.report_eq_ok_iff.mpr ⟨hd, rfl⟩
  simp only [report, h, hreport]

/-- A diagnostic that is not valid is refused for its line, and nothing is kept or printed. -/
theorem report_of_not_valid (h : s.logs[i]? = some log) (hd : ¬ d.Valid) :
    s.report i d = (s, .refused [⟨"line".toList, .belowOne⟩]) := by
  have hreport : log.report d = .error [⟨"line".toList, .belowOne⟩] := Log.report_of_not_valid hd
  simp only [report, h, hreport]

end

end Session

end LoxLexer
