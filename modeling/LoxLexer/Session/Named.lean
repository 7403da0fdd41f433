/-
  Sessions whose logs and scanners go by names. A name may be given again: it then means the new
  object, while a scanner goes on reporting to the log that it was opened with. A report is
  asked for by the fields of a diagnostic and refused, with nothing recorded, if these do not
  make one; it is recorded, but not answered with the diagnostic, if printing this fails.
-/
import LoxLexer.Session

namespace LoxLexer

namespace Session

/-- What a name means: the number of a log or of a scanner. -/
inductive Object
  | log (i : Nat)
  | scanner (i : Nat)
deriving DecidableEq, Repr

/-- A session with names for its objects, the latest meaning of a name first. -/
structure Named where
  session : Session
  names : List (Text × Object)

/-- What is asked of the object with a name. -/
inductive Request
  | openLog (echoes : Bool)
  | openScanner (source : Text) (log : Option Text)
  | pull (p : Cursor.Pull)
  | dump
  | report (fields : Fields)
  | fault (line : Json) (f : Fault)
  | reset
  | diagnostics

/-- The answer to a request. -/
inductive Reply
  | done
  | token (t : Token)
  | exhausted
  | tokens (ts : List Token)
  | reported (d : Diagnostic)
  | refused (errors : List FieldError)
  | failed (problem : Text.DigitsProblem)
  | diagnostics (ds : List Diagnostic)
  | dumped (v : Json)

/-- The answer to a request after an action: a refusal, a failure, or what `reply` makes of the
action's tokens. -/
def Outcome.toReply (outcome : Outcome) (reply : List Token → Reply) : Reply :=
  match outcome.answer, outcome.failure with
  | .error errors, _ => .refused errors
  | .ok _, some problem => .failed problem
  | .ok tokens, none => reply tokens

namespace Named

/-- A session in which no name has been given. -/
def empty : Named := ⟨Session.empty, []⟩

/-- The scanner with a number. -/
def scanner? (s : Named) (i : Nat) : Option Scanner := s.session.scanners[i]?

/-- The number of the log of an object: the log itself, or the log a scanner reports to. -/
def logNumber (s : Named) : Object → Option Nat
  | .log i => some i
  | .scanner i => (s.scanner? i).map Scanner.log

/-- The log of an object. -/
def logOf (s : Named) (object : Object) : Option Log :=
  (s.logNumber object).bind fun i => s.session.logs[i]?

/-- The object with a name. -/
def object? (s : Named) (name : Text) : Option Object := s.names.lookup name

/-- Gives a name to an object. -/
def bind (s : Named) (name : Text) (session : Session) (object : Object) : Named :=
  ⟨session, (name, object) :: s.names⟩

/-- Performs an action and answers with what `reply` makes of its tokens. -/
def act (s : Named) (action : Action) (reply : List Token → Reply) : Named × Reply × Transcript :=
  let (session, outcome) := s.session.perform action
  ({ s with session := session }, outcome.toReply reply, outcome.written)

/-- A JSON value that shows the state of an object. -/
def dump (s : Named) (object : Object) : Option Json := do
  let log ← s.logOf object
  match object with
  | .log _ => some log.toJson
  | .scanner i =>
    let scanner ← s.scanner? i
    some (.object [("source".toList, .text scanner.cursor.source),
      ("reporter".toList, log.toJson)])

/-- Opens a log or a scanner under a name. A scanner without a given log gets a silent one of
its own. -/
def opened (s : Named) (name : Text) : Request → Option Named
  | .openLog echoes =>
    let (session, i) := s.session.openLog echoes
    some (s.bind name session (.log i))
  | .openScanner source none =>
    let (withLog, log) := s.session.openLog false
    let (session, i) := withLog.openScanner source log
    some (s.bind name session (.scanner i))
  | .openScanner source (some logName) => do
    let log ← s.logNumber (← s.object? logName)
    let (session, i) := s.session.openScanner source log
    some (s.bind name session (.scanner i))
  | _ => none

/-- Fulfils a request to the object with a name, if there is one and it can be asked this. -/
def perform (s : Named) (name : Text) (request : Request) : Option (Named × Reply × Transcript) :=
  match s.opened name request with
  | some after => some (after, .done, [])
  | none => do
    let object ← s.object? name
    let log ← s.logNumber object
    match request, object with
    | .pull .next, .scanner i =>
      some (s.act (.pull i .next) fun tokens =>
        match tokens.head? with
        | some t => .token t
        | none => .exhausted)
    | .pull p, .scanner i => some (s.act (.pull i p) .tokens)
    | .dump, _ => some (s, .dumped (← s.dump object), [])
    | .report fields, _ =>
      match Diagnostic.ofFields fields with
      | .ok d => some (s.act (.report log d) fun _ => .reported d)
      | .error errors => some (s, .refused errors, [])
    | .fault line f, _ =>
      match line.asInteger with
      | .ok n => some (s.act (.fault log n f) fun _ => .reported (.ofFault n f))
      | .error problem => some (s, .refused [⟨"line".toList, problem⟩], [])
    | .reset, _ => some (s.act (.reset log) fun _ => .done)
    | .diagnostics, _ => some (s, .diagnostics (← s.logOf object).entries, [])
    | _, _ => none

/-- The place of a scanner: its offset and its line. -/
def position? (s : Named) : Object → Option (Nat × Nat)
  | .log _ => none
  | .scanner i => (s.scanner? i).map fun scanner => (scanner.cursor.offset, scanner.cursor.line)

end Named

end Session

end LoxLexer
