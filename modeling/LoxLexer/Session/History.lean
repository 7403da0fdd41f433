/-
  What a session's logs hold and what it prints, read off its actions alone. A scanner's share of
  the actions is what was asked of it, and gives the steps that it would make by itself. A log
  holds what it was given since it was emptied last: the valid reports to it, and what its
  scanners met in their own steps. Where there are no scanners, all of this is in the reports that
  are about a line from 1 on (`accepted`), and what is printed is in those of them that go to
  echoing logs and can be written out (`printable`).
-/
import LoxLexer.Session

namespace LoxLexer

namespace Session

/-- What the actions ask of one scanner. -/
def pullsOf (i : Nat) (actions : List Action) : List Cursor.Pull :=
  actions.filterMap fun
    | .pull j p => if j = i then some p else none
    | _ => none

/-- The steps that a scanner makes by itself on a request, after its share of earlier actions. -/
def soloSteps (scanner : Scanner) (i : Nat) (past : List Action) (p : Cursor.Pull) : List Step :=
  let pulls := pullsOf i past
  (scanner.cursor.after (scanner.cursor.pullAll pulls)).pull p

/-- What an action gives to a log; a session's scanners are taken as they were before all
actions. -/
def given (s : Session) (log : Nat) (past : List Action) : Action → List Diagnostic
  | .pull i p =>
    match s.scanners[i]? with
    | some scanner =>
      if scanner.log = log then (soloSteps scanner i past p).flatMap Step.diagnostics else []
    | none => []
  | .report j d => if j = log ∧ d.Valid then [d] else []
  | .fault j line f => if j = log ∧ (Diagnostic.ofFault line f).Valid then [.ofFault line f] else []
  | .reset _ => []

/-- What actions give to a log, one after the other. -/
def givenAll (s : Session) (log : Nat) (past : List Action) : List Action → List Diagnostic
  | [] => []
  | a :: actions => s.given log past a ++ s.givenAll log (past ++ [a]) actions

/-- What a log holds after actions when it held `held` after the actions `past`. -/
def kept (s : Session) (log : Nat) (held : List Diagnostic) (past : List Action) :
    List Action → List Diagnostic
  | [] => held
  | a :: actions =>
    if a = .reset log then s.kept log [] (past ++ [a]) actions
    else s.kept log (held ++ s.given log past a) (past ++ [a]) actions

/-- The number of the log that an action concerns, if it concerns one. -/
def logOf (s : Session) : Action → Option Nat
  | .pull i _ => (s.scanners[i]?).map Scanner.log
  | .report j _ => some j
  | .fault j _ _ => some j
  | .reset j => some j

/-- The report that an action makes, with the number of the log that it goes to. A lexical error is
reported in its own words. -/
def Action.reported? : Action → Option (Nat × Diagnostic)
  | .report j d => some (j, d)
  | .fault j line f => some (j, ⟨line, [], f.message, some f⟩)
  | .pull _ _ => none
  | .reset _ => none

/-- The reports of actions that are about a line from 1 on, in order. -/
def accepted (actions : List Action) : List (Nat × Diagnostic) :=
  (actions.filterMap Action.reported?).filter fun r => 1 ≤ r.2.line

/-- The diagnostics that are accepted for a log, in order. -/
def acceptedFor (j : Nat) (actions : List Action) : List Diagnostic :=
  ((accepted actions).filter fun r => r.1 = j).map Prod.snd

/-- Whether a log echoes. -/
def Echoes (s : Session) (j : Nat) : Prop := s.logs[j]?.map Log.echoes = some true

instance (s : Session) (j : Nat) : Decidable (s.Echoes j) :=
  inferInstanceAs (Decidable (s.logs[j]?.map Log.echoes = some true))

/-- The reports that are accepted for echoing logs and can be written out, in order. -/
def printable (s : Session) (actions : List Action) : List (Nat × Diagnostic) :=
  (accepted actions).filter fun r => s.Echoes r.1 ∧ Text.FewDigits r.2.line

end Session

end LoxLexer
