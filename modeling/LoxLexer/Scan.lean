/-
  Scanning a whole program text: all its tokens, the last of which ends the input, and all its
  diagnostics, in the order in which they are reported.
-/
import LoxLexer.Cursor

namespace LoxLexer

/-- The outcome of scanning a text. -/
structure Scan where
  tokens : List Token
  diagnostics : List Diagnostic
deriving DecidableEq, Repr

namespace Scan

/-- What a list of steps brought to light. -/
def ofSteps (steps : List Step) : Scan :=
  ⟨steps.map Step.token, steps.flatMap Step.diagnostics⟩

/-- Whether anything was reported. -/
def hadError (s : Scan) : Bool := !s.diagnostics.isEmpty

theorem ofSteps_nil : ofSteps [] = ⟨[], []⟩ := rfl

theorem ofSteps_cons (s : Step) (steps : List Step) :
    ofSteps (s :: steps)
      = ⟨s.token :: (ofSteps steps).tokens, s.diagnostics ++ (ofSteps steps).diagnostics⟩ := rfl

theorem hadError_iff (s : Scan) : s.hadError = true ↔ s.diagnostics ≠ [] := by
  simp [hadError]

end Scan

/-- The tokens and diagnostics of a program text. -/
def scan (source : Text) : Scan := .ofSteps (Cursor.ofText source).drain

end LoxLexer
