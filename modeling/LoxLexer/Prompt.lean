/-
  The prompt: reads lines until the input ends and runs each on its own, with its line end. One
  log serves all lines and is emptied before each, so a line's errors do not outlive it.
-/
import LoxLexer.Run
import LoxLexer.Text.Newline

namespace LoxLexer

namespace Prompt

/-- What is written before a line is read. -/
def invitation : Write := ⟨.out, "ROX> ".toList⟩

/-- What is written when the input has ended. -/
def farewell : Write := ⟨.out, ['\n']⟩

/-- The run of one line. -/
def turn (flags : Flags) (log : Log) (line : Text) : Transcript × Log :=
  Run.perform flags line log.reset

/-- All that a prompt writes over an input whose lines end in `'\n'`. -/
def perform (flags : Flags) (log : Log) : Text → Transcript
  | [] => [invitation, farewell]
  | c :: rest =>
    let line := Text.takeLine (c :: rest)
    let (printed, after) := turn flags log line.1
    invitation :: printed ++ perform flags after line.2
termination_by input => input.length
decreasing_by exact Text.length_takeLine_lt c rest

end Prompt

end LoxLexer
