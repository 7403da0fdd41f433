/-
  A prompt session is a sequence of runs that have nothing to do with each other. The lines of a
  text are determined by where its line ends stand (`areLines_iff`), and the prompt takes them one
  by one. Its one log echoes and is empty again before each line, which is the invariant of the
  loop; so each line is run as it would be with a log of its own (`perform_eq_flatMap`). The
  output of a session is that of the lines' runs in order, each with the invitation before it
  (`prompt_runs_lines`).
-/
import LoxLexer.Command
import Mathlib.Data.List.Basic

namespace LoxLexer

/-! ## Lines -/

namespace Text

/-- The texts are the lines of a text: each but the last ends in `'\n'`, which stands nowhere else
in it, and the last is not empty if it does not end so. -/
inductive AreLines : Text → List Text → Prop
  | nil : AreLines [] []
  | last {t : Text} (hne : t ≠ []) (h : '\n' ∉ t) : AreLines t [t]
  | cons {line rest : Text} {others : List Text} (h : '\n' ∉ line) (hr : AreLines rest others) :
      AreLines (line ++ '\n' :: rest) ((line ++ ['\n']) :: others)

variable {line t : Text}

theorem takeLine_of_notMem (h : '\n' ∉ t) : takeLine t = (t, []) := by
  induction t with
  | nil => rfl
  | cons c rest ih =>
    rw [List.mem_cons, not_or] at h
    rw [takeLine, if_neg (Ne.symm h.1), ih h.2]

theorem takeLine_append_newline (h : '\n' ∉ line) (rest : Text) :
    takeLine (line ++ '\n' :: rest) = (line ++ ['\n'], rest) := by
  induction line with
  | nil => rfl
  | cons c line ih =>
    rw [List.mem_cons, not_or] at h
    rw [List.cons_append, takeLine, if_neg (Ne.symm h.1), ih h.2, List.cons_append]

theorem lines_of_ne_nil (h : t ≠ []) : lines t = (takeLine t).1 :: lines (takeLine t).2 := by
  obtain ⟨c, rest, rfl⟩ := List.exists_cons_of_ne_nil h
  exact lines_cons c rest

theorem lines_of_notMem (hne : t ≠ []) (h : '\n' ∉ t) : lines t = [t] := by
  rw [lines_of_ne_nil hne, takeLine_of_notMem h, lines_nil]

theorem lines_append_newline (h : '\n' ∉ line) (rest : Text) :
    lines (line ++ '\n' :: rest) = (line ++ ['\n']) :: lines rest := by
  rw [lines_of_ne_nil (by simp), takeLine_append_newline h]

theorem areLines_lines (t : Text) : AreLines t (lines t) := by
  induction hn : t.length using Nat.strongRecOn generalizing t with
  | ind n ih =>
    subst hn
    by_cases hmem : '\n' ∈ t
    · obtain ⟨line, rest, rfl, hline⟩ := List.eq_append_cons_of_mem hmem
      have hlt : rest.length < (line ++ '\n' :: rest).length := by
        simp only [List.length_append, List.length_cons]
        omega
      rw [lines_append_newline hline]
      exact .cons hline (ih _ hlt rest rfl)
    · by_cases hne : t = []
      · rw [hne, lines_nil]
        exact .nil
      · rw [lines_of_notMem hne hmem]
        exact .last hne hmem

theorem eq_lines_of_areLines {list : List Text} (h : AreLines t list) : list = lines t := by
  induction h with
  | nil => rw [lines_nil]
  | last hne h => rw [lines_of_notMem hne h]
  | cons h _ ih => rw [lines_append_newline h, ih]

/-- A text has its lines in one way only. -/
theorem areLines_iff {list : List Text} : AreLines t list ↔ list = lines t :=
  ⟨eq_lines_of_areLines, fun h => h ▸ areLines_lines t⟩

end Text

/-! ## The loop -/

namespace Prompt

variable {log : Log}

/-- Before each line the log is as if it had just been opened. -/
theorem turn_eq (h : log.echoes = true) (flags : Flags) (line : Text) :
    turn flags log line = Run.perform flags line (.empty true) := by
  have hreset : log.reset = .empty true := by rw [Log.reset, h]; rfl
  rw [turn, hreset]

theorem echoes_turn (h : log.echoes = true) (flags : Flags) (line : Text) :
    (turn flags log line).2.echoes = true := by
  rw [turn_eq h, Run.snd_perform]
  rfl

/-- What the run of a line prints when its log has just been opened. -/
def ownRun (flags : Flags) (line : Text) : Transcript := (Run.perform flags line (.empty true)).1

theorem perform_eq_flatMap (h : log.echoes = true) (flags : Flags) (input : Text) :
    perform flags log input
      = (Text.lines input).flatMap (fun line => invitation :: ownRun flags line)
        ++ [invitation, farewell] := by
  fun_induction perform flags log input with
  | case1 => rw [Text.lines_nil]; rfl
  | case2 log c rest line printed after hturn ih =>
    have hprinted : ownRun flags line.1 = printed := by rw [ownRun, ← turn_eq h, hturn]
    have hafter : after.echoes = true := by
      have hechoes := echoes_turn h flags line.1
      rwa [hturn] at hechoes
    rw [ih hafter, Text.lines_cons, List.flatMap_cons, hprinted, List.append_assoc]

/-- Called without a script, the command runs its input's lines by themselves, one after the other.
What is read, its line ends made one, has its lines in one way; the session prints, for each of
them, the invitation and then just what the run of that line with a log of its own prints, and at
the end the invitation and a line end. On the output these are the invitations and what the runs
put out, on the error output only what the runs report. The exit status is 0 whatever was
reported. -/
theorem prompt_runs_lines (flags : Flags) (input : Text) :
    ∃ lines outcome, (∀ list, Text.AreLines (Text.unifyNewlines input) list ↔ list = lines)
      ∧ (∀ args files, Invocation.ofArguments args = .ok ⟨false, flags, []⟩ →
          Command.run args files input = .ok outcome)
      ∧ outcome.transcript
        = lines.flatMap (fun line => invitation :: ownRun flags line) ++ [invitation, farewell]
      ∧ outcome.transcript.on .out
        = lines.flatMap (fun line => "ROX> ".toList ++ (ownRun flags line).on .out)
          ++ "ROX> \n".toList
      ∧ outcome.transcript.on .err = lines.flatMap (fun line => (ownRun flags line).on .err)
      ∧ outcome.status = 0 := by
  have hechoes : (Log.empty true).echoes = true := rfl
  have hperform := perform_eq_flatMap hechoes flags (Text.unifyNewlines input)
  refine ⟨_, Command.ofPrompt flags input, fun _ => Text.areLines_iff, fun args files hargs => ?_,
    hperform, ?_, ?_, rfl⟩
  · rw [Command.run, hargs]
    rfl
  · rw [Command.ofPrompt, hperform, Transcript.on_append, Transcript.on_flatMap]
    simp only [Transcript.on_cons]
    rfl
  · rw [Command.ofPrompt, hperform, Transcript.on_append, Transcript.on_flatMap]
    simp only [Transcript.on_cons]
    exact List.append_nil _

end Prompt

end LoxLexer
