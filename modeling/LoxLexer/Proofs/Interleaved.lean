/-
  Scanners and logs at work side by side do not disturb each other. Compared with a session that
  holds nothing but one of the scanners, and a log of its own (`alone`), a scanner gives the same
  answers whatever else is done in between (`answersTo_performAll`), stands at the same place, and
  gives its log in each step what it gives there to the log of its own (`performAll_interleaved`).
-/
import LoxLexer.Proofs.Performed

namespace LoxLexer

namespace Session

variable {s : Session} {i : Nat}

/-! ## One scanner by itself -/

/-- A session with a scanner at a place and a log of its own without entries, after requests. -/
def alone (echoes : Bool) (c : Cursor) (pulls : List Cursor.Pull) : Session × List Outcome :=
  performAll ⟨[.empty echoes], [⟨c, 0⟩]⟩ (pulls.map (.pull 0))

/-- The answers to what actions ask of one scanner. -/
def answersTo (i : Nat) :
    List Action → List Outcome → List (Except (List FieldError) (List Token))
  | .pull k _ :: actions, outcome :: outcomes =>
    if k = i then outcome.answer :: answersTo i actions outcomes else answersTo i actions outcomes
  | _ :: actions, _ :: outcomes => answersTo i actions outcomes
  | _, _ => []

/-- A scanner answers what is asked of it as it would answer by itself. -/
theorem answersTo_performAll {scanner : Scanner} (h : s.scanners[i]? = some scanner) (log : Log)
    (actions : List Action) :
    answersTo i actions (s.performAll actions).2
      = (performAll ⟨[log], [⟨scanner.cursor, 0⟩]⟩ ((pullsOf i actions).map (.pull 0))).2.map
          Outcome.answer := by
  induction actions generalizing s scanner log with
  | nil => rfl
  | cons a actions ih =>
    have hafter : (s.perform a).1.scanners[i]? = some (scanner.advance (pullsOf i [a])) := by
      rw [scanners_perform, h]
      rfl
    rw [snd_performAll_cons, pullsOf_cons i a actions]
    cases a with
    | pull k p =>
      by_cases hk : k = i
      · subst hk
        have hanswer : (s.perform (.pull k p)).2.answer
            = .ok (Scan.ofSteps (scanner.cursor.pull p)).tokens := (pull_of_some h p).2
        rw [pullsOf_pull_self, Scanner.advance_singleton] at hafter
        rw [pullsOf_pull_self, List.singleton_append, List.map_cons, snd_performAll_cons,
          perform_pull, List.map_cons, answersTo, if_pos rfl, hanswer, ih hafter]
      · rw [pullsOf_pull_ne hk] at hafter
        rw [pullsOf_pull_ne hk, List.nil_append, answersTo, if_neg hk, ih hafter]
        rfl
    | report | fault | reset => exact ih hafter log

theorem alone_eq (echoes : Bool) (c : Cursor) (pulls : List Cursor.Pull) :
    ∃ own, alone echoes c pulls
      = (⟨[⟨echoes, (Scan.ofSteps (c.pullAll pulls)).diagnostics⟩],
          [⟨c.after (c.pullAll pulls), 0⟩]⟩, own) := by
  obtain ⟨own, hrun, _⟩ := performAll_pulls (.empty echoes) c pulls
  exact ⟨own, hrun⟩

/-! ## Many scanners -/

/-- The session `after` and the outcomes are what the actions make of the session `s` when no
scanner and no log is disturbed by the others. A scanner stands and has answered as it would by
itself, and a request gives to its log what it gives to the log of the scanner by itself. A log
holds what the actions gave it since it was emptied last; if it was not, this comes behind what it
held. What is reported to a log is given to it just when the report is accepted, and a log is given
nothing by actions that do not concern it. A further action changes only the log that it concerns
and the scanner that it asks. -/
structure Interleaved (s : Session) (actions : List Action) (after : Session)
    (outcomes : List Outcome) : Prop where
  scanner_alone : ∀ i scanner echoes, s.scanners[i]? = some scanner → ∃ cursor entries own,
    alone echoes scanner.cursor (pullsOf i actions) = (⟨[⟨echoes, entries⟩], [⟨cursor, 0⟩]⟩, own)
      ∧ after.scanners[i]? = some ⟨cursor, scanner.log⟩
      ∧ answersTo i actions outcomes = own.map Outcome.answer
  given_alone : ∀ i scanner echoes past p, s.scanners[i]? = some scanner → ∃ entries,
    (alone echoes scanner.cursor (pullsOf i past)).1.logs = [⟨echoes, entries⟩]
      ∧ (alone echoes scanner.cursor (pullsOf i past ++ [p])).1.logs
        = [⟨echoes, entries ++ s.given scanner.log past (.pull i p)⟩]
  log_kept : ∀ j log, s.logs[j]? = some log → .reset j ∉ actions →
    after.logs[j]? = some ⟨log.echoes, log.entries ++ s.givenAll j [] actions⟩
  log_emptied : ∀ j log before later, s.logs[j]? = some log →
    actions = before ++ .reset j :: later → .reset j ∉ later →
    after.logs[j]? = some ⟨log.echoes, s.givenAll j (before ++ [.reset j]) later⟩
  report_given : ∀ j log d past, after.logs[j]? = some log →
    s.given j past (.report j d)
      = if (after.perform (.report j d)).2.answer = .ok [] then [d] else []
  fault_given : ∀ j log line f past, after.logs[j]? = some log →
    s.given j past (.fault j line f)
      = if (after.perform (.fault j line f)).2.answer = .ok [] then [.ofFault line f] else []
  none_given : ∀ j a past, s.logOf a ≠ some j → s.given j past a = []
  other_logs : ∀ j a, after.logOf a ≠ some j → (after.perform a).1.logs[j]? = after.logs[j]?
  other_scanners : ∀ i a, (∀ p, a ≠ .pull i p) →
    (after.perform a).1.scanners[i]? = after.scanners[i]?

theorem alone_concat {scanner : Scanner} (h : s.scanners[i]? = some scanner) (echoes : Bool)
    (past : List Action) (p : Cursor.Pull) :
    ∃ entries, (alone echoes scanner.cursor (pullsOf i past)).1.logs = [⟨echoes, entries⟩]
      ∧ (alone echoes scanner.cursor (pullsOf i past ++ [p])).1.logs
        = [⟨echoes, entries ++ s.given scanner.log past (.pull i p)⟩] := by
  obtain ⟨_, hpast⟩ := alone_eq echoes scanner.cursor (pullsOf i past)
  obtain ⟨_, hmore⟩ := alone_eq echoes scanner.cursor (pullsOf i past ++ [p])
  have hgiven : s.given scanner.log past (.pull i p)
      = (Scan.ofSteps (soloSteps scanner i past p)).diagnostics := by
    rw [given, h]
    exact if_pos rfl
  refine ⟨_, by rw [hpast], ?_⟩
  rw [hmore, Cursor.pullAll_append, Cursor.pullAll_singleton, Scan.diagnostics_ofSteps_append,
    hgiven]
  rfl

theorem interleaved_performAll (s : Session) (actions : List Action) :
    s.Interleaved actions (s.performAll actions).1 (s.performAll actions).2 where
  scanner_alone := by
    intro i scanner echoes h
    obtain ⟨own, hown⟩ := alone_eq echoes scanner.cursor (pullsOf i actions)
    refine ⟨_, _, own, hown, ?_, ?_⟩
    · rw [scanners_performAll, h]
      rfl
    · rw [answersTo_performAll h (.empty echoes)]
      exact congrArg (fun run => run.2.map Outcome.answer) hown
  given_alone := fun _ _ echoes past p h => alone_concat h echoes past p
  log_kept := by
    intro j log h hreset
    rw [← kept_of_notMem hreset, logs_performAll, h]
    rfl
  log_emptied := by
    intro j log before later h hactions hreset
    have hkept := kept_append_reset s j log.entries [] before later
    rw [kept_of_notMem hreset, List.nil_append, List.nil_append] at hkept
    rw [hactions, ← hkept, logs_performAll, h]
    rfl
  report_given := by
    intro j log d past h
    rw [given]
    simp only [answer_report_iff h, true_and]
  fault_given := by
    intro j log line f past h
    have hanswer := answer_report_iff h (.ofFault line f)
    rw [given]
    simp only [← hanswer, true_and]
    rfl
  none_given := fun _ _ past h => given_of_logOf_ne h past
  other_logs := fun _ _ h => logs_perform_of_ne h
  other_scanners := fun _ _ h => scanners_perform_of_ne h

/-- However actions on scanners and logs follow one another, they do not disturb each other. Among
named scanners, one that is opened without a log gets one that no other scanner reports to. -/
theorem performAll_interleaved (s : Session) (actions : List Action) :
    s.Interleaved actions (s.performAll actions).1 (s.performAll actions).2
      ∧ ∀ named name source, Named.Reached named → ∃ changed log,
          named.perform name (.openScanner source none) = some (changed, .done, [])
            ∧ changed.session.scanners = named.session.scanners ++ [⟨.ofText source, log⟩]
            ∧ changed.session.logs = named.session.logs ++ [.empty false]
            ∧ changed.session.logs[log]? = some (.empty false)
            ∧ ∀ scanner ∈ named.session.scanners, scanner.log ≠ log :=
  ⟨interleaved_performAll s actions,
    fun _ name source h => Named.perform_openScanner_none h name source⟩

/-- Two scanners share a log that is emptied between their steps; a report is refused. -/
example :
    (performAll
      ⟨[⟨false, [.ofFault 7 .unexpectedCharacter]⟩, .empty false],
        [⟨.ofText "@ a @".toList, 0⟩, ⟨.ofText "\n# b".toList, 0⟩]⟩
      [.pull 0 .next, .reset 0, .pull 1 .next, .fault 0 0 .unexpectedCharacter, .pull 0 .all,
        .fault 1 3 .unterminatedString]).1.logs
      = [⟨false, [.ofFault 2 .unexpectedCharacter, .ofFault 1 .unexpectedCharacter]⟩,
          ⟨false, [.ofFault 3 .unterminatedString]⟩] := by decide +kernel

end Session

end LoxLexer
