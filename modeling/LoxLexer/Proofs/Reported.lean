/-
  Logs that serve no scanner are told by the reports to them. An action that reports does so in one
  of two ways (`eq_of_reported?`), and its report is given to its log, or refused, whatever else has
  been done. So a log holds what was accepted for it behind its last reset (`kept_eq`), and what an
  action prints depends only on its report and on whether the log echoes (`written_perform`), which
  no action changes (`echoes_perform`): emptying a log takes nothing back that was printed. Both
  laws of a step are carried to all actions by induction and stand together in
  `performAll_reported`. They part where a line number has too many digits to be written out: an
  echoing log keeps the report, but fails to print it (`report_kept_unprinted`).
-/
import Mathlib.Data.List.DropRight
import LoxLexer.Proofs.Performed

namespace LoxLexer

namespace Session

variable {s : Session} {a : Action} {actions : List Action} {j : Nat} {d : Diagnostic}

/-! ## Since a log was emptied last -/

/-- What a log keeps is what it was given behind its last reset. -/
theorem kept_eq (s : Session) (j : Nat) (held : List Diagnostic) (actions : List Action) :
    s.kept j held [] actions
      = (if .reset j ∈ actions then [] else held)
        ++ s.givenAll j (actions.rdropWhile (· ≠ .reset j))
          (actions.rtakeWhile (· ≠ .reset j)) := by
  have hsplit : actions.rdropWhile (· ≠ .reset j) ++ actions.rtakeWhile (· ≠ .reset j) = actions :=
    List.rdropWhile_append_rtakeWhile
  have hbehind : .reset j ∉ actions.rtakeWhile (· ≠ .reset j) := by
    intro h
    simpa using List.mem_rtakeWhile_imp h
  have hlast := List.rdropWhile_last_not (fun a => decide (a ≠ .reset j)) actions
  generalize actions.rdropWhile (· ≠ .reset j) = before at *
  generalize actions.rtakeWhile (· ≠ .reset j) = behind at *
  subst hsplit
  -- what stands before is nothing, or ends with the last reset
  rcases List.eq_nil_or_concat' before with rfl | ⟨before, last, rfl⟩
  · rw [List.nil_append, if_neg hbehind, kept_of_notMem hbehind]
  · have hreset : last = .reset j := by simpa using hlast (by simp)
    subst hreset
    rw [List.append_assoc, List.singleton_append, kept_append_reset, kept_of_notMem hbehind,
      if_pos (by simp)]
    rfl

/-! ## Reports -/

/-- There are two ways to report. -/
theorem eq_of_reported? (h : a.reported? = some (j, d)) :
    a = .report j d ∨ ∃ line f, a = .fault j line f ∧ d = .ofFault line f := by
  cases a with
  | pull | reset => cases h
  | report k e =>
    obtain ⟨rfl, rfl⟩ := Prod.mk.inj (Option.some.inj h)
    exact Or.inl rfl
  | fault k line f =>
    obtain ⟨rfl, rfl⟩ := Prod.mk.inj (Option.some.inj h)
    exact Or.inr ⟨line, f, rfl, rfl⟩

theorem perform_of_reported? (h : a.reported? = some (j, d)) (s : Session) :
    s.perform a = s.report j d := by
  rcases eq_of_reported? h with rfl | ⟨line, f, rfl, rfl⟩ <;> rfl

theorem given_of_reported? (h : a.reported? = some (j, d)) (s : Session) (k : Nat)
    (past : List Action) : s.given k past a = if j = k ∧ d.Valid then [d] else [] := by
  rcases eq_of_reported? h with rfl | ⟨line, f, rfl, rfl⟩ <;> rfl

theorem accepted_of_reported? (h : a.reported? = some (j, d)) :
    accepted [a] = if d.Valid then [(j, d)] else [] := by
  by_cases hd : d.Valid
  · have hline : 1 ≤ d.line := hd
    simp [accepted, h, hd, hline]
  · have hline : ¬ 1 ≤ d.line := hd
    simp [accepted, h, hd, hline]

theorem accepted_of_none (h : a.reported? = none) : accepted [a] = [] := by
  simp [accepted, h]

/-! ## Without scanners -/

theorem accepted_cons (a : Action) (actions : List Action) :
    accepted (a :: actions) = accepted [a] ++ accepted actions := by
  rw [accepted, accepted, accepted, ← List.filter_append, ← List.filterMap_append]
  rfl

theorem acceptedFor_cons (j : Nat) (a : Action) (actions : List Action) :
    acceptedFor j (a :: actions) = acceptedFor j [a] ++ acceptedFor j actions := by
  rw [acceptedFor, accepted_cons, List.filter_append, List.map_append]
  rfl

theorem given_of_none (hs : s.scanners = []) (h : a.reported? = none) (j : Nat)
    (past : List Action) : s.given j past a = [] := by
  cases a with
  | pull i p =>
    rw [given, hs]
    rfl
  | report | fault => cases h
  | reset => rfl

/-- Without scanners, an action gives to a log what is accepted for it. -/
theorem given_eq_acceptedFor (hs : s.scanners = []) (j : Nat) (past : List Action) (a : Action) :
    s.given j past a = acceptedFor j [a] := by
  cases h : a.reported? with
  | none =>
    rw [given_of_none hs h, acceptedFor, accepted_of_none h]
    rfl
  | some r =>
    rw [given_of_reported? h, acceptedFor, accepted_of_reported? h]
    by_cases hk : r.1 = j <;> by_cases hd : r.2.Valid <;> simp [hk, hd]

theorem givenAll_eq_acceptedFor (hs : s.scanners = []) (j : Nat) (past actions : List Action) :
    s.givenAll j past actions = acceptedFor j actions := by
  induction actions generalizing past with
  | nil => rfl
  | cons a actions ih =>
    rw [givenAll, given_eq_acceptedFor hs, ih, ← acceptedFor_cons]

/-! ## What is printed -/

/-- A report that an echoing log has accepted is printed if it can be written out, and fails if it
cannot. -/
theorem reported_echo (log : Log) (d : Diagnostic) :
    Outcome.reported (log.echo d)
      = ⟨.ok [],
          if log.echoes = true ∧ Text.FewDigits d.line then [.line .err d.toText] else [],
          if log.echoes = true ∧ ¬ Text.FewDigits d.line then some .tooMany else none⟩ := by
  by_cases hfew : Text.FewDigits d.line
  · rw [Log.echo_of_fewDigits hfew]
    simp [Outcome.reported, Log.line, hfew]
  · rw [Log.echo_of_not_fewDigits hfew]
    cases log.echoes <;> simp [Outcome.reported, hfew]

/-- A report is printed if it is accepted, goes to an echoing log and can be written out. -/
theorem written_report (s : Session) (j : Nat) (d : Diagnostic) :
    (s.report j d).2.written
      = if d.Valid ∧ s.Echoes j ∧ Text.FewDigits d.line then [.line .err d.toText] else [] := by
  cases hlog : s.logs[j]? with
  | none =>
    have hechoes : ¬ s.Echoes j := by simp [Echoes, hlog]
    rw [report_of_none hlog, if_neg fun h => hechoes h.2.1]
    rfl
  | some log =>
    have hechoes : s.Echoes j ↔ log.echoes = true := by simp [Echoes, hlog]
    simp only [hechoes]
    by_cases hd : d.Valid
    · rw [report_of_valid hlog hd, reported_echo]
      simp [hd]
    · rw [report_of_not_valid hlog hd]
      simp [Outcome.refused, hd]

theorem printable_of_reported? (h : a.reported? = some (j, d)) (s : Session) :
    s.printable [a]
      = if d.Valid ∧ s.Echoes j ∧ Text.FewDigits d.line then [(j, d)] else [] := by
  rw [printable, accepted_of_reported? h]
  by_cases hd : d.Valid
  · simp [hd, List.filter_cons]
  · simp [hd]

/-- Without scanners, an action prints the report that it makes, if it can be printed. -/
theorem written_perform (hs : s.scanners = []) (a : Action) :
    (s.perform a).2.written = (s.printable [a]).map fun r => .line .err r.2.toText := by
  cases h : a.reported? with
  | none =>
    rw [printable, accepted_of_none h]
    cases a with
    | pull i p =>
      rw [perform, pull_of_none (by simp [hs])]
      rfl
    | report | fault => cases h
    | reset => rfl
  | some r =>
    rw [perform_of_reported? h, written_report, printable_of_reported? h]
    split <;> rfl

theorem echoes_perform (s : Session) (a : Action) (j : Nat) :
    (s.perform a).1.Echoes j ↔ s.Echoes j := by
  rw [Echoes, Echoes, logs_perform, Option.map_map]
  have hechoes : (Log.echoes ∘ fun log =>
      if a = .reset j then log.reset else log.recordAll (s.given j [] a)) = Log.echoes := by
    funext log
    rw [Function.comp_apply]
    split <;> rfl
  rw [hechoes]

theorem scanners_performAll_of_nil (hs : s.scanners = []) (actions : List Action) :
    (s.performAll actions).1.scanners = [] := by
  apply List.ext_getElem?
  intro i
  rw [scanners_performAll, hs]
  rfl

theorem printable_cons (s : Session) (a : Action) (actions : List Action) :
    s.printable (a :: actions) = s.printable [a] ++ s.printable actions := by
  rw [printable, accepted_cons, List.filter_append]
  rfl

theorem exists_fst_performAll (logs : List Log) (actions : List Action) :
    ∃ after, (performAll ⟨logs, []⟩ actions).1 = ⟨after, []⟩ :=
  ⟨_, congrArg (Session.mk _) (scanners_performAll_of_nil rfl actions)⟩

/-- Without scanners, actions print the reports that they make, as far as they can be printed. -/
theorem written_performAll (hs : s.scanners = []) (actions : List Action) :
    (s.performAll actions).2.flatMap Outcome.written
      = (s.printable actions).map fun r => .line .err r.2.toText := by
  induction actions generalizing s with
  | nil => rfl
  | cons a actions ih =>
    have hscanners : (s.perform a).1.scanners = [] := scanners_performAll_of_nil hs [a]
    -- which logs echo is as it was, so the later reports may be looked up in the session before
    have hprintable : (s.perform a).1.printable actions = s.printable actions := by
      simp only [printable, echoes_perform]
    rw [snd_performAll_cons, List.flatMap_cons, ih hscanners, hprintable, written_perform hs,
      ← List.map_append, ← printable_cons]

/-! ## One more report -/

/-- One more action adds its outcome to those before it. -/
theorem performAll_concat (s : Session) (actions : List Action) (a : Action) :
    s.performAll (actions ++ [a])
      = (((s.performAll actions).1.perform a).1,
          (s.performAll actions).2 ++ [((s.performAll actions).1.perform a).2]) :=
  Prod.ext (fst_performAll_append s actions [a]) (snd_performAll_append s actions [a])

namespace Named

variable {s : Named} {name : Text} {object : Object}

/-- A report that is asked for by its members is performed, and refused, as an action. -/
theorem perform_report (h : Reached s) (hobject : s.object? name = some object)
    (hlog : s.logNumber object = some j) (d : Diagnostic) :
    s.perform name (.report d.members) = some (s.act (.report j d) fun _ => .reported d) := by
  obtain ⟨log, hentry⟩ : ∃ log, s.session.logs[j]? = some log :=
    ⟨_, List.getElem?_eq_getElem ((sound_of_reached h).logNumber_lt hobject hlog)⟩
  simp only [perform, opened, hobject, hlog, Diagnostic.ofFields_members, Option.bind_eq_bind,
    Option.bind_some]
  by_cases hd : d.Valid
  · rw [Diagnostic.check_eq_ok_iff.mpr ⟨hd, rfl⟩]
  · rw [Diagnostic.check_of_not_valid hd, act, Session.perform, report_of_not_valid hentry hd]
    rfl

theorem perform_fault (hobject : s.object? name = some object)
    (hlog : s.logNumber object = some j) (line : Int) (f : Fault) :
    s.perform name (.fault (.integer line) f)
      = some (s.act (.fault j line f) fun _ => .reported (.ofFault line f)) := by
  simp only [perform, opened, hobject, hlog, Json.asInteger, Option.bind_eq_bind,
    Option.bind_some]

theorem perform_reset (hobject : s.object? name = some object)
    (hlog : s.logNumber object = some j) :
    s.perform name .reset = some (s.act (.reset j) fun _ => .done) := by
  simp only [perform, opened, hobject, hlog, Option.bind_eq_bind, Option.bind_some]

end Named

/-- Logs that serve no scanner are told by the reports to them. After any actions a log holds the
diagnostics accepted for it since it was emptied last, in order and as often as they came, behind
what it held if it was not emptied; it has an error when it holds anything. What has been printed is
all on the error output: the accepted reports to echoing logs, in order, each as its line in words
without control sequences, except those whose line number has more than 4300 digits. One more report
about a line below 1 is refused for its line and adds nothing but this answer; any other is
accepted, and if its log echoes it is then printed, or fails for having more than 4300 digits in its
line number. Reports that are asked for by name are answered as these actions are. -/
theorem performAll_reported (logs : List Log) (actions : List Action) :
    ∃ after outcomes, performAll ⟨logs, []⟩ actions = (⟨after, []⟩, outcomes)
      ∧ (∀ j : Nat, after[j]? = logs[j]?.map fun log =>
          { log with entries := (if .reset j ∈ actions then [] else log.entries)
              ++ acceptedFor j (actions.rtakeWhile (· ≠ .reset j)) })
      ∧ (∀ log ∈ after, log.hadError = true ↔ log.entries ≠ [])
      ∧ Transcript.on .err (outcomes.flatMap Outcome.written)
        = (printable ⟨logs, []⟩ actions).flatMap (fun r =>
            Text.stripControl ("[line ".toList ++ Text.ofInt r.2.line ++ "] Error".toList
              ++ r.2.place ++ ": ".toList ++ r.2.message) ++ ['\n'])
      ∧ Transcript.on .out (outcomes.flatMap Outcome.written) = []
      ∧ (∀ a j d log, a.reported? = some (j, d) → logs[j]? = some log →
          (d.line < 1 → performAll ⟨logs, []⟩ (actions ++ [a])
            = (⟨after, []⟩, outcomes ++ [⟨.error [⟨"line".toList, .belowOne⟩], [], none⟩]))
          ∧ (1 ≤ d.line → ∃ later, performAll ⟨logs, []⟩ (actions ++ [a])
            = (⟨later, []⟩, outcomes ++ [⟨.ok [],
                if log.echoes = true ∧ Text.FewDigits d.line then [.line .err d.toText] else [],
                if log.echoes = true ∧ ¬ Text.FewDigits d.line then some .tooMany else none⟩])))
      ∧ ∀ named name object j, Named.Reached named → named.object? name = some object →
          named.logNumber object = some j →
          (∀ d, named.perform name (.report d.members)
            = some (named.act (.report j d) fun _ => .reported d))
          ∧ (∀ line f, named.perform name (.fault (.integer line) f)
            = some (named.act (.fault j line f) fun _ => .reported (.ofFault line f)))
          ∧ named.perform name .reset = some (named.act (.reset j) fun _ => .done) := by
  obtain ⟨after, hafter⟩ := exists_fst_performAll logs actions
  have hlogs : ∀ j : Nat, after[j]? = logs[j]?.map fun log =>
      { log with entries := (if .reset j ∈ actions then [] else log.entries)
          ++ acceptedFor j (actions.rtakeWhile (· ≠ .reset j)) } := by
    intro j
    have hkept := logs_performAll ⟨logs, []⟩ actions j
    simpa only [hafter, kept_eq, givenAll_eq_acceptedFor (s := ⟨logs, []⟩) rfl] using hkept
  have hwritten : (performAll ⟨logs, []⟩ actions).2.flatMap Outcome.written
      = (printable ⟨logs, []⟩ actions).map fun r => .line .err r.2.toText :=
    written_performAll rfl actions
  refine ⟨after, _, Prod.ext hafter rfl, hlogs, fun log _ => log.hadError_iff, ?_, ?_, ?_, ?_⟩
  · rw [hwritten, Transcript.on_map_line, if_pos rfl]
    rfl
  · rw [hwritten, Transcript.on_map_line, if_neg (by decide)]
  · intro a j d log ha hj
    have hlog := hlogs j
    rw [hj, Option.map_some] at hlog
    rw [performAll_concat, hafter, perform_of_reported? ha]
    refine ⟨fun hline => ?_, fun hline => ?_⟩
    · rw [report_of_not_valid hlog (Int.not_le.mpr hline)]
      rfl
    · rw [report_of_valid hlog hline, reported_echo]
      exact ⟨_, rfl⟩
  · intro named name object j hreached hobject hnumber
    exact ⟨Named.perform_report hreached hobject hnumber, Named.perform_fault hobject hnumber,
      Named.perform_reset hobject hnumber⟩

/-- An echoing log keeps a report that it cannot print. -/
theorem performAll_of_not_fewDigits (hd : d.Valid) (hmany : ¬ Text.FewDigits d.line) :
    performAll ⟨[.empty true], []⟩ [.report 0 d]
      = (⟨[⟨true, [d]⟩], []⟩, [⟨.ok [], [], some .tooMany⟩]) := by
  rw [performAll, perform, report_of_valid rfl hd, Log.echo_of_not_fewDigits hmany]
  rfl

/-- The report of a line whose number has one digit too many is accepted and kept, but the line that
says so is not printed. -/
theorem report_kept_unprinted :
    let d : Diagnostic := ⟨Text.leastUnwritten, [], "x".toList, none⟩
    let run := performAll ⟨[.empty true], []⟩ [.report 0 d]
    d.Valid ∧ run.1.logs = [⟨true, [d]⟩] ∧ run.2 = [⟨.ok [], [], some .tooMany⟩]
      ∧ Transcript.on .err (run.2.flatMap Outcome.written)
        ≠ Text.stripControl d.toText ++ ['\n'] := by
  intro d run
  have hvalid : d.Valid := Int.ofNat_le.mpr Text.leastUnwritten_pos
  have hmany : ¬ Text.FewDigits d.line := Text.not_fewDigits_leastUnwritten
  have hrun : run = (⟨[⟨true, [d]⟩], []⟩, [⟨.ok [], [], some .tooMany⟩]) :=
    performAll_of_not_fewDigits hvalid hmany
  rw [hrun]
  exact ⟨hvalid, rfl, rfl, (List.concat_ne_nil _ _).symm⟩

/-- A report is refused, and a log is emptied behind what it printed. -/
example :
    let run := performAll ⟨[.empty true, .empty false], []⟩
      [.report 0 ⟨3, " at end".toList, "Odd.".toList, none⟩, .fault 0 0 .unterminatedString,
        .fault 1 (-1) .unexpectedCharacter, .reset 0, .fault 1 7 .unterminatedString,
        .fault 0 2 .unexpectedCharacter]
    run.1.logs
        = [⟨true, [.ofFault 2 .unexpectedCharacter]⟩, ⟨false, [.ofFault 7 .unterminatedString]⟩]
      ∧ Transcript.on .err (run.2.flatMap Outcome.written)
        = "[line 3] Error at end: Odd.\n[line 2] Error: Unexpected character.\n".toList := by
  decide +kernel

end Session

end LoxLexer
