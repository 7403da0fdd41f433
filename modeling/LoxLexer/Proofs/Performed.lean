/-
  What actions do to the scanners and logs of a session. One action is told once: it moves on the
  scanner that it asks (`scanners_perform`), empties a log or gives it something
  (`logs_perform`), and leaves everything else alone. By induction over the actions a scanner is
  moved on by its own requests (`scanners_performAll`), and a log holds what it was given since it
  was emptied last (`logs_performAll`, `kept_append_reset`). Among named scanners, one that is
  opened without a log has a log that no other scanner reports to (`perform_openScanner_none`).
-/
import LoxLexer.Proofs.Lazy
import LoxLexer.Session.History

namespace LoxLexer

/-! ## Requests to one scanner -/

namespace Cursor

theorem pullAll_append (c : Cursor) (ps qs : List Pull) :
    c.pullAll (ps ++ qs) = c.pullAll ps ++ (c.after (c.pullAll ps)).pullAll qs := by
  induction ps generalizing c with
  | nil => rfl
  | cons p ps ih => rw [List.cons_append, pullAll, pullAll, ih, after_append, List.append_assoc]

theorem pullAll_singleton (c : Cursor) (p : Pull) : c.pullAll [p] = c.pull p := by
  rw [pullAll, pullAll, List.append_nil]

end Cursor

/-- The scanner after requests. -/
def Scanner.advance (scanner : Scanner) (pulls : List Cursor.Pull) : Scanner :=
  { scanner with cursor := scanner.cursor.after (scanner.cursor.pullAll pulls) }

theorem Scanner.advance_nil (scanner : Scanner) : scanner.advance [] = scanner := rfl

theorem Scanner.advance_append (scanner : Scanner) (ps qs : List Cursor.Pull) :
    scanner.advance (ps ++ qs) = (scanner.advance ps).advance qs := by
  simp only [advance, Cursor.pullAll_append, Cursor.after_append]

theorem Scanner.advance_singleton (scanner : Scanner) (p : Cursor.Pull) :
    scanner.advance [p]
      = { scanner with cursor := scanner.cursor.after (scanner.cursor.pull p) } := by
  rw [advance, Cursor.pullAll_singleton]

namespace Session

variable {s : Session} {i j : Nat}

theorem pullsOf_cons (i : Nat) (a : Action) (actions : List Action) :
    pullsOf i (a :: actions) = pullsOf i [a] ++ pullsOf i actions :=
  List.filterMap_append (l := [a])

theorem pullsOf_pull_self (i : Nat) (p : Cursor.Pull) : pullsOf i [.pull i p] = [p] := by
  simp [pullsOf]

theorem pullsOf_pull_ne {k : Nat} (h : k ≠ i) (p : Cursor.Pull) : pullsOf i [.pull k p] = [] := by
  simp [pullsOf, h]

theorem pullsOf_of_forall_ne {a : Action} (h : ∀ p, a ≠ .pull i p) : pullsOf i [a] = [] := by
  cases a with
  | pull k p => exact pullsOf_pull_ne (fun hk => h p (by rw [hk])) p
  | report | fault | reset => rfl

/-! ## What an action does -/

theorem scanners_report (s : Session) (j : Nat) (d : Diagnostic) :
    (s.report j d).1.scanners = s.scanners := by
  unfold report
  split
  · rfl
  · split <;> rfl

/-- An action moves a scanner on by what it asks of it. -/
theorem scanners_perform (s : Session) (a : Action) (i : Nat) :
    (s.perform a).1.scanners[i]? = s.scanners[i]?.map (·.advance (pullsOf i [a])) := by
  cases a with
  | pull k p =>
    rw [perform]
    cases hscanner : s.scanners[k]? with
    | none =>
      rw [pull_of_none hscanner]
      by_cases hk : k = i
      · rw [← hk, hscanner]
        rfl
      · simp [pullsOf_pull_ne hk, Scanner.advance_nil]
    | some scanner =>
      rw [(pull_of_some hscanner p).1]
      by_cases hk : k = i
      · have hlt : k < s.scanners.length := (List.getElem?_eq_some_iff.mp hscanner).1
        rw [← hk, hscanner, pullsOf_pull_self, List.getElem?_set_self hlt, Option.map_some,
          Scanner.advance_singleton]
      · simp [pullsOf_pull_ne hk, List.getElem?_set_ne hk, Scanner.advance_nil]
  | report | fault =>
    rw [perform, scanners_report]
    simp [pullsOf, Scanner.advance_nil]
  | reset => simp [perform, pullsOf, Scanner.advance_nil]

theorem logs_report (s : Session) (k j : Nat) (d : Diagnostic) :
    (s.report k d).1.logs[j]?
      = s.logs[j]?.map (·.recordAll (if k = j ∧ d.Valid then [d] else [])) := by
  cases hlog : s.logs[k]? with
  | none =>
    rw [report_of_none hlog]
    by_cases hk : k = j
    · rw [← hk, hlog]
      rfl
    · simp [hk, Log.recordAll_nil]
  | some log =>
    by_cases hd : d.Valid
    · rw [report_of_valid hlog hd]
      by_cases hk : k = j
      · have hlt : k < s.logs.length := (List.getElem?_eq_some_iff.mp hlog).1
        rw [← hk, hlog, List.getElem?_set_self hlt, Option.map_some, if_pos ⟨rfl, hd⟩,
          Log.recordAll_cons, Log.recordAll_nil]
      · simp [hk, List.getElem?_set_ne hk, Log.recordAll_nil]
    · rw [report_of_not_valid hlog hd]
      simp [hd, Log.recordAll_nil]

/-- A log is emptied, or it records what the action gives to it. -/
theorem logs_perform (s : Session) (a : Action) (j : Nat) :
    (s.perform a).1.logs[j]? = s.logs[j]?.map fun log =>
      if a = .reset j then log.reset else log.recordAll (s.given j [] a) := by
  cases a with
  | pull k p =>
    rw [perform, given]
    cases hscanner : s.scanners[k]? with
    | none =>
      rw [pull_of_none hscanner]
      simp [Log.recordAll_nil]
    | some scanner =>
      have hsteps : soloSteps scanner k [] p = scanner.cursor.pull p := rfl
      rw [(pull_of_some hscanner p).1, List.getElem?_modify]
      by_cases hj : scanner.log = j
      · simp [hj, hsteps, Scan.ofSteps]
      · simp [hj, Log.recordAll_nil]
  | report | fault => simp [perform, logs_report, given]
  | reset k =>
    rw [perform, List.getElem?_modify]
    by_cases hk : k = j
    · simp [hk]
    · simp [hk, given, Log.recordAll_nil]

/-- An action gives nothing to a log that it does not concern. -/
theorem given_of_logOf_ne {a : Action} (h : s.logOf a ≠ some j) (past : List Action) :
    s.given j past a = [] := by
  cases a with
  | pull k p =>
    rw [logOf] at h
    rw [given]
    cases hscanner : s.scanners[k]? with
    | none => rfl
    | some scanner =>
      have hj : scanner.log ≠ j := fun hj => h (by rw [hscanner, ← hj]; rfl)
      exact if_neg hj
  | report k | fault k =>
    have hk : k ≠ j := fun hk => h (by rw [logOf, hk])
    exact if_neg fun hgiven => hk hgiven.1
  | reset k => rfl

/-- Only the log that an action concerns may change. -/
theorem logs_perform_of_ne {a : Action} (h : s.logOf a ≠ some j) :
    (s.perform a).1.logs[j]? = s.logs[j]? := by
  have hreset : a ≠ .reset j := fun ha => h (by rw [ha, logOf])
  simp [logs_perform, hreset, given_of_logOf_ne h, Log.recordAll_nil]

/-- Only the scanner that is asked for tokens may change. -/
theorem scanners_perform_of_ne {a : Action} (h : ∀ p, a ≠ .pull i p) :
    (s.perform a).1.scanners[i]? = s.scanners[i]? := by
  simp [scanners_perform, pullsOf_of_forall_ne h, Scanner.advance_nil]

/-- A report to a log is accepted just when its diagnostic is valid. -/
theorem answer_report_iff {log : Log} (h : s.logs[j]? = some log) (d : Diagnostic) :
    (s.perform (.report j d)).2.answer = .ok [] ↔ d.Valid := by
  rw [perform]
  by_cases hd : d.Valid
  · rw [report_of_valid h hd, Outcome.answer_reported]
    simp [hd]
  · rw [report_of_not_valid h hd]
    simp [hd, Outcome.refused]

theorem length_logs_openLog (s : Session) (echoes : Bool) :
    (s.openLog echoes).1.logs.length = s.logs.length + 1 :=
  List.length_append

theorem length_logs_perform (s : Session) (a : Action) :
    (s.perform a).1.logs.length = s.logs.length := by
  cases a with
  | pull i p =>
    rw [perform]
    cases hscanner : s.scanners[i]? with
    | none => rw [pull_of_none hscanner]
    | some scanner => rw [(pull_of_some hscanner p).1, List.length_modify]
  | report | fault =>
    rw [perform, report]
    split
    · rfl
    · split
      · rfl
      · exact List.length_set
  | reset i => rw [perform, List.length_modify]

theorem exists_scanner_of_perform {s : Session} {a : Action} {scanner : Scanner}
    (h : scanner ∈ (s.perform a).1.scanners) : ∃ before ∈ s.scanners, scanner.log = before.log := by
  obtain ⟨i, hi⟩ := List.mem_iff_getElem?.mp h
  rw [scanners_perform] at hi
  obtain ⟨before, hbefore, rfl⟩ := Option.map_eq_some_iff.mp hi
  exact ⟨before, List.mem_iff_getElem?.mpr ⟨i, hbefore⟩, rfl⟩

/-! ## What many actions do -/

theorem fst_performAll_cons (s : Session) (a : Action) (actions : List Action) :
    (s.performAll (a :: actions)).1 = ((s.perform a).1.performAll actions).1 := rfl

theorem snd_performAll_cons (s : Session) (a : Action) (actions : List Action) :
    (s.performAll (a :: actions)).2
      = (s.perform a).2 :: ((s.perform a).1.performAll actions).2 := rfl

theorem fst_performAll_append (s : Session) (past actions : List Action) :
    (s.performAll (past ++ actions)).1 = ((s.performAll past).1.performAll actions).1 := by
  induction past generalizing s with
  | nil => rfl
  | cons a past ih => rw [List.cons_append, fst_performAll_cons, fst_performAll_cons, ih]

theorem snd_performAll_append (s : Session) (past actions : List Action) :
    (s.performAll (past ++ actions)).2
      = (s.performAll past).2 ++ ((s.performAll past).1.performAll actions).2 := by
  induction past generalizing s with
  | nil => rfl
  | cons a past ih =>
    rw [List.cons_append, snd_performAll_cons, snd_performAll_cons, fst_performAll_cons, ih,
      List.cons_append]

/-- Actions move a scanner on by what they ask of it. -/
theorem scanners_performAll (s : Session) (actions : List Action) (i : Nat) :
    (s.performAll actions).1.scanners[i]?
      = s.scanners[i]?.map (·.advance (pullsOf i actions)) := by
  induction actions generalizing s with
  | nil => simp [performAll, pullsOf, Scanner.advance_nil]
  | cons a actions ih =>
    rw [fst_performAll_cons, ih, scanners_perform, pullsOf_cons i a actions, Option.map_map]
    congr 1
    funext scanner
    exact (scanner.advance_append _ _).symm

/-- What an action gives to a log after earlier actions may be read off the session as it was
before them. -/
theorem given_performAll (s : Session) (j : Nat) (past : List Action) (a : Action) :
    (s.performAll past).1.given j [] a = s.given j past a := by
  cases a with
  | pull k p =>
    rw [given, given, scanners_performAll]
    cases s.scanners[k]? with
    | none => rfl
    | some scanner => rfl
  | report | fault | reset => rfl

theorem kept_of_notMem {actions : List Action} (h : .reset j ∉ actions) (held : List Diagnostic)
    (past : List Action) :
    s.kept j held past actions = held ++ s.givenAll j past actions := by
  induction actions generalizing held past with
  | nil => exact (List.append_nil held).symm
  | cons a actions ih =>
    rw [List.mem_cons, not_or] at h
    rw [kept, if_neg (Ne.symm h.1), ih h.2, givenAll, List.append_assoc]

/-- Whatever was in a log before it was emptied is gone. -/
theorem kept_append_reset (s : Session) (j : Nat) (held : List Diagnostic)
    (past before later : List Action) :
    s.kept j held past (before ++ .reset j :: later)
      = s.kept j [] (past ++ (before ++ [.reset j])) later := by
  induction before generalizing held past with
  | nil => rw [List.nil_append, kept, if_pos rfl, List.nil_append]
  | cons a before ih =>
    rw [List.cons_append, kept, ih, ih, ite_self]
    simp

theorem logs_performAll_append (s : Session) (past actions : List Action) (j : Nat) :
    ((s.performAll past).1.performAll actions).1.logs[j]?
      = (s.performAll past).1.logs[j]?.map fun log =>
          { log with entries := s.kept j log.entries past actions } := by
  induction actions generalizing past with
  | nil => simp [performAll, kept]
  | cons a actions ih =>
    have hpast : ((s.performAll past).1.perform a).1 = (s.performAll (past ++ [a])).1 :=
      (fst_performAll_append s past [a]).symm
    rw [fst_performAll_cons, hpast, ih, ← hpast, logs_perform, given_performAll, Option.map_map]
    congr 1
    funext log
    by_cases hreset : a = .reset j
    · simp [kept, hreset, Log.reset]
    · simp [kept, hreset, Log.recordAll]

/-- A log keeps what it is given, from when it was emptied last. -/
theorem logs_performAll (s : Session) (actions : List Action) (j : Nat) :
    (s.performAll actions).1.logs[j]?
      = s.logs[j]?.map fun log => { log with entries := s.kept j log.entries [] actions } :=
  logs_performAll_append s [] actions j

/-! ## Logs of named scanners -/

namespace Named

variable {s after : Named} {name : Text} {request : Request} {reply : Reply}
  {written : Transcript}

/-- A request opens an object, changes nothing, or performs an action. -/
theorem perform_cases (h : s.perform name request = some (after, reply, written)) :
    s.opened name request = some after ∨ after = s
      ∨ ∃ action, after = { s with session := (s.session.perform action).1 } := by
  have hact : ∀ action make, some (s.act action make) = some (after, reply, written) →
      ∃ action, after = { s with session := (s.session.perform action).1 } := by
    intro action make hmake
    exact ⟨action, (congrArg Prod.fst (Option.some.inj hmake)).symm⟩
  have hsame : ∀ other, some (s, other) = some (after, reply, written) → after = s := by
    intro other hother
    exact (congrArg Prod.fst (Option.some.inj hother)).symm
  unfold perform at h
  split at h
  · rename_i hopened
    cases h
    exact Or.inl hopened
  · obtain ⟨object, _, h⟩ := Option.bind_eq_some_iff.mp h
    obtain ⟨log, _, h⟩ := Option.bind_eq_some_iff.mp h
    right
    -- the requests to an object, in the order in which they are told apart
    split at h
    · exact Or.inr (hact _ _ h)
    · exact Or.inr (hact _ _ h)
    · obtain ⟨v, _, h⟩ := Option.bind_eq_some_iff.mp h
      exact Or.inl (hsame _ h)
    · split at h
      · exact Or.inr (hact _ _ h)
      · exact Or.inl (hsame _ h)
    · split at h
      · exact Or.inr (hact _ _ h)
      · exact Or.inl (hsame _ h)
    · exact Or.inr (hact _ _ h)
    · obtain ⟨v, _, h⟩ := Option.bind_eq_some_iff.mp h
      exact Or.inl (hsame _ h)
    · cases h

/-- The sessions that requests lead to. -/
inductive Reached : Named → Prop
  | empty : Reached empty
  | perform {s after : Named} {name : Text} {request : Request} {reply : Reply}
      {written : Transcript} (h : Reached s)
      (hperform : s.perform name request = some (after, reply, written)) : Reached after

/-- The logs that scanners report to and that names mean have been opened. -/
structure Sound (s : Named) : Prop where
  of_scanner : ∀ scanner ∈ s.session.scanners, scanner.log < s.session.logs.length
  of_name : ∀ name i, s.object? name = some (.log i) → i < s.session.logs.length

theorem object?_bind (s : Named) (name other : Text) (session : Session) (object : Object) :
    (s.bind name session object).object? other
      = if other = name then some object else s.object? other := by
  rw [object?, bind, List.lookup_cons]
  by_cases h : other = name
  · simp [h]
  · simp only [beq_false_of_ne h, if_neg h]
    rfl

namespace Sound

theorem logNumber_lt {object : Object} {i : Nat} (h : s.Sound)
    (hobject : s.object? name = some object) (hlog : s.logNumber object = some i) :
    i < s.session.logs.length := by
  cases object with
  | log j =>
    obtain rfl := Option.some.inj hlog
    exact h.of_name name j hobject
  | scanner j =>
    obtain ⟨scanner, hscanner, rfl⟩ := Option.map_eq_some_iff.mp hlog
    exact h.of_scanner scanner (List.mem_iff_getElem?.mpr ⟨j, hscanner⟩)

theorem openLog (h : s.Sound) (echoes : Bool) : Sound ⟨(s.session.openLog echoes).1, s.names⟩ where
  of_scanner := by
    intro scanner hscanner
    rw [length_logs_openLog]
    exact Nat.lt_succ_of_lt (h.of_scanner scanner hscanner)
  of_name := by
    intro name i hi
    rw [length_logs_openLog]
    exact Nat.lt_succ_of_lt (h.of_name name i hi)

theorem openScanner (h : s.Sound) (source : Text) {log : Nat} (hlog : log < s.session.logs.length) :
    Sound ⟨(s.session.openScanner source log).1, s.names⟩ where
  of_scanner := by
    intro scanner hscanner
    rcases List.mem_append.mp hscanner with hold | hnew
    · exact h.of_scanner scanner hold
    · obtain rfl := List.mem_singleton.mp hnew
      exact hlog
  of_name := h.of_name

theorem bind (h : s.Sound) (name : Text) {object : Object}
    (hobject : ∀ i, object = .log i → i < s.session.logs.length) :
    Sound (s.bind name s.session object) where
  of_scanner := h.of_scanner
  of_name := by
    intro other i hi
    rw [object?_bind] at hi
    split at hi
    · exact hobject i (Option.some.inj hi)
    · exact h.of_name other i hi

theorem opened (h : s.Sound) (hopened : s.opened name request = some after) : after.Sound := by
  unfold Named.opened at hopened
  split at hopened
  · rename_i echoes
    obtain rfl := Option.some.inj hopened
    refine (h.openLog echoes).bind name fun i hi => ?_
    obtain rfl := Object.log.inj hi
    rw [length_logs_openLog]
    exact Nat.lt_succ_self _
  · rename_i source
    obtain rfl := Option.some.inj hopened
    have hlog : s.session.logs.length < (s.session.openLog false).1.logs.length := by
      rw [length_logs_openLog]
      exact Nat.lt_succ_self _
    exact ((h.openLog false).openScanner source hlog).bind name fun i hi => by cases hi
  · rename_i source logName
    obtain ⟨object, hobject, hrest⟩ := Option.bind_eq_some_iff.mp hopened
    obtain ⟨log, hlog, hrest⟩ := Option.bind_eq_some_iff.mp hrest
    obtain rfl := Option.some.inj hrest
    exact (h.openScanner source (h.logNumber_lt hobject hlog)).bind name fun i hi => by cases hi
  · cases hopened

theorem act (h : s.Sound) (action : Action) :
    Sound { s with session := (s.session.perform action).1 } where
  of_scanner := by
    intro scanner hscanner
    obtain ⟨before, hbefore, hlog⟩ := exists_scanner_of_perform hscanner
    rw [hlog, length_logs_perform]
    exact h.of_scanner before hbefore
  of_name := by
    intro name i hi
    rw [length_logs_perform]
    exact h.of_name name i hi

end Sound

theorem sound_of_reached (h : Reached s) : s.Sound := by
  induction h with
  | empty => exact ⟨fun _ h => absurd h List.not_mem_nil, fun _ _ h => by cases h⟩
  | perform _ hperform ih =>
    rcases perform_cases hperform with hopened | rfl | ⟨action, rfl⟩
    · exact ih.opened hopened
    · exact ih
    · exact ih.act action

/-- A scanner opened without a log gets one without entries that no other scanner reports to. -/
theorem perform_openScanner_none (h : Reached s) (name source : Text) :
    ∃ after log, s.perform name (.openScanner source none) = some (after, .done, [])
      ∧ after.session.scanners = s.session.scanners ++ [⟨.ofText source, log⟩]
      ∧ after.session.logs = s.session.logs ++ [.empty false]
      ∧ after.session.logs[log]? = some (.empty false)
      ∧ ∀ scanner ∈ s.session.scanners, scanner.log ≠ log := by
  refine ⟨_, s.session.logs.length, rfl, rfl, rfl, ?_, fun scanner hscanner => ?_⟩
  · exact List.getElem?_concat_length
  · exact Nat.ne_of_lt ((sound_of_reached h).of_scanner scanner hscanner)

end Named

end Session

end LoxLexer
