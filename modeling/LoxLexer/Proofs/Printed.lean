/-
  What a run prints, and on which stream. The diagnostics that a scan reports hold no control
  sequences (`stripControl_toText_ofFault`), so they are printed as they are; each comes behind the
  line that announces it, the line that sums up the scan behind all of them, and the tokens last
  (`fst_perform`). So the flags of a script's run change neither its exit status nor, but for the
  one that chooses the form of the tokens, its output (`script_presented`).
-/
import LoxLexer.Command
import LoxLexer.Proofs.Passed

namespace LoxLexer

/-! ## Reported faults -/

theorem Placed.exists_fault_of_diagnostic? {p : Placed} {d : Diagnostic}
    (h : p.diagnostic? = some d) : ∃ (line : Nat) (f : Fault), d = .ofFault line f := by
  unfold diagnostic? at h
  split at h
  · exact ⟨_, _, (Option.some.inj h).symm⟩
  · exact ⟨_, _, (Option.some.inj h).symm⟩
  · cases h

/-- All that a scan reports are faults. -/
theorem exists_fault_of_mem_scan {source : Text} {d : Diagnostic}
    (h : d ∈ (scan source).diagnostics) : ∃ (line : Nat) (f : Fault), d = .ofFault line f := by
  rw [scan_diagnostics] at h
  obtain ⟨p, _, hp⟩ := List.mem_filterMap.mp h
  exact Placed.exists_fault_of_diagnostic? hp

theorem Text.escape_notMem_ofInt (n : Int) : '\x1b' ∉ Text.ofInt n :=
  Text.notMem_ofInt (by decide) (by decide) n

theorem Fault.escape_notMem_message (f : Fault) : '\x1b' ∉ f.message := by
  cases f <;> decide

/-- The report of a fault is printed as it is. -/
theorem Diagnostic.stripControl_toText_ofFault (line : Nat) (f : Fault) :
    Text.stripControl (ofFault line f).toText = (ofFault line f).toText := by
  apply Text.stripControl_eq_self
  have hline := Text.escape_notMem_ofInt line
  have hmessage := f.escape_notMem_message
  unfold toText ofFault
  simp [hline, hmessage]

/-! ## The end of a scan -/

/-- Behind all steps stands the end of the text. -/
theorem Cursor.line_after_drain (source : Text) :
    ((ofText source).after (ofText source).drain).line = 1 + Text.newlines source := by
  obtain ⟨more, hreached⟩ := reached_pull .all (reached_ofText source)
  simp only [List.nil_append, pull] at hreached
  obtain ⟨htokens, _⟩ := ofSteps_drain_of_reached hreached
  have hnone := List.append_right_eq_self.mp htokens
  cases hf : ((ofText source).after (ofText source).drain).finished with
  | false =>
    rw [ofSteps_drain_of_passed hreached.toPassed hf] at hnone
    simp at hnone
  | true =>
    rw [hreached.line_eq, (passed_eq_of_finished hreached.toPassed hf).1, Item.textOf_items]

namespace Run

/-! ## Pieces in their order -/

variable {flags : Flags} {source : Text} {log : Log}

/-- What is printed of a diagnostic. -/
def notice (flags : Flags) (log : Log) (d : Diagnostic) : Transcript :=
  (if flags.verbose then [announcement d] else []) ++ log.line d

theorem fst_reports (flags : Flags) (log : Log) (ds : List Diagnostic) :
    (reports flags log ds).1 = ds.flatMap (notice flags log) := by
  induction ds generalizing log with
  | nil => rfl
  | cons d ds ih =>
    rw [List.flatMap_cons, ← show notice flags (log.record d) = notice flags log from rfl, ← ih]
    rfl

/-- The line that sums up a scan, if there is to be one. -/
def closing (flags : Flags) (log : Log) (source : Text) : Transcript :=
  if flags.verbose then
    [summary (scan source).tokens.length (1 + Text.newlines source)
      (log.recordAll (scan source).diagnostics).entries.length]
  else []

/-- A run prints what it reports, then the line that sums up the scan, then the tokens. -/
theorem fst_perform (flags : Flags) (source : Text) (log : Log) :
    (perform flags source log).1 = (scan source).diagnostics.flatMap (notice flags log)
      ++ closing flags log source ++ listing flags (scan source).tokens := by
  have hlength : (Cursor.ofText source).drain.length = (scan source).tokens.length :=
    (List.length_map _).symm
  rw [closing, ← fst_reports, ← Cursor.line_after_drain, ← hlength, ← snd_reports flags]
  rfl

/-! ## Streams -/

theorem stream_line {d : Diagnostic} {w : Write} (h : w ∈ log.line d) : w.stream = .err := by
  unfold Log.line at h
  split at h
  · rw [List.mem_singleton.mp h]
    rfl
  · cases h

theorem stream_notice {d : Diagnostic} {w : Write} (h : w ∈ notice flags log d) :
    w.stream = .err := by
  rcases List.mem_append.mp h with h | h
  · split at h
    · rw [List.mem_singleton.mp h]
      rfl
    · cases h
  · exact stream_line h

theorem stream_closing {w : Write} (h : w ∈ closing flags log source) : w.stream = .err := by
  unfold closing at h
  split at h
  · rw [List.mem_singleton.mp h]
    rfl
  · cases h

theorem stream_listing {tokens : List Token} {w : Write} (h : w ∈ listing flags tokens) :
    w.stream = .out := by
  unfold listing at h
  split at h
  · rw [List.mem_singleton.mp h]
    rfl
  · obtain ⟨t, _, rfl⟩ := List.mem_map.mp h
    rfl

/-- The text in which tokens are put out. -/
def listed (dump : Bool) (tokens : List Token) : Text :=
  if dump then Text.stripControl (Json.list (tokens.map Token.toJson)).indented ++ ['\n']
  else tokens.flatMap fun t => Text.stripControl t.toText ++ ['\n']

theorem text_listing (flags : Flags) (tokens : List Token) :
    Transcript.text (listing flags tokens) = listed flags.dump tokens := by
  unfold listing listed
  split
  · exact Transcript.text_singleton _
  · exact List.flatMap_map ..

/-- A run puts out the tokens of its text and nothing else. -/
theorem on_out_perform (flags : Flags) (source : Text) (log : Log) :
    (perform flags source log).1.on .out = listed flags.dump (scan source).tokens := by
  have herr : ∀ w ∈ (scan source).diagnostics.flatMap (notice flags log)
      ++ closing flags log source, w.stream ≠ .out := by
    intro w hw
    rcases List.mem_append.mp hw with hw | hw
    · obtain ⟨d, _, hd⟩ := List.mem_flatMap.mp hw
      simp [stream_notice hd]
    · simp [stream_closing hw]
  rw [fst_perform, Transcript.on_append, Transcript.on_eq_nil herr, List.nil_append,
    Transcript.on_eq_text fun _ => stream_listing, text_listing]

/-- What the report of a fault reads on the error output. -/
theorem on_err_notice (h : log.echoes = true) (line : Nat) (f : Fault) :
    Transcript.on .err (notice flags log (.ofFault line f))
      = (if flags.verbose then
          "DEBUG rox.scanner: line ".toList ++ Text.ofInt line ++ ": ".toList ++ f.name ++ ['\n']
        else [])
        ++ (Diagnostic.ofFault line f).toText ++ ['\n'] := by
  have hlead : debugLead ++ "line ".toList = "DEBUG rox.scanner: line ".toList := by decide
  have hline : Transcript.text (log.line (.ofFault line f))
      = (Diagnostic.ofFault line f).toText ++ ['\n'] := by
    rw [Log.line, if_pos h, Transcript.text_singleton, Write.line,
      Diagnostic.stripControl_toText_ofFault]
  rw [Transcript.on_eq_text fun _ => stream_notice, notice, Transcript.text_append, hline,
    List.append_assoc, ← hlead]
  cases flags.verbose <;> simp [Transcript.text, announcement, Diagnostic.ofFault]

/-- What sums up a scan reads on the error output. -/
theorem on_err_closing :
    Transcript.on .err (closing flags (.empty true) source)
      = if flags.verbose then
          "DEBUG rox.scanner: scanned ".toList ++ Text.ofNat (scan source).tokens.length
            ++ " tokens over ".toList ++ Text.ofNat (1 + Text.newlines source)
            ++ " lines, ".toList ++ Text.ofNat (scan source).diagnostics.length
            ++ " errors\n".toList
        else [] := by
  have hlead : debugLead ++ "scanned ".toList = "DEBUG rox.scanner: scanned ".toList := by decide
  rw [Transcript.on_eq_text fun _ => stream_closing, closing, ← hlead]
  cases flags.verbose <;> simp [Transcript.text, summary, Log.recordAll, Log.empty]

/-- The flags of a run change how it is printed and nothing else. A scan ends with the token of
the end of the input, and all that it reports are faults. In each combination of the flags, the
command on a script with this text has exit status 65 when the scan reports anything and 0 when it
does not; it puts out the tokens in the form that one flag chooses, whatever the other; on the
error output stand the reports in order, and if the run is verbose, the line that announces it
before each and the line that sums up the scan after all. Everything on the error output is
written before anything on the output. -/
theorem script_presented (source : Text) :
    ∃ (front : List Token) (last : Nat),
      (scan source).tokens = front ++ [.endOfInput last]
      ∧ (∀ d ∈ (scan source).diagnostics, ∃ (line : Nat) (f : Fault), d = .ofFault line f)
      ∧ ∀ flags : Flags, let outcome := Script.run flags source
        (∀ args files input, Command.RunsScript args files flags source →
          Command.run args files input = .ok outcome)
        ∧ outcome.status = (if (scan source).diagnostics = [] then 0 else 65)
        ∧ outcome.transcript.on .out = listed flags.dump (scan source).tokens
        ∧ outcome.transcript.on .err
          = (scan source).diagnostics.flatMap (fun d =>
              (if flags.verbose then
                "DEBUG rox.scanner: line ".toList ++ Text.ofInt d.line ++ ": ".toList
                  ++ d.fault.elim [] Fault.name ++ ['\n']
              else [])
              ++ d.toText ++ ['\n'])
            ++ (if flags.verbose then
                "DEBUG rox.scanner: scanned ".toList ++ Text.ofNat (scan source).tokens.length
                  ++ " tokens over ".toList ++ Text.ofNat last
                  ++ " lines, ".toList ++ Text.ofNat (scan source).diagnostics.length
                  ++ " errors\n".toList
              else [])
        ∧ ∃ errors output, outcome.transcript = errors ++ output
          ∧ (∀ w ∈ errors, w.stream = .err) ∧ (∀ w ∈ output, w.stream = .out) := by
  refine ⟨_, _, scan_tokens source, fun _ => exists_fault_of_mem_scan, fun flags =>
    ⟨fun args files input h => Command.run_of_runsScript h input,
      Script.status_run flags source, on_out_perform flags source _, ?_, ?_⟩⟩
  · have hnotice : ∀ d ∈ (scan source).diagnostics,
        Transcript.on .err (notice flags (.empty true) d)
          = (if flags.verbose then
              "DEBUG rox.scanner: line ".toList ++ Text.ofInt d.line ++ ": ".toList
                ++ d.fault.elim [] Fault.name ++ ['\n']
            else [])
            ++ d.toText ++ ['\n'] := by
      intro d hd
      obtain ⟨line, f, rfl⟩ := exists_fault_of_mem_scan hd
      exact on_err_notice rfl line f
    have hout : ∀ w ∈ listing flags (scan source).tokens, w.stream ≠ .err := by
      intro w hw
      simp [stream_listing hw]
    have hperform : (Script.run flags source).transcript
        = (perform flags source (.empty true)).1 := rfl
    rw [hperform, fst_perform, Transcript.on_append, Transcript.on_append,
      Transcript.on_eq_nil hout, List.append_nil, Transcript.on_flatMap, on_err_closing,
      List.flatMap_congr hnotice]
  · refine ⟨_, _, fst_perform flags source (.empty true), fun w hw => ?_,
      fun w hw => stream_listing hw⟩
    rcases List.mem_append.mp hw with hw | hw
    · obtain ⟨d, _, hd⟩ := List.mem_flatMap.mp hw
      exact stream_notice hd
    · exact stream_closing hw

end Run

end LoxLexer
