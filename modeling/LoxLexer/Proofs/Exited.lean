/-
  The exit status of the command. The command is misused in one of a few ways, which are looked for
  in order (`Misuse`), or it shows its help, or it prompts, or it runs the one script that it is
  given (`run_cases`). The status is 2 in the first case, 1 if the script is not text, 65 if its scan
  reports anything, and 0 otherwise; with 1 and 2 there is one report and nothing else. A path is
  followed by the kinds of the entries on it, and of all files only the script is read
  (`lookup_of_agreeOn`), so neither the input nor any other file makes a difference to a script.
  All this is `exit_status`. A name that holds NUL is no path, and a command that is to run it, and
  no other, comes to nothing (`exists_outcome_iff`).
-/
import LoxLexer.Proofs.Opened

namespace LoxLexer

/-! ## Trees that differ in files -/

/-- Whether an entry is a directory. -/
def Entry.isDirectory : Entry → Bool
  | file _ | locked => false
  | directory => true

namespace FileTree

/-- Two trees differ in nothing but what is in their files, and not in what stands where a path
leads. -/
structure AgreeOn (path : Path) (files other : FileTree) : Prop where
  current : other.current = files.current
  kind : ∀ place, (other.entry? place).map Entry.isDirectory
    = (files.entry? place).map Entry.isDirectory
  content : other.entry? (files.placeOf path) = files.entry? (files.placeOf path)

variable {path : Path} {files other : FileTree}

theorem AgreeOn.directory_iff (h : AgreeOn path files other) (place : Place) :
    other.entry? place = some .directory ↔ files.entry? place = some .directory := by
  have hentry : ∀ entry : Option Entry,
      entry = some .directory ↔ entry.map Entry.isDirectory = some true := by
    intro entry
    rcases entry with _ | _ | _ | _ <;> simp [Entry.isDirectory]
  rw [hentry, hentry, h.kind]

theorem AgreeOn.isSome_eq (h : AgreeOn path files other) (place : Place) :
    (other.entry? place).isSome = (files.entry? place).isSome := by
  rw [← Option.isSome_map (f := Entry.isDirectory), h.kind, Option.isSome_map]

theorem step_of_not_directory {tree : FileTree} {place : Place}
    (h : tree.entry? place ≠ some .directory) (name : Text) :
    tree.step place name = .error .notDirectory := by
  unfold step
  split
  · rename_i hdirectory
    exact absurd hdirectory h
  · rfl

theorem step_of_agreeOn (h : AgreeOn path files other) (place : Place) (name : Text) :
    other.step place name = files.step place name := by
  by_cases hdirectory : files.entry? place = some .directory
  · simp only [step, hdirectory, (h.directory_iff place).mpr hdirectory, h.isSome_eq]
  · rw [step_of_not_directory hdirectory,
      step_of_not_directory (mt (h.directory_iff place).mp hdirectory)]

/-- What stands where a path leads is found by the kinds of the entries on the way. -/
theorem lookup_of_agreeOn (h : AgreeOn path files other) :
    other.lookup path = files.lookup path := by
  have hstep : other.step = files.step := by
    funext place name
    exact step_of_agreeOn h place name
  have hstart : other.start path = files.start path := by rw [start, start, h.current]
  unfold lookup
  rw [hstep, hstart]
  cases hfollowed : path.names.foldlM files.step (files.start path) with
  | error e => rfl
  | ok place =>
    obtain rfl := eq_placeOf_of_followed hfollowed
    simp only [h.content]

end FileTree

namespace Command

/-- The ways to misuse the command, in the order in which they are looked for. -/
inductive Misuse (args : List Text) (files : FileTree) : UsageError → Prop
  | switch {e : SwitchError} (h : Invocation.ofArguments args = .error e) :
      Misuse args files (.switch e)
  | noScript {flags : Flags} {path : Path} {extra : List Text}
      (h : Invocation.ofArguments args = .ok ⟨false, flags, path.text :: extra⟩)
      (hl : ∀ entry, files.lookup path ≠ .ok entry) : Misuse args files (.noScript path)
  | scriptIsDirectory {flags : Flags} {path : Path} {extra : List Text}
      (h : Invocation.ofArguments args = .ok ⟨false, flags, path.text :: extra⟩)
      (hl : files.lookup path = .ok .directory) : Misuse args files (.scriptIsDirectory path)
  | scriptIsLocked {flags : Flags} {path : Path} {extra : List Text}
      (h : Invocation.ofArguments args = .ok ⟨false, flags, path.text :: extra⟩)
      (hl : files.lookup path = .ok .locked) : Misuse args files (.scriptIsLocked path)
  | extraArguments {flags : Flags} {path : Path} {extra : List Text} {content : List UInt8}
      (h : Invocation.ofArguments args = .ok ⟨false, flags, path.text :: extra⟩)
      (hl : files.lookup path = .ok (.file content)) (hne : extra ≠ []) :
      Misuse args files (.extraArguments extra)

/-- The arguments are not to run a script whose name holds NUL. -/
def NamesNoNul (args : List Text) : Prop :=
  ∀ flags script extra, Invocation.ofArguments args = .ok ⟨false, flags, script :: extra⟩ →
    '\x00' ∉ script

variable {args : List Text} {files : FileTree} {flags : Flags} {path : Path}
  {extra : List Text} {content : List UInt8}

/-! ## Each way to end -/

theorem run_of_misuse {e : UsageError} (h : Misuse args files e) (input : Text) :
    run args files input = .ok (misused e) := by
  cases h with
  | switch h => rw [run, h]
  | noScript h hl =>
    rw [run_of_path h, ofPath]
    split
    · rfl
    all_goals
      rename_i hfound
      exact absurd hfound (hl _)
  | scriptIsDirectory h hl => rw [run_of_path h, ofPath, hl]
  | scriptIsLocked h hl => rw [run_of_path h, ofPath, hl]
  | extraArguments h hl hne =>
    rw [run_of_path h, ofPath, hl]
    simp only [hne, if_false]

theorem ofScript_encode (flags : Flags) (path : Path) (t : Text) :
    ofScript flags path (Utf8.encode t) = Script.run flags (Text.unifyNewlines t) := by
  have hread : Script.read (Utf8.encode t) = .ok (Text.unifyNewlines t) :=
    Script.read_eq_ok_iff.mpr ⟨t, rfl, rfl⟩
  rw [ofScript, hread]

theorem ofScript_of_firstDefect {defect : Utf8.Defect} (h : Utf8.FirstDefect content defect)
    (flags : Flags) (path : Path) : ofScript flags path content
      = ⟨[complaint (Script.OpenError.message path (.notText defect))], 1⟩ := by
  have hread : Script.read content = .error (.notText defect) :=
    Script.read_eq_error_iff.mpr ⟨defect, h, rfl⟩
  rw [ofScript, hread]

/-- A script is refused for its first defect, or it is one text and is run. -/
theorem ofScript_cases (flags : Flags) (path : Path) (content : List UInt8) :
    (∃ defect, Utf8.FirstDefect content defect ∧ ofScript flags path content
        = ⟨[complaint (Script.OpenError.message path (.notText defect))], 1⟩)
      ∨ ∃ t, content = Utf8.encode t
        ∧ ofScript flags path content = Script.run flags (Text.unifyNewlines t) := by
  by_cases ht : ∃ t, content = Utf8.encode t
  · obtain ⟨t, rfl⟩ := ht
    exact Or.inr ⟨t, rfl, ofScript_encode flags path t⟩
  · obtain ⟨defect, hdefect⟩ := Script.exists_firstDefect (not_exists.mp ht)
    exact Or.inl ⟨defect, hdefect, ofScript_of_firstDefect hdefect flags path⟩

/-- A command that names a path as its script is misused or runs what stands there. -/
theorem misuse_or_givesFile
    (h : Invocation.ofArguments args = .ok ⟨false, flags, path.text :: extra⟩)
    (files : FileTree) :
    (∃ e, Misuse args files e) ∨ ∃ content, GivesFile args files flags path content := by
  cases hfound : files.lookup path with
  | error _ => exact Or.inl ⟨_, .noScript h (by simp [hfound])⟩
  | ok entry =>
    cases entry with
    | directory => exact Or.inl ⟨_, .scriptIsDirectory h hfound⟩
    | locked => exact Or.inl ⟨_, .scriptIsLocked h hfound⟩
    | file content =>
      by_cases hextra : extra = []
      · subst hextra
        exact Or.inr ⟨content, h, hfound⟩
      · exact Or.inl ⟨_, .extraArguments h hfound hextra⟩

/-- If no script's name holds NUL, the command does one of four things: it is misused, or
shows its help, or prompts, or runs the script. -/
theorem run_cases (h : NamesNoNul args) (files : FileTree) (input : Text) :
    (∃ e, Misuse args files e ∧ run args files input = .ok (misused e))
      ∨ run args files input = .ok ⟨[.line .out help], 0⟩
      ∨ (∃ flags, run args files input = .ok (ofPrompt flags input))
      ∨ ∃ flags path content, GivesFile args files flags path content
        ∧ run args files input = .ok (ofScript flags path content) := by
  cases hargs : Invocation.ofArguments args with
  | error e =>
    have hmisuse : Misuse args files (.switch e) := .switch hargs
    exact Or.inl ⟨_, hmisuse, run_of_misuse hmisuse input⟩
  | ok v =>
    obtain ⟨help, flags, arguments⟩ := v
    cases help with
    | true =>
      refine Or.inr (Or.inl ?_)
      rw [run, hargs]
      rfl
    | false =>
      cases arguments with
      | nil =>
        refine Or.inr (Or.inr (Or.inl ⟨flags, ?_⟩))
        rw [run, hargs]
        rfl
      | cons script extra =>
        have hpath : Invocation.ofArguments args
            = .ok ⟨false, flags, (Path.mk script (h flags script extra hargs)).text :: extra⟩ :=
          hargs
        rcases misuse_or_givesFile hpath files with ⟨e, hmisuse⟩ | ⟨content, hgives⟩
        · exact Or.inl ⟨e, hmisuse, run_of_misuse hmisuse input⟩
        · exact Or.inr (Or.inr (Or.inr ⟨_, _, content, hgives, run_of_givesFile hgives input⟩))

/-- A script's run reads no input and no file but the script. -/
theorem run_of_agreeOn {help : Bool} {script : Text} {other : FileTree}
    (hargs : Invocation.ofArguments args = .ok ⟨help, flags, script :: extra⟩)
    (hother : ∀ path : Path, path.text = script → FileTree.AgreeOn path files other)
    (input input' : Text) : run args other input' = run args files input := by
  rw [run, run, hargs]
  cases help with
  | true => rfl
  | false =>
    simp only [perform, Bool.false_eq_true, if_false]
    cases hpath : Path.ofText script with
    | error defect => rfl
    | ok path =>
      have hlookup := FileTree.lookup_of_agreeOn (hother path (Path.ofText_eq_ok_iff.mp hpath))
      simp only [Except.map, ofPath, hlookup]

/-! ## The exit status -/

theorem on_out_complaint (message : Text) : Transcript.on .out [complaint message] = [] := rfl

theorem on_err_complaint (message : Text) :
    Transcript.on .err [complaint message]
      = Text.stripControl ("Error: ".toList ++ message) ++ ['\n'] :=
  Transcript.text_singleton _

theorem on_out_misused (e : UsageError) : (misused e).transcript.on .out = [] := by
  unfold misused
  cases e.showsUsage <;> rfl

theorem on_err_misused (e : UsageError) :
    (misused e).transcript.on .err
      = (if e.showsUsage then "Usage: rox [OPTIONS] [SCRIPT]\n\n".toList else [])
        ++ Text.stripControl ("Error: ".toList ++ e.message) ++ ['\n'] := by
  have husage : Transcript.on .err [Write.line .err usage]
      = "Usage: rox [OPTIONS] [SCRIPT]\n\n".toList := by decide +kernel
  rw [misused, Transcript.on_append, on_err_complaint]
  cases e.showsUsage
  · rfl
  · rw [if_pos rfl, husage]
    rfl

theorem message_notText (path : Path) (defect : Utf8.Defect) :
    Script.OpenError.message path (.notText defect)
      = "Could not open file ".toList ++ Text.quoted path.text ++ ": ".toList
        ++ ("not valid UTF-8 (".toList ++ defect.message ++ [')']) := rfl

theorem on_err_refused (path : Path) (defect : Utf8.Defect) :
    Transcript.on .err [complaint (Script.OpenError.message path (.notText defect))]
      = Text.stripControl ("Error: Could not open file ".toList ++ Text.quoted path.text
        ++ ": not valid UTF-8 (".toList ++ defect.message ++ [')']) ++ ['\n'] := by
  have hlead : "Error: Could not open file ".toList
      = "Error: ".toList ++ "Could not open file ".toList := by decide
  have hhint : ": not valid UTF-8 (".toList = ": ".toList ++ "not valid UTF-8 (".toList := by
    decide
  rw [on_err_complaint, message_notText, hlead, hhint]
  simp only [List.append_assoc]

/-- How the command ends, and what makes it end so. -/
inductive Ends (args : List Text) (files : FileTree) : Script.Outcome → Prop
  | clean {outcome : Script.Outcome} (h : outcome.status = 0) : Ends args files outcome
  | faulty {flags : Flags} {path : Path} {t : Text}
      (hg : GivesFile args files flags path (Utf8.encode t))
      (hr : (scan (Text.unifyNewlines t)).diagnostics ≠ []) :
      Ends args files (Script.run flags (Text.unifyNewlines t))
  | refused {flags : Flags} {path : Path} {content : List UInt8} {defect : Utf8.Defect}
      (hg : GivesFile args files flags path content) (hd : Utf8.FirstDefect content defect) :
      Ends args files ⟨[complaint (Script.OpenError.message path (.notText defect))], 1⟩
  | misused {e : UsageError} (h : Misuse args files e) : Ends args files (misused e)

variable {outcome : Script.Outcome}

theorem exists_ends (h : NamesNoNul args) (files : FileTree) (input : Text) :
    ∃ outcome, run args files input = .ok outcome ∧ Ends args files outcome := by
  rcases run_cases h files input with
    ⟨e, hmisuse, hrun⟩ | hrun | ⟨flags, hrun⟩ | ⟨flags, path, content, hgives, hrun⟩
  · exact ⟨_, hrun, .misused hmisuse⟩
  · exact ⟨_, hrun, .clean rfl⟩
  · exact ⟨_, hrun, .clean rfl⟩
  · refine ⟨_, hrun, ?_⟩
    rcases ofScript_cases flags path content with ⟨defect, hdefect, hscript⟩ | ⟨t, rfl, hscript⟩
    · rw [hscript]
      exact .refused hgives hdefect
    · rw [hscript]
      by_cases hreports : (scan (Text.unifyNewlines t)).diagnostics = []
      · exact .clean (by rw [Script.status_run, if_pos hreports])
      · exact .faulty hgives hreports

theorem run_of_nul {script : Text}
    (h : Invocation.ofArguments args = .ok ⟨false, flags, script :: extra⟩)
    (hnul : '\x00' ∈ script) (files : FileTree) (input : Text) :
    run args files input = .error .holdsNul := by
  have hpath : Path.ofText script = .error .holdsNul := dif_pos hnul
  rw [run, h]
  simp only [perform, Bool.false_eq_true, if_false, hpath]
  rfl

/-- The command comes to nothing exactly if it is to run a script whose name holds NUL. -/
theorem exists_outcome_iff (args : List Text) (files : FileTree) (input : Text) :
    (∃ outcome, run args files input = .ok outcome) ↔ NamesNoNul args := by
  constructor
  · rintro ⟨outcome, hrun⟩ flags script extra hargs hnul
    rw [run_of_nul hargs hnul] at hrun
    cases hrun
  · intro h
    obtain ⟨outcome, hrun, _⟩ := exists_ends h files input
    exact ⟨outcome, hrun⟩

theorem status_run_of_reports {source : Text} (h : (scan source).diagnostics ≠ [])
    (flags : Flags) : (Script.run flags source).status = 65 := by
  rw [Script.status_run, if_neg h]
  rfl

namespace Ends

theorem status_mem (h : Ends args files outcome) : outcome.status ∈ [0, 1, 2, 65] := by
  cases h with
  | clean h => simp [h]
  | faulty _ hr => simp [status_run_of_reports hr]
  | refused _ _ => simp
  | misused _ => simp [Command.misused]

theorem faulty_of_status (h : Ends args files outcome) (hs : outcome.status = 65) :
    ∃ flags path t, GivesFile args files flags path (Utf8.encode t)
      ∧ (scan (Text.unifyNewlines t)).diagnostics ≠ [] := by
  cases h with
  | clean h => omega
  | faulty hg hr => exact ⟨_, _, _, hg, hr⟩
  | refused _ _ => cases hs
  | misused _ => cases hs

theorem refused_of_status (h : Ends args files outcome) (hs : outcome.status = 1) :
    ∃ flags path content defect, GivesFile args files flags path content
      ∧ Utf8.FirstDefect content defect
      ∧ outcome = ⟨[complaint (Script.OpenError.message path (.notText defect))], 1⟩ := by
  cases h with
  | clean h => omega
  | faulty _ hr =>
    rw [status_run_of_reports hr] at hs
    cases hs
  | refused hg hd => exact ⟨_, _, _, _, hg, hd, rfl⟩
  | misused _ => cases hs

theorem misused_of_status (h : Ends args files outcome) (hs : outcome.status = 2) :
    ∃ e, Misuse args files e ∧ outcome = Command.misused e := by
  cases h with
  | clean h => omega
  | faulty _ hr =>
    rw [status_run_of_reports hr] at hs
    cases hs
  | refused _ _ => cases hs
  | misused h => exact ⟨_, h, rfl⟩

end Ends

theorem ne_encode_of_firstDefect {defect : Utf8.Defect} (h : Utf8.FirstDefect content defect)
    (t : Text) : content ≠ Utf8.encode t := by
  intro ht
  rw [← Utf8.decode_eq_ok_iff, Utf8.decode_of_firstDefect h] at ht
  cases ht

/-- The exit status says how the command ended, unless it is to run a script whose name holds NUL.
The status is 0, 1, 2 or 65. It is 65 exactly if the arguments name one script, whose file holds the
bytes of a text, and the scan of this text, its line ends made one, reports anything; it is 1
exactly if the file's bytes are those of no text, and 2 exactly if the command is misused. With
status 1 and 2 nothing is put out, and the error output holds the report of the first defect or of
the misuse and nothing else. If the arguments hold a script, the outcome is the same with any
other input and with any other content in all files but the script. -/
theorem exit_status (args : List Text) (files : FileTree) (input : Text)
    (h : NamesNoNul args) :
    ∃ outcome, run args files input = .ok outcome
      ∧ outcome.status ∈ [0, 1, 2, 65]
      ∧ (outcome.status = 65 ↔ ∃ flags path t,
          GivesFile args files flags path (Utf8.encode t)
          ∧ (scan (Text.unifyNewlines t)).diagnostics ≠ [])
      ∧ (outcome.status = 1 ↔ ∃ flags path content,
          GivesFile args files flags path content ∧ ∀ t, content ≠ Utf8.encode t)
      ∧ (outcome.status = 2 ↔ ∃ e, Misuse args files e)
      ∧ (outcome.status = 1 → outcome.transcript.on .out = []
          ∧ ∃ flags path content defect, GivesFile args files flags path content
            ∧ Utf8.FirstDefect content defect
            ∧ outcome.transcript.on .err
              = Text.stripControl ("Error: Could not open file ".toList ++ Text.quoted path.text
                ++ ": not valid UTF-8 (".toList ++ defect.message ++ [')']) ++ ['\n'])
      ∧ (outcome.status = 2 → outcome.transcript.on .out = []
          ∧ ∃ e, Misuse args files e ∧ outcome.transcript.on .err
            = (if e.showsUsage then "Usage: rox [OPTIONS] [SCRIPT]\n\n".toList else [])
              ++ Text.stripControl ("Error: ".toList ++ e.message) ++ ['\n'])
      ∧ ∀ help flags script extra,
        Invocation.ofArguments args = .ok ⟨help, flags, script :: extra⟩ →
        ∀ other input', (∀ path : Path, path.text = script → FileTree.AgreeOn path files other) →
          run args other input' = .ok outcome := by
  obtain ⟨outcome, hrun, hends⟩ := exists_ends h files input
  refine ⟨outcome, hrun, hends.status_mem, ⟨hends.faulty_of_status, ?_⟩, ⟨?_, ?_⟩, ⟨?_, ?_⟩, ?_, ?_,
    fun help flags script extra hargs other input' hother => ?_⟩
  · rintro ⟨flags, path, t, hgives, hreports⟩
    obtain rfl := Except.ok.inj (hrun.symm.trans (run_of_givesFile hgives input))
    rw [ofScript_encode, status_run_of_reports hreports]
  · intro hstatus
    obtain ⟨flags, path, content, defect, hgives, hdefect, _⟩ := hends.refused_of_status hstatus
    exact ⟨flags, path, content, hgives, ne_encode_of_firstDefect hdefect⟩
  · rintro ⟨flags, path, content, hgives, hnone⟩
    obtain rfl := Except.ok.inj (hrun.symm.trans (run_of_givesFile hgives input))
    obtain ⟨defect, hdefect⟩ := Script.exists_firstDefect hnone
    rw [ofScript_of_firstDefect hdefect]
  · intro hstatus
    obtain ⟨e, hmisuse, _⟩ := hends.misused_of_status hstatus
    exact ⟨e, hmisuse⟩
  · rintro ⟨e, hmisuse⟩
    obtain rfl := Except.ok.inj (hrun.symm.trans (run_of_misuse hmisuse input))
    rfl
  · intro hstatus
    obtain ⟨flags, path, content, defect, hgives, hdefect, rfl⟩ :=
      hends.refused_of_status hstatus
    exact ⟨on_out_complaint _, flags, path, content, defect, hgives, hdefect,
      on_err_refused path defect⟩
  · intro hstatus
    obtain ⟨e, hmisuse, rfl⟩ := hends.misused_of_status hstatus
    exact ⟨on_out_misused e, e, hmisuse, on_err_misused e⟩
  · rw [run_of_agreeOn hargs hother input input', hrun]

/-- A script that breaks off within a character, and a file beside it; the current directory is
another one. -/
def brokenBeside (content : List UInt8) : FileTree :=
  ⟨[(["s".toList, "b".toList], .file [0x31, 0x40, 0xE2]),
    (["s".toList, "c".toList], .file content)], ["t".toList]⟩

theorem agreeOn_brokenBeside (content content' : List UInt8) :
    FileTree.AgreeOn ⟨"/s/b".toList, by decide⟩ (brokenBeside content)
      (brokenBeside content') where
  current := rfl
  kind := by
    intro place
    by_cases hb : place = ["s".toList, "b".toList]
    · subst hb
      rfl
    · by_cases hc : place = ["s".toList, "c".toList]
      · subst hc
        rfl
      · have hb' : (place == ["s".toList, "b".toList]) = false := beq_eq_false_iff_ne.mpr hb
        have hc' : (place == ["s".toList, "c".toList]) = false := beq_eq_false_iff_ne.mpr hc
        simp only [FileTree.entry?, brokenBeside, List.lookup_cons, List.lookup_nil, hb', hc']
        rfl
  content := by
    have hplace : (brokenBeside content).placeOf ⟨"/s/b".toList, by decide⟩
        = ["s".toList, "b".toList] := rfl
    rw [hplace]
    rfl

/-- A verbose command on a script that is named from the root. -/
theorem exit_status_brokenBeside :
    NamesNoNul ["-v".toList, "/s/b".toList]
      ∧ ∃ outcome,
        run ["-v".toList, "/s/b".toList] (brokenBeside [0x40]) "1\n".toList = .ok outcome
        ∧ outcome.status = 1 ∧ outcome.transcript.on .out = []
        ∧ run ["-v".toList, "/s/b".toList] (brokenBeside []) [] = .ok outcome := by
  have hargs : Invocation.ofArguments ["-v".toList, "/s/b".toList]
      = .ok ⟨false, ⟨false, true⟩, ["/s/b".toList]⟩ := by decide +kernel
  have hnul : NamesNoNul ["-v".toList, "/s/b".toList] := by
    intro flags script extra h
    rw [hargs] at h
    cases h
    decide
  have hdefect : Utf8.FirstDefect [0x31, 0x40, 0xE2] .unexpectedEnd :=
    .unexpectedEnd "1@".toList [0xE2] ⟨by decide, '€', [0x82, 0xAC], by decide, by decide⟩
  have hgives : GivesFile ["-v".toList, "/s/b".toList] (brokenBeside [0x40]) ⟨false, true⟩
      ⟨"/s/b".toList, by decide⟩ [0x31, 0x40, 0xE2] := ⟨hargs, by decide +kernel⟩
  obtain ⟨outcome, hrun, _, _, hrefused, _, hreport, _, hother⟩ :=
    exit_status ["-v".toList, "/s/b".toList] (brokenBeside [0x40]) "1\n".toList hnul
  have hstatus : outcome.status = 1 :=
    hrefused.mpr ⟨_, _, _, hgives, ne_encode_of_firstDefect hdefect⟩
  refine ⟨hnul, outcome, hrun, hstatus, (hreport hstatus).1, ?_⟩
  refine hother _ _ _ _ hargs _ _ fun path hpath => ?_
  obtain rfl : path = ⟨"/s/b".toList, by decide⟩ := by
    cases path
    cases hpath
    rfl
  exact agreeOn_brokenBeside [0x40] []

/-- A script whose name is no path: the command has no outcome. -/
theorem no_outcome_of_nul :
    Invocation.ofArguments [['\x00']] = .ok ⟨false, ⟨false, false⟩, [['\x00']]⟩
      ∧ ¬ ∃ outcome, run [['\x00']] .empty [] = .ok outcome
        ∧ outcome.status ∈ [0, 1, 2, 65] := by
  have hargs : Invocation.ofArguments [['\x00']] = .ok ⟨false, ⟨false, false⟩, [['\x00']]⟩ := by
    decide
  refine ⟨hargs, ?_⟩
  rintro ⟨outcome, hrun, _⟩
  have hnoNul : NamesNoNul [['\x00']] := (exists_outcome_iff _ _ _).mp ⟨outcome, hrun⟩
  exact hnoNul _ _ _ hargs List.mem_cons_self

end Command

end LoxLexer
