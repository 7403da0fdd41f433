/-
  What becomes of a script file. Its content is the bytes of one text or of none. In the first case
  the text, its line ends made one, is run (`read_eq_ok_iff`), and the exit status says whether the
  scan reports anything; in the second the file is refused with the first defect of its bytes
  (`read_eq_error_iff`) before anything is run, so nothing is printed of what stands before the
  defect. Both together: `runFound_content`.
-/
import LoxLexer.Command
import LoxLexer.Proofs.Decoded

namespace LoxLexer

namespace Script

variable {content : List UInt8}

/-- The program text of a file is its content, read back, with line ends made one. -/
theorem read_eq_ok_iff {source : Text} :
    read content = .ok source ↔ ∃ t, content = Utf8.encode t ∧ source = Text.unifyNewlines t := by
  simp only [← Utf8.decode_eq_ok_iff]
  unfold read
  cases Utf8.decode content <;> simp [eq_comm]

/-- A file is refused for the first defect of its bytes. -/
theorem read_eq_error_iff {e : OpenError} :
    read content = .error e ↔ ∃ defect, Utf8.FirstDefect content defect ∧ e = .notText defect := by
  simp only [← Utf8.decode_eq_error_iff]
  unfold read
  cases Utf8.decode content <;> simp [eq_comm]

theorem exists_firstDefect (h : ∀ t, content ≠ Utf8.encode t) :
    ∃ defect, Utf8.FirstDefect content defect := by
  cases hdecode : Utf8.decode content with
  | ok t => exact absurd (Utf8.decode_eq_ok_iff.mp hdecode) (h t)
  | error defect => exact ⟨defect, Utf8.decode_eq_error_iff.mp hdecode⟩

theorem firstDefect_unique {d e : Utf8.Defect} (hd : Utf8.FirstDefect content d)
    (he : Utf8.FirstDefect content e) : e = d := by
  rw [← Utf8.decode_eq_error_iff] at hd he
  exact Except.error.inj (he.symm.trans hd)

/-- A script file holds the bytes of one text at most. If it does, its run is the run of that text,
in which every `'\r\n'` and then every `'\r'` left is replaced by `'\n'`; the exit status is 0 when
the scan reports nothing and 65 when it does. If it does not, there is one first defect in the
bytes, and the script is refused for it; the command then writes the report of this, which names
the path and the defect, and nothing else. -/
theorem runFound_content (flags : Flags) {files : FileTree} {path : Path}
    (h : files.lookup path = .ok (.file content)) :
    (∀ t, content = Utf8.encode t →
      let source := (Text.shortenNewlines t).map fun c => if c = '\r' then '\n' else c
      (∀ s, content = Utf8.encode s → s = t)
        ∧ runFound flags (files.lookup path) = .ok ⟨(Run.perform flags source (.empty true)).1,
            if (scan source).diagnostics = [] then 0 else 65⟩)
      ∧ ((∀ t, content ≠ Utf8.encode t) →
        ∃ defect, (∀ d, Utf8.FirstDefect content d ↔ d = defect)
          ∧ runFound flags (files.lookup path) = .error (.notText defect)
          ∧ Command.ofPath flags [] files.lookup path
            = ⟨[Command.complaint ("Could not open file ".toList ++ Text.quoted path.text
                ++ ": ".toList
                ++ ("not valid UTF-8 (".toList ++ defect.message ++ [')']))], 1⟩) := by
  rw [Command.ofPath, h]
  constructor
  · intro t ht source
    have hread : read content = .ok source :=
      read_eq_ok_iff.mpr ⟨t, ht, (Text.unifyNewlines_eq_map t).symm⟩
    refine ⟨fun s hs => ?_, ?_⟩
    · rw [← Utf8.decode_eq_ok_iff] at ht hs
      exact Except.ok.inj (hs.symm.trans ht)
    · have hrun : run flags source
          = ⟨(Run.perform flags source (.empty true)).1, (run flags source).status⟩ := rfl
      rw [runFound, openAt, hread, Except.map, hrun, status_run]
      rfl
  · intro hnone
    obtain ⟨defect, hdefect⟩ := exists_firstDefect hnone
    have hread : read content = .error (.notText defect) :=
      read_eq_error_iff.mpr ⟨defect, hdefect, rfl⟩
    refine ⟨defect, fun d => ⟨firstDefect_unique hdefect, fun hd => hd ▸ hdefect⟩, ?_, ?_⟩
    · rw [runFound, openAt, hread]
      rfl
    · simp only [if_true, Command.ofScript, hread]
      rfl

/-- A tree with two scripts: one that ends lines in three ways, and one that breaks off within a
character behind a token and a character that is not expected. -/
def twoScripts : FileTree :=
  ⟨[(["a".toList], .file [0x31, 0x0D, 0x0D, 0x0A, 0x40, 0x0A]),
    (["b".toList], .file [0x31, 0x40, 0xE2, 0x82])], []⟩

theorem runFound_twoScripts :
    twoScripts.lookup ⟨"a".toList, by decide⟩ = .ok (.file [0x31, 0x0D, 0x0D, 0x0A, 0x40, 0x0A])
      ∧ runFound ⟨false, false⟩ (twoScripts.lookup ⟨"a".toList, by decide⟩)
        = .ok ⟨(Run.perform ⟨false, false⟩ "1\n\n@\n".toList (.empty true)).1, 65⟩
      ∧ twoScripts.lookup ⟨"b".toList, by decide⟩ = .ok (.file [0x31, 0x40, 0xE2, 0x82])
      ∧ runFound ⟨false, false⟩ (twoScripts.lookup ⟨"b".toList, by decide⟩)
        = .error (.notText .unexpectedEnd) := by
  have ha : twoScripts.lookup ⟨"a".toList, by decide⟩
      = .ok (.file [0x31, 0x0D, 0x0D, 0x0A, 0x40, 0x0A]) := by decide +kernel
  have hb : twoScripts.lookup ⟨"b".toList, by decide⟩
      = .ok (.file [0x31, 0x40, 0xE2, 0x82]) := by decide +kernel
  have hdefect : Utf8.FirstDefect [0x31, 0x40, 0xE2, 0x82] .unexpectedEnd :=
    .unexpectedEnd "1@".toList [0xE2, 0x82] ⟨by decide, '€', [0xAC], by decide, by decide⟩
  refine ⟨ha, ?_, hb, ?_⟩
  · have hrun := ((runFound_content ⟨false, false⟩ ha).1 "1\r\r\n@\n".toList (by decide)).2
    have hsource : (Text.shortenNewlines "1\r\r\n@\n".toList).map
        (fun c => if c = '\r' then '\n' else c) = "1\n\n@\n".toList := by decide
    have hscan : (scan "1\n\n@\n".toList).diagnostics ≠ [] := by decide +kernel
    rw [hsource, if_neg hscan] at hrun
    exact hrun
  · have hnone : ∀ t, [0x31, 0x40, 0xE2, 0x82] ≠ Utf8.encode t := by
      intro t ht
      rw [← Utf8.decode_eq_ok_iff, Utf8.decode_of_firstDefect hdefect] at ht
      cases ht
    obtain ⟨defect, huniq, hrun, _⟩ := (runFound_content ⟨false, false⟩ hb).2 hnone
    rw [hrun, (huniq _).mp hdefect]

end Script

end LoxLexer
