/-
  The monitor reports what the scan reports. Reading a settled match, the monitor finds nothing
  wrong and ends in a mode from which it takes what follows as in the normal mode
  (`exists_reads_of_matches`); a stray character and a quote that nothing closes are reported by
  both. By induction on the items of a text the two lists of diagnostics are the same
  (`watch_eq_diagnostics`). What holds of the monitor's reports then holds of the scan's: a string
  that is not closed is reported at most once, and last (`exists_watch_eq`).
-/
import LoxLexer.Monitor
import LoxLexer.Command
import LoxLexer.Proofs.Rendered

namespace LoxLexer.Monitor

open Grammar (IsNumber IsWord Matches Settled)

/-! ## One character -/

theorem watch_cons (mode : Mode) (line : Nat) (c : Char) (rest : Text) :
    watch mode line (c :: rest)
      = (if isWrong mode c then [.ofFault line .unexpectedCharacter] else [])
        ++ watch (next mode c) (line + Text.newlines [c]) rest := by
  have hline : line + Text.newlines [c] = if c = '\n' then line + 1 else line := by
    rw [Text.newlines_cons, Text.newlines_nil]
    split <;> rfl
  rw [hline]
  cases mode <;> rfl

theorem watch_nil {mode : Mode} (h : mode ≠ .string) (line : Nat) : watch mode line [] = [] := by
  cases mode with
  | string => exact absurd rfl h
  | _ => rfl

theorem watch_string_nil (line : Nat) :
    watch .string line [] = [.ofFault line .unterminatedString] := rfl

theorem enter_of_isPlain {c : Char} (h : isPlain c = true) : enter c = .normal := by
  have hclasses : Text.isLetter c = false ∧ c ≠ '"' ∧ c ≠ '/' := by
    simp only [isPlain, Bool.or_eq_true, List.contains_iff_mem] at h
    rcases h with (h | h) | h
    · obtain ⟨hop, _, hquote, hletter⟩ := Item.classes_of_isDigit h
      exact ⟨hletter, hquote, Item.ne_slash_of_ofChar?_eq_none hop⟩
    · obtain ⟨hop, hquote, _, hletter⟩ := Item.classes_of_isBlank h
      exact ⟨hletter, hquote, Item.ne_slash_of_ofChar?_eq_none hop⟩
    · have hall : "()\x7b\x7d,.-+;*!=<>".toList.all
          (fun d => !Text.isLetter d && d != '"' && d != '/') = true := by decide
      simpa [and_assoc] using List.all_eq_true.mp hall c h
  unfold enter
  rw [if_neg (by simp [hclasses.1]), if_neg hclasses.2.1, if_neg hclasses.2.2]

theorem enter_of_isLetter {c : Char} (h : Text.isLetter c = true) : enter c = .word := by
  rw [enter, if_pos h]

theorem isStray_of_enter {c : Char} (h : enter c ≠ .normal) : isStray c = false := by
  simp [isStray, h]

theorem isStray_of_isPlain {c : Char} (h : isPlain c = true) : isStray c = false := by
  simp [isStray, h]

/-- A character that begins no item is neither plain nor the beginning of anything. -/
theorem classes_of_isStray {c : Char} (h : Item.IsStray c) :
    enter c = .normal ∧ isStray c = true := by
  obtain ⟨hop, hblank, hquote, hdigit, hletter⟩ := h
  have henter : enter c = .normal := by
    unfold enter
    rw [if_neg (by simp [hletter]), if_neg hquote,
      if_neg (Item.ne_slash_of_ofChar?_eq_none hop)]
  have hlisted : "()\x7b\x7d,.-+;*!=<>".toList.contains c = false := by
    have hall : "()\x7b\x7d,.-+;*!=<>".toList.all
        (fun d => (Operator.ofChar? d).isSome) = true := by decide
    rw [Bool.eq_false_iff, ne_eq, List.contains_iff_mem]
    intro hc
    have hsome := List.all_eq_true.mp hall c hc
    rw [hop] at hsome
    cases hsome
  refine ⟨henter, ?_⟩
  rw [isStray, isPlain, henter, hdigit, hblank, hlisted]
  rfl

/-! ## Stretches without a report -/

/-- Reading the text leads from one mode to another, and nothing in it is wrong. -/
inductive Reads : Mode → Text → Mode → Prop
  | nil {mode : Mode} : Reads mode [] mode
  | cons {mode last : Mode} {c : Char} {t : Text} (hc : isWrong mode c = false)
      (ht : Reads (next mode c) t last) : Reads mode (c :: t) last

variable {mode last : Mode} {s t after : Text}

theorem watch_of_reads (h : Reads mode t last) (line : Nat) (after : Text) :
    watch mode line (t ++ after) = watch last (line + Text.newlines t) after := by
  induction h generalizing line with
  | nil => rfl
  | @cons mode last c t hc _ ih =>
    have hline : Text.newlines (c :: t) = Text.newlines [c] + Text.newlines t :=
      Text.newlines_append [c] t
    rw [List.cons_append, watch_cons, hc, ih, hline, ← Nat.add_assoc]
    rfl

theorem Reads.append {middle : Mode} (hs : Reads mode s middle) (ht : Reads middle t last) :
    Reads mode (s ++ t) last := by
  induction hs with
  | nil => exact ht
  | cons hc _ ih => exact .cons hc (ih ht)

/-- A mode that characters of a class neither leave nor find wrong is kept over all of them. -/
theorem reads_of_forall {p : Char → Prop}
    (hp : ∀ c, p c → isWrong mode c = false ∧ next mode c = mode) (h : ∀ c ∈ t, p c) :
    Reads mode t mode := by
  induction t with
  | nil => exact .nil
  | cons c t ih =>
    obtain ⟨hc, hnext⟩ := hp c (h c List.mem_cons_self)
    have ht := ih fun d hd => h d (List.mem_cons_of_mem c hd)
    exact .cons hc (hnext.symm ▸ ht)

theorem reads_of_isPlain (h : ∀ c ∈ t, isPlain c = true) : Reads .normal t .normal :=
  reads_of_forall (fun _ hc => ⟨isStray_of_isPlain hc, enter_of_isPlain hc⟩) h

theorem reads_of_isWordChar (h : ∀ c ∈ t, Item.isWordChar c = true) : Reads .word t .word :=
  reads_of_forall (fun _ hc => ⟨by simp [isWrong, hc], by simp [next, hc]⟩) h

theorem reads_of_no_newline (h : '\n' ∉ t) : Reads .comment t .comment :=
  reads_of_forall (p := (· ≠ '\n')) (fun _ hc => ⟨rfl, by simp [next, hc]⟩)
    fun _ hc he => h (he ▸ hc)

theorem reads_of_no_quote (h : '"' ∉ t) : Reads .string t .string :=
  reads_of_forall (p := (· ≠ '"')) (fun _ hc => ⟨rfl, by simp [next, hc]⟩)
    fun _ hc he => h (he ▸ hc)

/-! ## Matches -/

/-- Whether the monitor, in a mode, takes a text as it would in the normal mode. -/
def Leaves : Mode → Text → Prop
  | .normal, _ => True
  | .word, after => ∀ c ∈ after.head?, Item.isWordChar c = false
  | .slash, after => after.head? ≠ some '/'
  | .comment, after => ∀ c ∈ after.head?, c = '\n'
  | .string, _ => False

theorem watch_of_leaves (h : Leaves mode after) (line : Nat) :
    watch mode line after = watch .normal line after := by
  cases after with
  | nil =>
    have hmode : mode ≠ .string := by
      rintro rfl
      exact h
    rw [watch_nil hmode, watch_nil (by simp)]
  | cons c rest =>
    have hsame : isWrong mode c = isWrong .normal c ∧ next mode c = next .normal c := by
      cases mode with
      | normal => exact ⟨rfl, rfl⟩
      | word => simp [isWrong, next, h c rfl]
      | slash =>
        have hc : c ≠ '/' := fun he => h (congrArg some he)
        simp [isWrong, next, hc]
      | comment =>
        obtain rfl : c = '\n' := h c rfl
        decide
      | string => exact h.elim
    rw [watch_cons, watch_cons, hsame.1, hsame.2]

theorem isPlain_of_isDigit {c : Char} (h : c.isDigit = true) : isPlain c = true := by
  simp [isPlain, h]

theorem reads_of_isNumber (h : IsNumber t) : Reads .normal t .normal := by
  apply reads_of_isPlain
  cases h with
  | whole h => exact fun c hc => isPlain_of_isDigit (h.2 c hc)
  | decimal hs ht =>
    intro c hc
    rcases List.mem_append.mp hc with hc | hc
    · exact isPlain_of_isDigit (hs.2 c hc)
    · rcases List.mem_cons.mp hc with rfl | hc
      · decide
      · exact isPlain_of_isDigit (ht.2 c hc)

theorem reads_of_isWord (h : IsWord t) : Reads .normal t .word := by
  obtain @⟨c, t, hc, ht⟩ := h
  have henter : enter c = .word := enter_of_isLetter hc
  refine .cons (isStray_of_enter (by simp [henter])) ?_
  rw [next, henter]
  exact reads_of_isWordChar ht

theorem reads_of_isString (h : Grammar.IsString t) : Reads .normal t .normal := by
  obtain @⟨t, ht⟩ := h
  have hclose : Reads .string ['"'] .normal := .cons rfl .nil
  exact .cons (by decide) ((reads_of_no_quote ht).append hclose)

theorem reads_of_isComment (h : Grammar.IsComment t) : Reads .normal t .comment := by
  obtain @⟨t, ht⟩ := h
  exact .cons (by decide) (.cons (by decide) (reads_of_no_newline ht))

/-- Over an operator that is not the beginning of a comment the monitor stays as it is. -/
theorem reads_of_operator (op : Operator) :
    Reads .normal op.spelling (if op = .slash then .slash else .normal) := by
  by_cases hslash : op = .slash
  · rw [if_pos hslash, hslash]
    exact .cons (by decide) .nil
  · have hall : op.spelling.all isPlain = true := by
      cases op with
      | slash => exact absurd rfl hslash
      | _ => decide
    rw [if_neg hslash]
    exact reads_of_isPlain (List.all_eq_true.mp hall)

/-- Over a settled match nothing is reported, and what follows is taken as in the normal mode. -/
theorem exists_reads_of_matches {shape : Shape} (hm : Matches shape t)
    (hs : Settled shape t after) : ∃ last, Reads .normal t last ∧ Leaves last after := by
  cases hm with
  | operator op =>
    refine ⟨_, reads_of_operator op, ?_⟩
    split
    · rename_i hslash
      exact hs.2 hslash
    · trivial
  | number h => exact ⟨_, reads_of_isNumber h, trivial⟩
  | keyword k => exact ⟨_, reads_of_isWord (Grammar.isWord_spelling k), hs⟩
  | identifier h _ => exact ⟨_, reads_of_isWord h, hs⟩
  | string h => exact ⟨_, reads_of_isString h, trivial⟩
  | comment h => exact ⟨_, reads_of_isComment h, hs⟩
  | blank h =>
    refine ⟨_, reads_of_isPlain fun c hc => ?_, trivial⟩
    obtain rfl := List.mem_singleton.mp hc
    simp [isPlain, h]

theorem watch_of_settled {shape : Shape} (hm : Matches shape t) (hs : Settled shape t after)
    (line : Nat) :
    watch .normal line (t ++ after) = watch .normal (line + Text.newlines t) after := by
  obtain ⟨last, hreads, hleaves⟩ := exists_reads_of_matches hm hs
  rw [watch_of_reads hreads, watch_of_leaves hleaves]

/-! ## Faults -/

theorem watch_of_isStray {c : Char} (h : Item.IsStray c) (line : Nat) (rest : Text) :
    watch .normal line (c :: rest)
      = .ofFault line .unexpectedCharacter :: watch .normal (line + Text.newlines [c]) rest := by
  obtain ⟨henter, hstray⟩ := classes_of_isStray h
  rw [watch_cons, isWrong, hstray, next, henter]
  rfl

theorem watch_of_open {rest : Text} (h : '"' ∉ rest) (line : Nat) :
    watch .normal line ('"' :: rest)
      = [.ofFault (line + Text.newlines ('"' :: rest) : Nat) .unterminatedString] := by
  have hreads : Reads .normal ('"' :: rest) .string := .cons (by decide) (reads_of_no_quote h)
  rw [← List.append_nil ('"' :: rest), watch_of_reads hreads, watch_string_nil, List.append_nil]

/-! ## Whole texts -/

/-- From the beginning of an item on, the monitor reports the diagnostics of the items ahead. -/
theorem watch_eq_diagnostics (before t : Text) :
    watch .normal (1 + Text.newlines before) t = Placed.diagnostics before (Item.items t) := by
  fun_induction Item.items t generalizing before with
  | case1 => rfl
  | case2 c rest ih =>
    rw [Placed.diagnostics_cons, ← ih, Text.newlines_append, ← Nat.add_assoc]
    rcases Grammar.first_cases_settled c rest with
      ⟨shape, text, after, heq, hm, hs⟩ | ⟨rfl, hopen⟩ | hstray
    · obtain ⟨d, text, rfl⟩ := List.exists_cons_of_ne_nil (Grammar.ne_nil_of_matches hm)
      obtain ⟨rfl, rfl⟩ := List.cons.inj heq
      rw [List.append_eq, Grammar.cut_of_settled hm hs, Placed.diagnostic?_of_matches hm,
        ← List.cons_append, watch_of_settled hm hs]
      rfl
    · rw [Item.cut_of_quote, Item.cutString_open hopen, watch_of_open hopen,
        watch_nil (by simp), Nat.add_assoc, ← Text.newlines_append]
      rfl
    · rw [Item.cut_of_stray hstray, watch_of_isStray hstray]
      rfl

/-- The monitor reports what the scan reports. -/
theorem diagnostics_eq_scan (source : Text) : diagnostics source = (scan source).diagnostics := by
  rw [scan_diagnostics, ← watch_eq_diagnostics]
  rfl

/-- A string that is not closed is reported at most once, behind all that is reported of
characters. -/
theorem exists_watch_eq (mode : Mode) (line : Nat) (t : Text) :
    ∃ front last, watch mode line t = front ++ last
      ∧ (∀ d ∈ front, d.fault = some .unexpectedCharacter)
      ∧ (∀ d ∈ last, d.fault = some .unterminatedString) ∧ last.length ≤ 1 := by
  induction t generalizing mode line with
  | nil =>
    by_cases hmode : mode = .string
    · exact ⟨[], [.ofFault line .unterminatedString], by rw [hmode]; rfl, by simp,
        by simp [Diagnostic.ofFault], Nat.le_refl 1⟩
    · exact ⟨[], [], watch_nil hmode line, by simp, by simp, Nat.zero_le 1⟩
  | cons c t ih =>
    obtain ⟨front, last, heq, hfront, hlast, hone⟩ :=
      ih (next mode c) (line + Text.newlines [c])
    rw [watch_cons, heq, ← List.append_assoc]
    refine ⟨_, last, rfl, List.forall_mem_append.mpr ⟨?_, hfront⟩, hlast, hone⟩
    split <;> simp [Diagnostic.ofFault]

/-- Scanning reports what the monitor reports. So it reports an error, and a script exits with
65, exactly when the monitor does, and a string that is not closed is reported at most once, as
the last of all. -/
theorem scan_monitored (source : Text) :
    (scan source).diagnostics = diagnostics source
      ∧ ((scan source).hadError = true ↔ diagnostics source ≠ [])
      ∧ (∀ args files flags input, Command.RunsScript args files flags source →
          ∃ outcome, Command.run args files input = .ok outcome
            ∧ outcome.status = if diagnostics source = [] then 0 else 65)
      ∧ ∃ front last, (scan source).diagnostics = front ++ last
          ∧ (∀ d ∈ front, d.fault = some .unexpectedCharacter)
          ∧ (∀ d ∈ last, d.fault = some .unterminatedString) ∧ last.length ≤ 1 := by
  rw [Scan.hadError_iff, ← diagnostics_eq_scan]
  refine ⟨rfl, Iff.rfl, fun args files flags input hruns => ?_, exists_watch_eq .normal 1 source⟩
  refine ⟨_, Command.run_of_runsScript hruns input, ?_⟩
  rw [Script.status_run, ← diagnostics_eq_scan]
  rfl

/-- An underscore behind a number is wrong, behind a word it is not; slashes in a string begin no
comment, and a quote in a comment no string. -/
example : diagnostics "1_ a1_ \"//\" // \"\n\"".toList
    = [.ofFault 1 .unexpectedCharacter, .ofFault 2 .unterminatedString] := by decide +kernel

end LoxLexer.Monitor
