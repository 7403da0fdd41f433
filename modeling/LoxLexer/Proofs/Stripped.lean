/-
  Printed lines lose control sequences in strings only. What it is to strip a text is said by
  `Strips`: from left to right, a control sequence is left out and any other character stays; every
  text is stripped in one way (`strips_iff`). A line is stripped as a whole, and a quote, a space
  and a digit may all stand inside a control sequence; but each sequence ends with a final
  character, and nothing that follows the text of a string or of a token is one. So no sequence goes
  on behind such a text (`stripControl_append`), and each is stripped as if it stood alone
  (`listing_stripped`).
-/
import LoxLexer.Proofs.Listed

namespace LoxLexer

namespace Text

/-- A whole control sequence. -/
inductive IsControl : Text → Prop
  | intro {parameters intermediates : Text} {final : Char}
      (hp : ∀ c ∈ parameters, isParameter c = true)
      (hi : ∀ c ∈ intermediates, isIntermediate c = true) (hf : isFinal final = true) :
      IsControl ('\x1b' :: '[' :: parameters ++ intermediates ++ [final])

/-- The second text is the first without its control sequences, which are looked for from left to
right, each where the last one ended. -/
inductive Strips : Text → Text → Prop
  | nil : Strips [] []
  | control {sequence rest out : Text} (h : IsControl sequence) (hr : Strips rest out) :
      Strips (sequence ++ rest) out
  | other {c : Char} {rest out : Text} (h : ∀ sequence, IsControl sequence →
      ¬ sequence <+: c :: rest) (hr : Strips rest out) : Strips (c :: rest) (c :: out)

variable {c : Char} {s t after : Text}

/-! ## One control sequence -/

theorem isParameter_of_isIntermediate (h : isIntermediate c = true) : isParameter c = false := by
  unfold isIntermediate at h
  unfold isParameter
  grind

theorem isParameter_of_isFinal (h : isFinal c = true) : isParameter c = false := by
  unfold isFinal at h
  unfold isParameter
  grind

theorem isIntermediate_of_isFinal (h : isFinal c = true) : isIntermediate c = false := by
  unfold isFinal at h
  unfold isIntermediate
  grind

/-- A control sequence is found where one stands. -/
theorem afterControl?_append_of_isControl {sequence : Text} (h : IsControl sequence)
    (after : Text) : afterControl? (sequence ++ after) = some after := by
  obtain @⟨parameters, intermediates, final, hp, hi, hf⟩ := h
  have hfinal : ∀ c ∈ (final :: after).head?, isIntermediate c = false := by
    simpa using isIntermediate_of_isFinal hf
  have hstop : ∀ c ∈ (intermediates ++ final :: after).head?, isParameter c = false := by
    cases intermediates with
    | nil => simpa using isParameter_of_isFinal hf
    | cons d intermediates =>
      simpa using isParameter_of_isIntermediate (hi d List.mem_cons_self)
  simp only [List.cons_append, List.append_assoc, List.nil_append, afterControl?,
    dropWhile_run hp hstop, dropWhile_run hi hfinal, hf, if_true]

theorem exists_isControl_of_afterControl? (h : afterControl? t = some after) :
    ∃ sequence, IsControl sequence ∧ t = sequence ++ after := by
  unfold afterControl? at h
  split at h
  · rename_i rest
    obtain ⟨parameters, r, rfl, hp, hr⟩ := exists_run isParameter rest
    obtain ⟨intermediates, r', rfl, hi, hr'⟩ := exists_run isIntermediate r
    rw [dropWhile_run hp hr, dropWhile_run hi hr'] at h
    split at h
    · rename_i final after'
      split at h
      · rename_i hf
        obtain rfl := Option.some.inj h
        exact ⟨_, .intro hp hi hf, by simp⟩
      · cases h
    · cases h
  · cases h

theorem afterControl?_eq_none_iff :
    afterControl? t = none ↔ ∀ sequence, IsControl sequence → ¬ sequence <+: t := by
  constructor
  · rintro h sequence hcontrol ⟨after, rfl⟩
    rw [afterControl?_append_of_isControl hcontrol] at h
    cases h
  · intro h
    cases hafter : afterControl? t with
    | none => rfl
    | some after =>
      obtain ⟨sequence, hcontrol, rfl⟩ := exists_isControl_of_afterControl? hafter
      exact absurd (List.prefix_append ..) (h sequence hcontrol)

/-! ## One way to strip a text -/

theorem stripControl_append_of_isControl {sequence : Text} (h : IsControl sequence)
    (rest : Text) : stripControl (sequence ++ rest) = stripControl rest := by
  have hafter := afterControl?_append_of_isControl h rest
  cases h with
  | intro hp hi hf => exact stripControl_of_control hafter

theorem strips_stripControl (t : Text) : Strips t (stripControl t) := by
  induction t using stripControl.induct with
  | case1 =>
    rw [stripControl_nil]
    exact .nil
  | case2 c rest after hafter ih =>
    obtain ⟨sequence, hcontrol, heq⟩ := exists_isControl_of_afterControl? hafter
    rw [stripControl_of_control hafter, heq]
    exact .control hcontrol ih
  | case3 c rest hafter ih =>
    rw [stripControl_cons hafter]
    exact .other (afterControl?_eq_none_iff.mp hafter) ih

/-- There is one way to strip a text. -/
theorem strips_iff : Strips s t ↔ t = stripControl s := by
  constructor
  · intro h
    induction h with
    | nil => exact stripControl_nil.symm
    | control hcontrol _ ih => rw [stripControl_append_of_isControl hcontrol, ih]
    | other h _ ih => rw [stripControl_cons (afterControl?_eq_none_iff.mpr h), ih]
  · rintro rfl
    exact strips_stripControl s

theorem newlines_of_isControl (h : IsControl t) : newlines t = 0 := by
  obtain @⟨parameters, intermediates, final, hp, hi, hf⟩ := h
  apply newlines_eq_zero
  intro c hc
  simp only [List.mem_append, List.mem_cons, List.not_mem_nil, or_false] at hc
  rintro rfl
  rcases hc with ((hc | hc | hc) | hc) | hc
  · cases hc
  · cases hc
  · cases hp _ hc
  · cases hi _ hc
  · rw [← hc] at hf
    cases hf

/-- Line ends stay. -/
theorem newlines_of_strips (h : Strips s t) : newlines t = newlines s := by
  induction h with
  | nil => rfl
  | control hcontrol _ ih => rw [newlines_append, newlines_of_isControl hcontrol, ih, Nat.zero_add]
  | other _ _ ih => rw [newlines_cons, newlines_cons, ih]

/-! ## Texts in which no control sequence ends -/

theorem exists_final_of_isControl (h : IsControl t) :
    ∃ front final, t = front ++ [final] ∧ isFinal final = true := by
  obtain @⟨parameters, intermediates, final, _, _, hf⟩ := h
  exact ⟨_, final, rfl, hf⟩

/-- A control sequence that begins before a text without final characters is over before it. -/
theorem afterControl?_append (ht : ∀ c ∈ t, isFinal c = false) (s : Text) :
    afterControl? (s ++ t) = (afterControl? s).map (· ++ t) := by
  cases hs : afterControl? s with
  | some after =>
    obtain ⟨sequence, hcontrol, rfl⟩ := exists_isControl_of_afterControl? hs
    rw [List.append_assoc, afterControl?_append_of_isControl hcontrol]
    rfl
  | none =>
    rw [Option.map_none, afterControl?_eq_none_iff]
    rintro sequence hcontrol ⟨after, heq⟩
    have hnone := afterControl?_eq_none_iff.mp hs sequence hcontrol
    rcases List.append_eq_append_iff.mp heq with ⟨more, rfl, _⟩ | ⟨more, rfl, rfl⟩
    · exact hnone (List.prefix_append ..)
    · obtain ⟨front, final, hfront, hf⟩ := exists_final_of_isControl hcontrol
      rcases List.eq_nil_or_concat' more with rfl | ⟨most, last, rfl⟩
      · exact hnone (by simp)
      · rw [← List.append_assoc] at hfront
        obtain ⟨_, hlast⟩ := List.append_inj' hfront rfl
        obtain rfl := List.singleton_inj.mp hlast
        rw [ht last (by simp)] at hf
        cases hf

/-- Before a text without final characters, a text is stripped as if it stood alone. -/
theorem stripControl_append (ht : ∀ c ∈ t, isFinal c = false) (s : Text) :
    stripControl (s ++ t) = stripControl s ++ stripControl t := by
  induction s using stripControl.induct with
  | case1 => rw [stripControl_nil, List.nil_append, List.nil_append]
  | case2 c rest after hafter ih =>
    have happend : afterControl? (c :: (rest ++ t)) = some (after ++ t) := by
      rw [← List.cons_append, afterControl?_append ht, hafter]
      rfl
    rw [List.cons_append, stripControl_of_control happend, ih, stripControl_of_control hafter]
  | case3 c rest hafter ih =>
    have happend : afterControl? (c :: (rest ++ t)) = none := by
      rw [← List.cons_append, afterControl?_append ht, hafter]
      rfl
    rw [List.cons_append, stripControl_cons happend, ih, stripControl_cons hafter,
      List.cons_append]

theorem isFinal_of_isDigit (h : c.isDigit = true) : isFinal c = false := by
  simp only [Char.isDigit, Bool.and_eq_true, decide_eq_true_eq] at h
  have hhigh : c.toNat ≤ '9'.toNat := h.2
  unfold isFinal
  grind

/-- Numbers are written without final characters. -/
theorem isFinal_of_mem_ofInt {n : Int} (h : c ∈ ofInt n) : isFinal c = false := by
  cases n with
  | ofNat n => exact isFinal_of_isDigit (isDigit_of_mem_ofNat h)
  | negSucc n =>
    rcases List.mem_cons.mp h with rfl | h
    · decide
    · exact isFinal_of_isDigit (isDigit_of_mem_ofNat h)

/-- A string is stripped between its quotes. -/
theorem stripControl_quoted (body : Text) :
    stripControl ('"' :: body ++ ['"']) = '"' :: stripControl body ++ ['"'] := by
  have hquote : stripControl ['"'] = ['"'] := stripControl_eq_self (by decide)
  have hfinal : ∀ c ∈ ['"'], isFinal c = false := by simp [isFinal]
  rw [List.cons_append, stripControl_cons (afterControl?_of_ne (by decide) _),
    stripControl_append hfinal, hquote, List.cons_append]

theorem stripControl_append_of_notMem (h : '\x1b' ∉ s) (t : Text) :
    stripControl (s ++ t) = s ++ stripControl t := by
  induction s with
  | nil => rfl
  | cons c s ih =>
    obtain ⟨hc, hs⟩ := not_or.mp (mt List.mem_cons.mpr h)
    rw [List.cons_append, stripControl_cons (afterControl?_of_ne (Ne.symm hc) _), ih hs,
      List.cons_append]

end Text

namespace Token

variable {source : Text} {t : Token}

theorem stripControl_toText (t : Token) : Text.stripControl t.toText
    = t.kind.name ++ ' ' :: Text.stripControl t.lexeme ++ ' ' :: Text.ofInt t.line := by
  have hline : '\x1b' ∉ ' ' :: Text.ofInt t.line := by simp [Text.escape_notMem_ofInt]
  have hfinal : ∀ c ∈ ' ' :: Text.ofInt t.line, Text.isFinal c = false :=
    List.forall_mem_cons.mpr ⟨by decide, fun _ => Text.isFinal_of_mem_ofInt⟩
  rw [toText, Text.stripControl_append hfinal,
    Text.stripControl_append_of_notMem t.kind.escape_notMem_name,
    Text.stripControl_cons (Text.afterControl?_of_ne (by decide) _),
    Text.stripControl_eq_self hline]

/-- Outside strings there are no escapes. -/
theorem escape_notMem_of_mem_scan (h : t ∈ (scan source).tokens) (hk : t.kind ≠ .string) :
    '\x1b' ∉ t.lexeme := by
  intro hmem
  rcases matches_of_mem_scan h with hm | ⟨line, rfl⟩
  · rcases Grammar.characters_of_matches hm hk _ hmem with hword | hpoint | ⟨op, _, hop⟩
    · exact absurd hword (by decide)
    · exact absurd hpoint (by decide)
    · revert hop
      cases op <;> decide
  · cases hmem

end Token

namespace Run

theorem listed_eq_flatMap (tokens : List Token) :
    listed false tokens = tokens.flatMap fun t =>
      t.kind.name ++ ' ' :: Text.stripControl t.lexeme ++ ' ' :: Text.ofInt t.line ++ ['\n'] := by
  rw [listed, if_neg Bool.false_ne_true]
  apply List.flatMap_congr
  intro t _
  rw [Token.stripControl_toText]

/-- A listing has as many line ends as it would have if nothing were left out. -/
theorem newlines_listed (tokens : List Token) : Text.newlines (listed false tokens)
    = Text.newlines (tokens.flatMap fun t => t.toText ++ ['\n']) := by
  rw [listed, if_neg Bool.false_ne_true]
  induction tokens with
  | nil => rfl
  | cons t tokens ih =>
    have hline := Text.newlines_of_strips (Text.strips_stripControl t.toText)
    simp only [List.flatMap_cons, Text.newlines_append, hline, ih]

/-- Control sequences are left out of the strings of a listing and of nothing else. A run that is to
list its tokens prints each as its kind's name, a space, its text without the control sequences that
this text has by itself, a space, its line number and a line end. It makes no difference that the
whole line is stripped, with or without its end. The text loses no line ends; it loses nothing at all
unless the token is a string, and then its quotes stay, and what stands between them is stripped by
itself. Hence a listing has as many line ends as it would have if nothing were left out. -/
theorem listing_stripped (source : Text) (verbose : Bool) (log : Log) :
    let tokens := (scan source).tokens
    let output := (perform ⟨false, verbose⟩ source log).1.on .out
    output = tokens.flatMap (fun t =>
        t.kind.name ++ ' ' :: Text.stripControl t.lexeme ++ ' ' :: Text.ofInt t.line ++ ['\n'])
      ∧ Text.newlines output = Text.newlines (tokens.flatMap fun t => t.toText ++ ['\n'])
      ∧ ∀ t ∈ tokens,
        (Write.line .out t.toText).text = t.kind.name ++ ' ' :: Text.stripControl t.lexeme
          ++ ' ' :: Text.ofInt t.line ++ ['\n']
        ∧ (Write.line .out t.toText).text = Text.stripControl (t.toText ++ ['\n'])
        ∧ (∀ shown, Text.Strips t.lexeme shown ↔ shown = Text.stripControl t.lexeme)
        ∧ Text.newlines (Text.stripControl t.lexeme) = Text.newlines t.lexeme
        ∧ (t.kind ≠ .string → Text.stripControl t.lexeme = t.lexeme)
        ∧ (t.kind = .string → ∃ body, '"' ∉ body ∧ t.lexeme = '"' :: body ++ ['"']
          ∧ Text.stripControl t.lexeme = '"' :: Text.stripControl body ++ ['"']) := by
  have hlisted : (perform ⟨false, verbose⟩ source log).1.on .out
      = listed false (scan source).tokens := on_out_perform ⟨false, verbose⟩ source log
  refine ⟨?_, ?_, fun t ht => ⟨?_, ?_, fun _ => Text.strips_iff, ?_, fun hk => ?_, fun hk => ?_⟩⟩
  · rw [hlisted, listed_eq_flatMap]
  · rw [hlisted, newlines_listed]
  · rw [Write.line, Token.stripControl_toText]
  · have hend : Text.stripControl ['\n'] = ['\n'] := Text.stripControl_eq_self (by decide)
    have hfinal : ∀ c ∈ ['\n'], Text.isFinal c = false := by simp [Text.isFinal]
    rw [Write.line, Text.stripControl_append hfinal, hend]
  · exact Text.newlines_of_strips (Text.strips_stripControl t.lexeme)
  · exact Text.stripControl_eq_self (Token.escape_notMem_of_mem_scan ht hk)
  · have hstring := Token.isString_of_mem_scan ht hk
    generalize t.lexeme = text at hstring ⊢
    obtain @⟨body, hbody⟩ := hstring
    exact ⟨body, hbody, rfl, Text.stripControl_quoted body⟩

/-- A string with a whole control sequence and, at its end, one that is not over. -/
def unfinished : Text := "\"a\x1b[0m\n\x1b[3\"".toList

theorem listing_stripped_unfinished :
    (scan unfinished).tokens = [⟨.string, unfinished, 1⟩, .endOfInput 2]
      ∧ Text.Strips unfinished "\"a\n\x1b[3\"".toList
      ∧ (perform ⟨false, true⟩ unfinished (.empty true)).1.on .out
        = "STRING \"a\n\x1b[3\" 1\nEOF  2\n".toList := by
  have hscan : (scan unfinished).tokens = [⟨.string, unfinished, 1⟩, .endOfInput 2] := by
    decide +kernel
  have hstripped : "\"a\n\x1b[3\"".toList = Text.stripControl unfinished := by decide +kernel
  obtain ⟨houtput, _, htokens⟩ := listing_stripped unfinished true (.empty true)
  rw [hscan] at houtput htokens
  obtain ⟨_, _, hstrips, _⟩ := htokens ⟨.string, unfinished, 1⟩ List.mem_cons_self
  refine ⟨hscan, (hstrips _).mpr hstripped, ?_⟩
  rw [houtput]
  decide +kernel

end Run

end LoxLexer
