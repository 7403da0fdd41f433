/-
  Printed tokens can be told apart. A string's text is free in all but the quotes, so the lines of
  a listing need not be tokens; but a token's text either stands in quotes, with no quote between
  them, or holds neither quotes nor blanks (`isString_or_isBare_of_matches`), and this is enough to
  find its end (`readToken_toText`). Printing drops control sequences, and a text without escapes
  has none. So two such texts with the same listing have the same tokens (`listing_unambiguous`).
-/
import LoxLexer.Proofs.Printed
import LoxLexer.Token.Reader

namespace LoxLexer

/-! ## Texts of tokens -/

namespace Grammar

/-- Neither quotes nor blanks. -/
def IsBare (t : Text) : Prop := ∀ c ∈ t, c ≠ '"' ∧ Item.isBlank c = false

variable {t : Text}

theorem bare_of_isWordChar {c : Char} (h : Item.isWordChar c = true) :
    c ≠ '"' ∧ Item.isBlank c = false := by
  simp only [Item.isWordChar, Bool.or_eq_true, beq_iff_eq] at h
  rcases h with (hletter | hdigit) | rfl
  · obtain ⟨_, hblank, hquote, _⟩ := Item.classes_of_isLetter hletter
    exact ⟨hquote, hblank⟩
  · obtain ⟨_, hblank, hquote, _⟩ := Item.classes_of_isDigit hdigit
    exact ⟨hquote, hblank⟩
  · decide

theorem isBare_spelling (op : Operator) : IsBare op.spelling := by
  have hall : op.spelling.all (fun c => c != '"' && !Item.isBlank c) = true := by
    cases op <;> decide
  intro c hc
  simpa using List.all_eq_true.mp hall c hc

theorem isWordChar_of_isDigits (h : IsDigits t) : ∀ c ∈ t, Item.isWordChar c = true := by
  intro c hc
  simp [Item.isWordChar, h.2 c hc]

theorem isWordChar_of_isWord (h : IsWord t) : ∀ c ∈ t, Item.isWordChar c = true := by
  obtain @⟨c, t, hc, ht⟩ := h
  have hword : Item.isWordChar c = true := by simp [Item.isWordChar, hc]
  exact List.forall_mem_cons.mpr ⟨hword, ht⟩

theorem isString_of_matches (h : Matches (.token .string) t) : IsString t := by
  cases h with
  | string h => exact h

/-- What a token that is no string is written with. -/
theorem characters_of_matches {kind : TokenKind} (h : Matches (.token kind) t)
    (hk : kind ≠ .string) : ∀ c ∈ t, Item.isWordChar c = true ∨ c = '.'
      ∨ ∃ op, kind = .operator op ∧ c ∈ op.spelling := by
  intro c hc
  cases h with
  | operator op => exact Or.inr (Or.inr ⟨op, rfl, hc⟩)
  | number h =>
    cases h with
    | whole h => exact Or.inl (isWordChar_of_isDigits h c hc)
    | decimal hs ht =>
      rcases List.mem_append.mp hc with hc | hc
      · exact Or.inl (isWordChar_of_isDigits hs c hc)
      · rcases List.mem_cons.mp hc with rfl | hc
        · exact Or.inr (Or.inl rfl)
        · exact Or.inl (isWordChar_of_isDigits ht c hc)
  | keyword k => exact Or.inl (isWordChar_of_isWord (isWord_spelling k) c hc)
  | identifier h _ => exact Or.inl (isWordChar_of_isWord h c hc)
  | string _ => exact absurd rfl hk

/-- Only strings hold quotes or blanks. -/
theorem isBare_of_matches {kind : TokenKind} (h : Matches (.token kind) t) (hk : kind ≠ .string) :
    IsBare t := by
  intro c hc
  rcases characters_of_matches h hk c hc with hword | rfl | ⟨op, _, hop⟩
  · exact bare_of_isWordChar hword
  · decide
  · exact isBare_spelling op c hop

/-- A token's text stands in quotes, or holds neither quotes nor blanks. -/
theorem isString_or_isBare_of_matches {kind : TokenKind} (h : Matches (.token kind) t) :
    IsString t ∨ IsBare t := by
  by_cases hk : kind = .string
  · subst hk
    exact Or.inl (isString_of_matches h)
  · exact Or.inr (isBare_of_matches h hk)

end Grammar

/-- What every token of a scan is like, and what it takes to read it back. -/
structure Token.Legible (t : Token) : Prop where
  lexeme : Grammar.IsString t.lexeme ∨ Grammar.IsBare t.lexeme
  line : 0 ≤ t.line

/-- The tokens of a text are its items of that sort, and the end of the input. -/
theorem exists_item_of_mem_tokens {source : Text} {t : Token} (h : t ∈ (scan source).tokens) :
    (∃ (kind : TokenKind) (text : Text) (line : Nat),
      t = ⟨kind, text, line⟩ ∧ ⟨.token kind, text⟩ ∈ Item.items source)
      ∨ ∃ line : Nat, t = .endOfInput line := by
  rw [scan_tokens, List.mem_append, List.mem_singleton] at h
  refine h.imp (fun h => ?_) fun h => ⟨_, h⟩
  obtain ⟨⟨before, shape, text⟩, hp, htoken⟩ := List.mem_filterMap.mp h
  cases shape with
  | token kind =>
    exact ⟨kind, text, _, (Option.some.inj htoken).symm, Placed.item_mem_of_mem_ofItems hp⟩
  | _ => cases htoken

/-- Each token of a scan is one by the rules, or the end of the input. -/
theorem Token.matches_of_mem_scan {source : Text} {t : Token} (h : t ∈ (scan source).tokens) :
    Grammar.Matches (.token t.kind) t.lexeme ∨ ∃ line : Nat, t = .endOfInput line := by
  refine (exists_item_of_mem_tokens h).imp_left ?_
  rintro ⟨kind, text, line, rfl, hitem⟩
  rcases Grammar.matches_or_fault_of_mem_items hitem with hm | ⟨f, hf⟩
  · exact hm
  · cases hf

theorem Token.isString_of_mem_scan {source : Text} {t : Token} (h : t ∈ (scan source).tokens)
    (hk : t.kind = .string) : Grammar.IsString t.lexeme := by
  rcases matches_of_mem_scan h with hm | ⟨line, rfl⟩
  · rw [hk] at hm
    exact Grammar.isString_of_matches hm
  · cases hk

theorem Token.isBare_of_mem_scan {source : Text} {t : Token} (h : t ∈ (scan source).tokens)
    (hk : t.kind ≠ .string) : Grammar.IsBare t.lexeme := by
  rcases matches_of_mem_scan h with hm | ⟨line, rfl⟩
  · exact Grammar.isBare_of_matches hm hk
  · exact fun c hc => absurd hc List.not_mem_nil

theorem Token.line_nonneg_of_mem_scan {source : Text} {t : Token}
    (h : t ∈ (scan source).tokens) : 0 ≤ t.line := by
  rcases exists_item_of_mem_tokens h with ⟨kind, text, line, rfl, _⟩ | ⟨line, rfl⟩
  · exact Int.natCast_nonneg line
  · exact Int.natCast_nonneg line

theorem Token.legible_of_mem_scan {source : Text} {t : Token} (h : t ∈ (scan source).tokens) :
    t.Legible := by
  refine ⟨?_, line_nonneg_of_mem_scan h⟩
  by_cases hk : t.kind = .string
  · exact Or.inl (isString_of_mem_scan h hk)
  · exact Or.inr (isBare_of_mem_scan h hk)

/-- The text of a token is part of the text scanned. -/
theorem Token.mem_of_mem_lexeme {source : Text} {t : Token} (h : t ∈ (scan source).tokens)
    {c : Char} (hc : c ∈ t.lexeme) : c ∈ source := by
  rcases exists_item_of_mem_tokens h with ⟨kind, text, line, rfl, hitem⟩ | ⟨line, rfl⟩
  · rw [← Item.flatten_items source]
    exact List.mem_flatten.mpr ⟨text, List.mem_map.mpr ⟨_, hitem, rfl⟩, hc⟩
  · cases hc

/-! ## One token -/

namespace TokenKind

theorem plain_name (kind : TokenKind) : ∀ c ∈ kind.name, c ≠ ' ' ∧ c ≠ '\x1b' := by
  have hall : (all.all fun k => k.name.all fun c => c != ' ' && c != '\x1b') = true := by decide
  have hkind := List.all_eq_true.mp hall kind kind.mem_all
  intro c hc
  simpa using List.all_eq_true.mp hkind c hc

theorem escape_notMem_name (kind : TokenKind) : '\x1b' ∉ kind.name :=
  fun hc => (kind.plain_name _ hc).2 rfl

end TokenKind

namespace Token

variable {t : Token}

/-- A token's text ends where its shape says. -/
theorem readLexeme_append {text : Text} (h : Grammar.IsString text ∨ Grammar.IsBare text)
    (rest : Text) : readLexeme (text ++ ' ' :: rest) = (text, ' ' :: rest) := by
  rcases h with h | h
  · obtain @⟨body, hbody⟩ := h
    have hrun := Text.forall_ne_of_notMem hbody
    have hstop : ∀ d ∈ ('"' :: ' ' :: rest).head?, (d != '"') = false := by simp
    have htext : ('"' :: body ++ ['"']) ++ ' ' :: rest = '"' :: (body ++ '"' :: ' ' :: rest) := by
      simp
    rw [htext, readLexeme, Text.takeWhile_run hrun hstop, Text.dropWhile_run hrun hstop]
    rfl
  · have hrun : ∀ c ∈ text, (c != ' ') = true := by
      intro c hc
      rw [bne_iff_ne]
      rintro rfl
      exact absurd (h ' ' hc).2 (by decide)
    have hstop : ∀ d ∈ (' ' :: rest).head?, (d != ' ') = false := by simp
    have hfirst : ∀ after, text ++ ' ' :: rest ≠ '"' :: after := by
      intro after he
      have hmem : '"' ∈ text := by
        cases text with
        | nil => simp at he
        | cons c text => simp_all
      exact (h '"' hmem).1 rfl
    unfold readLexeme
    split
    · rename_i after he
      exact absurd he (hfirst after)
    · rw [Text.takeWhile_run hrun hstop, Text.dropWhile_run hrun hstop]

/-- A printed token is read back, whatever follows it. -/
theorem readToken_toText (h : t.Legible) (rest : Text) :
    readToken (t.toText ++ '\n' :: rest) = some (t, rest) := by
  obtain ⟨line, hline⟩ := Int.eq_ofNat_of_zero_le h.line
  have hname : ∀ c ∈ t.kind.name, (c != ' ') = true :=
    fun c hc => bne_iff_ne.mpr (t.kind.plain_name c hc).1
  have hdigits : ∀ c ∈ Text.ofNat line, c.isDigit = true := fun _ => Text.isDigit_of_mem_ofNat
  have hspace : ∀ c ∈ (' ' :: (t.lexeme ++ ' ' :: (Text.ofNat line ++ '\n' :: rest))).head?,
      (c != ' ') = false := by simp
  have hend : ∀ c ∈ ('\n' :: rest).head?, c.isDigit = false := by
    intro c hc
    obtain rfl := Option.some.inj hc
    decide
  have htext : t.toText ++ '\n' :: rest
      = t.kind.name ++ ' ' :: (t.lexeme ++ ' ' :: (Text.ofNat line ++ '\n' :: rest)) := by
    unfold toText
    rw [hline, Text.ofInt_natCast]
    simp
  rw [htext, readToken, Text.takeWhile_run hname hspace, Text.dropWhile_run hname hspace,
    TokenKind.ofName?_name]
  simp only [List.drop_one, List.tail_cons, readLexeme_append h.lexeme,
    Text.takeWhile_run hdigits hend, Text.dropWhile_run hdigits hend, Text.valueOfDigits_ofNat,
    Option.map_some, ← hline]

/-! ## All tokens -/

/-- Printed tokens are read back, one after the other. -/
theorem readAll_flatMap {tokens : List Token} (h : ∀ t ∈ tokens, t.Legible) :
    readAll (tokens.flatMap fun t => t.toText ++ ['\n']) = some tokens := by
  induction tokens with
  | nil => exact readAll_nil
  | cons t tokens ih =>
    obtain ⟨ht, htokens⟩ := List.forall_mem_cons.mp h
    have hne : t.toText ++ '\n' :: tokens.flatMap (fun t => t.toText ++ ['\n']) ≠ [] := by simp
    rw [List.flatMap_cons, List.append_assoc, List.singleton_append,
      readAll_of_readToken hne (readToken_toText ht _), ih htokens]
    rfl

/-- A token of a text without escapes is printed as it is. -/
theorem stripControl_toText_of_mem_scan {source : Text} (hsource : '\x1b' ∉ source)
    (h : t ∈ (scan source).tokens) : Text.stripControl t.toText = t.toText := by
  apply Text.stripControl_eq_self
  have hname := t.kind.escape_notMem_name
  have hlexeme : '\x1b' ∉ t.lexeme := fun hc => hsource (mem_of_mem_lexeme h hc)
  have hline := Text.escape_notMem_ofInt t.line
  unfold toText
  simp [hname, hlexeme, hline]

end Token

namespace Run

/-- What is put out of a text without escapes, unless it is to be a dump. -/
theorem listed_of_notMem {source : Text} (h : '\x1b' ∉ source) :
    listed false (scan source).tokens
      = (scan source).tokens.flatMap fun t => t.toText ++ ['\n'] := by
  rw [listed, if_neg Bool.false_ne_true]
  apply List.flatMap_congr
  intro t ht
  rw [Token.stripControl_toText_of_mem_scan h ht]

theorem readAll_on_out_perform {source : Text} (h : '\x1b' ∉ source) (verbose : Bool) (log : Log) :
    Token.readAll ((perform ⟨false, verbose⟩ source log).1.on .out)
      = some (scan source).tokens := by
  rw [on_out_perform, listed_of_notMem h]
  exact Token.readAll_flatMap fun _ => Token.legible_of_mem_scan

/-- The tokens of a text without escapes can be read back from what its run puts out, though the
strings among them may hold line ends and what looks like other tokens. So another text without
escapes whose run puts out the same has the same tokens, kinds, texts and lines alike. -/
theorem listing_unambiguous {source : Text} (h : '\x1b' ∉ source) (verbose : Bool) (log : Log) :
    let output := (perform ⟨false, verbose⟩ source log).1.on .out
    Token.readAll output = some (scan source).tokens
      ∧ ∀ other verbose' log', '\x1b' ∉ other →
        (perform ⟨false, verbose'⟩ other log').1.on .out = output →
        (scan other).tokens = (scan source).tokens := by
  have hread := readAll_on_out_perform h verbose log
  refine ⟨hread, fun other verbose' log' hother heq => ?_⟩
  have hreadOther := readAll_on_out_perform hother verbose' log'
  rw [heq, hread] at hreadOther
  exact (Option.some.inj hreadOther).symm

/-- A string that holds a line end and a forged end of the input. -/
def forged : Text := "\"\nEOF  2\n\"".toList

theorem listing_unambiguous_forged :
    '\x1b' ∉ forged
      ∧ (perform ⟨false, false⟩ forged (.empty true)).1.on .out
        = "STRING \"\nEOF  2\n\" 1\nEOF  3\n".toList
      ∧ Token.readAll "STRING \"\nEOF  2\n\" 1\nEOF  3\n".toList
        = some [⟨.string, forged, 1⟩, .endOfInput 3] := by
  have hsource : '\x1b' ∉ forged := by decide
  have hscan : (scan forged).tokens = [⟨.string, forged, 1⟩, .endOfInput 3] := by decide +kernel
  have houtput : (perform ⟨false, false⟩ forged (.empty true)).1.on .out
      = "STRING \"\nEOF  2\n\" 1\nEOF  3\n".toList := by
    rw [on_out_perform, listed_of_notMem hsource, hscan]
    decide
  obtain ⟨hread, _⟩ := listing_unambiguous hsource false (.empty true)
  rw [houtput, hscan] at hread
  exact ⟨hsource, houtput, hread⟩

/- With escapes it is otherwise: these two texts have the same listing. -/
example : listed false (scan "\"\x1b[0m\"".toList).tokens
    = listed false (scan "\"\"".toList).tokens := by
  decide +kernel

end Run

end LoxLexer
