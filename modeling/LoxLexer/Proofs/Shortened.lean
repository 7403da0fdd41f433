/-
  Texts whose lines end in `'\r\n'`. Where no carriage return stands alone, replacing each `'\r\n'`
  by `'\n'` is the same as dropping the carriage returns (`shortenNewlines_eq_withoutReturns`). A
  carriage return can stand between items, at the end of a comment or within a string, and never
  keeps two items apart, as a line end follows it; so the items with and without carriage returns
  correspond (`corresponds_withoutReturns`), and scanning the shortened text gives the same tokens,
  but that strings are shortened too, and the same diagnostics (`scan_shortenNewlines`).
-/
import LoxLexer.Proofs.Alike
import LoxLexer.Proofs.Listed
import LoxLexer.Proofs.Opened
import LoxLexer.Proofs.Stacked

namespace LoxLexer

/-! ## Carriage returns -/

namespace Text

variable {s t : Text}

/-- Every `'\r'` stands directly before a `'\n'`. -/
def ReturnsPaired (t : Text) : Prop := ∀ rest, '\r' :: rest <:+ t → rest.head? = some '\n'

/-- The text without its carriage returns. -/
def withoutReturns (t : Text) : Text := t.filter (· != '\r')

theorem returnsPaired_of_suffix (h : ReturnsPaired t) (hs : s <:+ t) : ReturnsPaired s :=
  fun rest hrest => h rest (hrest.trans hs)

theorem returnsPaired_of_notMem (h : '\r' ∉ t) : ReturnsPaired t :=
  fun _ hrest => absurd (hrest.subset List.mem_cons_self) h

theorem exists_newline_of_returnsPaired {rest : Text} (h : ReturnsPaired ('\r' :: rest)) :
    ∃ more, rest = '\n' :: more :=
  List.head?_eq_some_iff.mp (h rest List.suffix_rfl)

theorem returnsPaired_cons_iff {c : Char} :
    ReturnsPaired (c :: t) ↔ (c = '\r' → t.head? = some '\n') ∧ ReturnsPaired t := by
  constructor
  · intro h
    refine ⟨fun hc => h t (hc ▸ List.suffix_rfl), returnsPaired_of_suffix h (List.suffix_cons c t)⟩
  · rintro ⟨hfirst, hrest⟩ rest hsuffix
    rcases List.suffix_cons_iff.mp hsuffix with heq | hsuffix
    · obtain ⟨hc, rfl⟩ := List.cons.inj heq
      exact hfirst hc.symm
    · exact hrest rest hsuffix

instance decidableReturnsPaired : (t : Text) → Decidable (ReturnsPaired t)
  | [] => .isTrue (returnsPaired_of_notMem List.not_mem_nil)
  | _ :: t => @decidable_of_iff' _ _ returnsPaired_cons_iff
      (@instDecidableAnd _ _ _ (decidableReturnsPaired t))

theorem withoutReturns_return (t : Text) : withoutReturns ('\r' :: t) = withoutReturns t := rfl

theorem withoutReturns_cons {c : Char} (h : c ≠ '\r') (t : Text) :
    withoutReturns (c :: t) = c :: withoutReturns t :=
  List.filter_cons_of_pos (bne_iff_ne.mpr h)

theorem withoutReturns_append (s t : Text) :
    withoutReturns (s ++ t) = withoutReturns s ++ withoutReturns t :=
  List.filter_append s t

theorem withoutReturns_eq_self (h : '\r' ∉ t) : withoutReturns t = t :=
  List.filter_eq_self.mpr fun _ hc => bne_iff_ne.mpr fun he => h (he ▸ hc)

theorem mem_withoutReturns {c : Char} : c ∈ withoutReturns t ↔ c ∈ t ∧ c ≠ '\r' := by
  rw [withoutReturns, List.mem_filter, bne_iff_ne]

theorem newlines_withoutReturns (t : Text) : newlines (withoutReturns t) = newlines t :=
  List.count_filter (by decide)

theorem shortenNewlines_eq_withoutReturns (h : ReturnsPaired t) :
    shortenNewlines t = withoutReturns t := by
  fun_induction shortenNewlines t with
  | case1 rest ih =>
    have hrest : ReturnsPaired rest :=
      returnsPaired_of_suffix h ((List.suffix_cons '\n' rest).trans (List.suffix_cons '\r' _))
    rw [withoutReturns_return, withoutReturns_cons (by decide), ih hrest]
  | case2 c rest hpair ih =>
    have hc : c ≠ '\r' := by
      rintro rfl
      obtain ⟨more, rfl⟩ := exists_newline_of_returnsPaired h
      exact hpair more rfl rfl
    rw [withoutReturns_cons hc, ih (returnsPaired_of_suffix h (List.suffix_cons c rest))]
  | case3 => rfl

/-- Where no `'\r'` stands alone, there is nothing more to replace than each `'\r\n'`. -/
theorem unifyNewlines_eq_shortenNewlines (h : ReturnsPaired t) :
    unifyNewlines t = shortenNewlines t := by
  have hkeep : ∀ c ∈ shortenNewlines t, (if c = '\r' then '\n' else c) = id c := by
    intro c hc
    rw [shortenNewlines_eq_withoutReturns h] at hc
    exact if_neg (mem_withoutReturns.mp hc).2
  rw [unifyNewlines_eq_map, List.map_congr_left hkeep, List.map_id]

/-- Two characters ahead, a carriage return makes no difference but for a blank. -/
theorem looksLike_withoutReturns (h : ReturnsPaired t) : LooksLike t (withoutReturns t) := by
  have hnext : ∀ {u : Text}, ReturnsPaired u →
      (withoutReturns u).BeginsBlank ∨ ∃ c more, u = c :: more ∧ c ≠ '\r' := by
    intro u hu
    cases u with
    | nil => exact Or.inl beginsBlank_nil
    | cons c more =>
      by_cases hc : c = '\r'
      · subst hc
        obtain ⟨more, rfl⟩ := exists_newline_of_returnsPaired hu
        rw [withoutReturns_return, withoutReturns_cons (by decide)]
        exact Or.inl (beginsBlank_cons (by decide) _)
      · exact Or.inr ⟨c, more, rfl, hc⟩
  rcases hnext h with hblank | ⟨c, u, rfl, hc⟩
  · exact .blank hblank
  · rw [withoutReturns_cons hc]
    refine .cons c ?_
    rcases hnext (returnsPaired_of_suffix h (List.suffix_cons c u)) with
      hblank | ⟨d, v, rfl, hd⟩
    · exact Or.inl hblank
    · rw [withoutReturns_cons hd]
      exact Or.inr rfl

end Text

/-! ## Items without carriage returns -/

namespace Grammar

variable {kind : TokenKind} {text after : Text}

theorem return_notMem_of_isBare (h : IsBare text) : '\r' ∉ text :=
  fun hr => absurd (h _ hr).2 (by decide)

theorem withoutReturns_of_isBare (h : IsBare text) : Text.withoutReturns text = text :=
  Text.withoutReturns_eq_self (return_notMem_of_isBare h)

theorem isString_withoutReturns (h : IsString text) : IsString (Text.withoutReturns text) := by
  obtain @⟨body, hbody⟩ := h
  have hquote : Text.withoutReturns ['"'] = ['"'] := by decide
  rw [Text.withoutReturns_append, hquote, Text.withoutReturns_cons (by decide)]
  exact .intro fun hmem => hbody (Text.mem_withoutReturns.mp hmem).1

/-- A token without its carriage returns is a token of the same kind. -/
theorem matches_withoutReturns (hm : Matches (.token kind) text) :
    Matches (.token kind) (Text.withoutReturns text) := by
  by_cases hk : kind = .string
  · subst hk
    exact .string (isString_withoutReturns (isString_of_matches hm))
  · rwa [withoutReturns_of_isBare (isBare_of_matches hm hk)]

theorem isComment_withoutReturns (h : IsComment text) : IsComment (Text.withoutReturns text) := by
  obtain @⟨line, hline⟩ := h
  rw [Text.withoutReturns_cons (by decide), Text.withoutReturns_cons (by decide)]
  exact .intro fun hmem => hline (Text.mem_withoutReturns.mp hmem).1

theorem settled_withoutReturns (h : after.ReturnsPaired) (hs : Settled (.token kind) text after) :
    Settled (.token kind) (Text.withoutReturns text) (Text.withoutReturns after) :=
  settled_of_looksLike hs (Text.looksLike_withoutReturns h)
    fun hdot => Text.mem_withoutReturns.mpr ⟨hdot, by decide⟩

/-- Behind a comment stands the end of its line, which is no carriage return. -/
theorem settled_comment_withoutReturns {line : Text} (hs : Settled .comment text after) :
    Settled .comment line (Text.withoutReturns after) := by
  cases after with
  | nil => exact hs
  | cons c rest =>
    obtain rfl : c = '\n' := hs c rfl
    exact settled_newline .comment line (Text.withoutReturns rest)

/-- A `'\r'` in a token is within a string, with its `'\n'`. -/
theorem returnsPaired_of_token (hm : Matches (.token kind) text)
    (h : (text ++ after).ReturnsPaired) : text.ReturnsPaired := by
  intro rest hrest
  have hhead := h (rest ++ after) (by
    obtain ⟨front, rfl⟩ := hrest
    exact ⟨front, by simp⟩)
  rcases isString_or_isBare_of_matches hm with hstring | hbare
  · obtain @⟨body, _⟩ := hstring
    -- the quote at the end stands behind the carriage return
    cases rest with
    | nil =>
      obtain ⟨front, heq⟩ := hrest
      have hlast := (List.append_inj_right' heq rfl)
      cases hlast
    | cons c rest => exact hhead
  · exact absurd (hrest.subset List.mem_cons_self) (return_notMem_of_isBare hbare)

end Grammar

namespace Item

open Grammar (Matches Settled)

/-- The items of a text correspond to those of the text without its carriage returns. -/
theorem corresponds_withoutReturns {t : Text} (h : t.ReturnsPaired) :
    Corresponds Text.shortenNewlines (items t) (items t.withoutReturns) := by
  induction t using Grammar.text_induction with
  | nil =>
    have hnil : Text.withoutReturns [] = [] := rfl
    rw [hnil, items_nil]
    exact .nil
  | @settled shape text after hm hs ih =>
    have hafter := Text.returnsPaired_of_suffix h (List.suffix_append text after)
    have hlines := Text.newlines_withoutReturns text
    rw [Rendering.items_of_settled hm hs, Text.withoutReturns_append]
    cases shape with
    | token kind =>
      have htext := Text.shortenNewlines_eq_withoutReturns (Grammar.returnsPaired_of_token hm h)
      rw [Rendering.items_of_settled (Grammar.matches_withoutReturns hm)
        (Grammar.settled_withoutReturns hafter hs)]
      exact .kept ⟨rfl, hlines, fun _ => htext.symm⟩ (ih hafter)
    | comment =>
      cases hm with
      | comment hline =>
        rw [Rendering.items_of_settled (.comment (Grammar.isComment_withoutReturns hline))
          (Grammar.settled_comment_withoutReturns hs)]
        exact .kept ⟨rfl, hlines, fun ⟨_, hx⟩ => nomatch hx⟩ (ih hafter)
    | blank =>
      cases hm with
      | @blank c hc =>
        by_cases hreturn : c = '\r'
        · subst hreturn
          exact .dropped (Or.inl rfl) (by decide) (ih hafter)
        · rw [Text.withoutReturns_cons hreturn, List.cons_append, Rendering.items_of_blank hc]
          exact .kept ⟨rfl, rfl, fun ⟨_, hx⟩ => nomatch hx⟩ (ih hafter)
    | fault f => cases hm
  | @unclosed rest hopen =>
    have hopen' : '"' ∉ Text.withoutReturns rest :=
      fun hmem => hopen (Text.mem_withoutReturns.mp hmem).1
    have hlines := Text.newlines_withoutReturns ('"' :: rest)
    rw [Text.withoutReturns_cons (by decide)] at hlines ⊢
    rw [Grammar.items_of_unclosed hopen, Grammar.items_of_unclosed hopen']
    exact .kept ⟨rfl, hlines, fun ⟨_, hx⟩ => nomatch hx⟩ .nil
  | @stray c rest hstray ih =>
    have hc : c ≠ '\r' := by
      rintro rfl
      exact absurd hstray.2.1 (by decide)
    rw [Text.withoutReturns_cons hc, Grammar.items_of_stray hstray, Grammar.items_of_stray hstray]
    exact .kept ⟨rfl, rfl, fun ⟨_, hx⟩ => nomatch hx⟩
      (ih (Text.returnsPaired_of_suffix h (List.suffix_cons c rest)))

end Item

/-! ## Scans -/

/-- A text in which every `'\r'` stands directly before a `'\n'` scans like the text with each
`'\r\n'` replaced by `'\n'`: the same tokens, each of the same kind and on the same line, with the
same replacement made in its text, which changes strings alone; and the same diagnostics. A file
with this text is read as the replaced one, and its run has the exit status that the run of the
text itself would have. -/
theorem scan_shortenNewlines {source : Text} (h : source.ReturnsPaired) :
    scan source.shortenNewlines
        = ⟨(scan source).tokens.map fun t => { t with lexeme := t.lexeme.shortenNewlines },
            (scan source).diagnostics⟩
      ∧ (∀ t ∈ (scan source).tokens, t.kind ≠ .string → t.lexeme.shortenNewlines = t.lexeme)
      ∧ ∀ flags, ∃ outcome, Script.runFound flags (.ok (.file (Utf8.encode source))) = .ok outcome
          ∧ outcome = Script.run flags source.shortenNewlines
          ∧ outcome.status = (Script.run flags source).status := by
  have hitems := Item.corresponds_withoutReturns h
  rw [← Text.shortenNewlines_eq_withoutReturns h] at hitems
  have hscan := scan_of_corresponds (by rfl) hitems
  refine ⟨hscan, fun t ht hk => ?_, fun flags => ?_⟩
  · have hreturn := Grammar.return_notMem_of_isBare (Token.isBare_of_mem_scan ht hk)
    rw [Text.shortenNewlines_eq_withoutReturns (Text.returnsPaired_of_notMem hreturn),
      Text.withoutReturns_eq_self hreturn]
  · have hread : Script.read (Utf8.encode source) = .ok source.shortenNewlines :=
      Script.read_eq_ok_iff.mpr ⟨source, rfl, (Text.unifyNewlines_eq_shortenNewlines h).symm⟩
    refine ⟨_, ?_, rfl, ?_⟩
    · rw [Script.runFound, Script.openAt, hread]
      rfl
    · rw [Script.status_run, Script.status_run, hscan]

/-- A number with a point behind it at the end of a line, a string over two lines, an unexpected
character, a comment, and a string that is left open. -/
theorem scan_shortenNewlines_returns :
    Text.ReturnsPaired "1.\r\n\"a\r\nb\" @// c\r\n\"x\r\n".toList
      ∧ scan "1.\n\"a\nb\" @// c\n\"x\n".toList
        = ⟨[⟨.number, ['1'], 1⟩, ⟨.operator .dot, ['.'], 1⟩, ⟨.string, "\"a\nb\"".toList, 2⟩,
            .endOfInput 5],
          [.ofFault 3 .unexpectedCharacter, .ofFault 5 .unterminatedString]⟩ := by
  have hpaired : Text.ReturnsPaired "1.\r\n\"a\r\nb\" @// c\r\n\"x\r\n".toList := by decide
  have hsource : scan "1.\r\n\"a\r\nb\" @// c\r\n\"x\r\n".toList
      = ⟨[⟨.number, ['1'], 1⟩, ⟨.operator .dot, ['.'], 1⟩,
            ⟨.string, "\"a\r\nb\"".toList, 2⟩, .endOfInput 5],
          [.ofFault 3 .unexpectedCharacter, .ofFault 5 .unterminatedString]⟩ := by decide +kernel
  refine ⟨hpaired, ?_⟩
  obtain ⟨hscan, _⟩ := scan_shortenNewlines hpaired
  rw [hsource] at hscan
  exact hscan

end LoxLexer
