/-
  Texts one below the other. A line end settles whatever stands before it (`settled_newline`), so
  putting more text below a text changes none of its items, unless the last is a string that goes
  on into the lines below (`items_append_line`). What stands below a text is scanned as if it stood
  alone, only further down (`tokens_behind`, `diagnostics_behind`). Together: the scan of two texts
  of which one stands below the other is made up of their own scans (`scan_append_line`).
-/
import LoxLexer.Proofs.Rendered

namespace LoxLexer

/-! ## Further down -/

/-- The token with `n` more lines above it. -/
def Token.below (n : Nat) (t : Token) : Token := { t with line := t.line + n }

/-- The diagnostic with `n` more lines above it. -/
def Diagnostic.below (n : Nat) (d : Diagnostic) : Diagnostic := { d with line := d.line + n }

namespace Placed

/-- The item with more text before it. -/
def behind (before : Text) (p : Placed) : Placed := ⟨before ++ p.before, p.item⟩

theorem ofItems_behind (before more : Text) (items : List Item) :
    ofItems (before ++ more) items = (ofItems more items).map (behind before) := by
  induction items generalizing more with
  | nil => rfl
  | cons item items ih =>
    rw [ofItems, ofItems, List.append_assoc, ih]
    rfl

theorem line_behind (before : Text) (p : Placed) :
    (behind before p).line = p.line + Text.newlines before := by
  have happend := Text.newlines_append before p.before
  simp only [line, behind]
  omega

theorem token?_behind (before : Text) (p : Placed) :
    (behind before p).token? = p.token?.map (.below (Text.newlines before)) := by
  have hitem : (behind before p).item = p.item := rfl
  cases hs : p.item.shape with
  | token kind => simp [token?, hitem, hs, line_behind, Token.below]
  | _ => simp [token?, hitem, hs]

theorem diagnostic?_behind (before : Text) (p : Placed) :
    (behind before p).diagnostic? = p.diagnostic?.map (.below (Text.newlines before)) := by
  have hitem : (behind before p).item = p.item := rfl
  cases hs : p.item.shape with
  | fault f =>
    cases f with
    | unexpectedCharacter =>
      simp [diagnostic?, hitem, hs, line_behind, Diagnostic.below, Diagnostic.ofFault]
    | unterminatedString =>
      have hend : Text.newlines ((behind before p).before ++ p.item.text)
          = Text.newlines (p.before ++ p.item.text) + Text.newlines before := by
        rw [behind, List.append_assoc, Text.newlines_append, Nat.add_comm]
      simp only [diagnostic?, hitem, hs, hend, Option.map_some, Diagnostic.below,
        Diagnostic.ofFault, ← Nat.add_assoc, Int.natCast_add]
  | _ => simp [diagnostic?, hitem, hs]

theorem tokens_behind (before : Text) (items : List Item) :
    tokens before items = (tokens [] items).map (.below (Text.newlines before)) := by
  have hitems := ofItems_behind before [] items
  rw [List.append_nil] at hitems
  rw [tokens, hitems, List.filterMap_map, tokens, List.map_filterMap]
  exact List.filterMap_congr fun p _ => token?_behind before p

theorem diagnostics_behind (before : Text) (items : List Item) :
    diagnostics before items = (diagnostics [] items).map (.below (Text.newlines before)) := by
  have hitems := ofItems_behind before [] items
  rw [List.append_nil] at hitems
  rw [diagnostics, hitems, List.filterMap_map, diagnostics, List.map_filterMap]
  exact List.filterMap_congr fun p _ => diagnostic?_behind before p

theorem exists_ofItems_of_mem {items : List Item} {item : Item} (h : item ∈ items) (before : Text) :
    ∃ p ∈ ofItems before items, p.item = item := by
  induction items generalizing before with
  | nil => cases h
  | cons first items ih =>
    rcases List.mem_cons.mp h with rfl | h
    · exact ⟨_, List.mem_cons_self, rfl⟩
    · obtain ⟨p, hp, hitem⟩ := ih h (before ++ first.text)
      exact ⟨p, List.mem_cons_of_mem _ hp, hitem⟩

/-- A fault among the items is reported. -/
theorem exists_diagnostic_of_fault {items : List Item} {item : Item} {f : Fault}
    (h : item ∈ items) (hs : item.shape = .fault f) (before : Text) :
    ∃ d ∈ diagnostics before items, d.fault = some f := by
  obtain ⟨p, hp, rfl⟩ := exists_ofItems_of_mem h before
  have hsome : ∃ d, p.diagnostic? = some d ∧ d.fault = some f := by
    cases f <;> exact ⟨_, by rw [diagnostic?, hs], rfl⟩
  obtain ⟨d, hd, hfault⟩ := hsome
  exact ⟨d, List.mem_filterMap.mpr ⟨p, hp, hd⟩, hfault⟩

end Placed

/-! ## Line ends -/

namespace Grammar

variable {shape : Shape} {text after : Text}

/-- A line end settles whatever stands before it. -/
theorem settled_newline (shape : Shape) (text rest : Text) : Settled shape text ('\n' :: rest) := by
  have hword : ∀ c ∈ ('\n' :: rest).head?, Item.isWordChar c = false := by
    intro c hc
    obtain rfl := Option.some.inj hc
    decide
  cases shape with
  | token kind =>
    cases kind with
    | operator op => simp [Settled, Rendering.MayFollow]
    | identifier => exact hword
    | keyword k => exact hword
    | number => simp [Settled, Rendering.MayFollow]
    | string => trivial
    | endOfInput => trivial
  | comment =>
    intro c hc
    exact (Option.some.inj hc).symm
  | blank => trivial
  | fault f => trivial

/-- What is settled stays so when more lines are put below the text behind it. -/
theorem settled_append_line (h : Settled shape text after) (rest : Text) :
    Settled shape text (after ++ '\n' :: rest) := by
  cases after with
  | nil => exact settled_newline shape text rest
  | cons c more =>
    have hhead : (c :: more ++ '\n' :: rest).head? = (c :: more).head? := rfl
    cases shape with
    | token kind =>
      cases kind with
      | number =>
        refine ⟨fun d hd => h.1 d (hhead ▸ hd), fun hdot d after heq => ?_⟩
        -- a point at the end of the upper text has the line end behind it, which is no digit
        cases more with
        | nil =>
          obtain rfl : '\n' = d := (List.cons.inj (List.cons.inj heq).2).1
          decide
        | cons e more =>
          obtain ⟨rfl, hrest⟩ := List.cons.inj heq
          obtain ⟨rfl, _⟩ := List.cons.inj hrest
          exact h.2 hdot e more rfl
      | _ => exact h
    | _ => exact h

end Grammar

namespace Item

theorem cut_append_line {c : Char} {rest : Text}
    (h : (cut c rest).1.shape ≠ .fault .unterminatedString) (more : Text) :
    cut c (rest ++ '\n' :: more) = ((cut c rest).1, (cut c rest).2 ++ '\n' :: more) := by
  rcases Grammar.first_cases_settled c rest with
    ⟨shape, text, after, heq, hm, hs⟩ | ⟨rfl, hopen⟩ | hstray
  · obtain ⟨d, text, rfl⟩ := List.exists_cons_of_ne_nil (Grammar.ne_nil_of_matches hm)
    obtain ⟨rfl, rfl⟩ := List.cons.inj heq
    have hbelow := Grammar.settled_append_line hs more
    rw [List.append_eq, List.append_assoc, Grammar.cut_of_settled hm hbelow,
      Grammar.cut_of_settled hm hs]
  · rw [cut_of_quote, cutString_open hopen] at h
    exact absurd rfl h
  · rw [cut_of_stray hstray, cut_of_stray hstray]

/-- More lines below a text change none of its items, unless a string goes on into them. -/
theorem items_append_line {t : Text}
    (h : ∀ item ∈ items t, item.shape ≠ .fault .unterminatedString) (more : Text) :
    items (t ++ '\n' :: more) = items t ++ ⟨.blank, ['\n']⟩ :: items more := by
  fun_induction items t with
  | case1 => exact Rendering.items_of_blank rfl more
  | case2 c rest ih =>
    obtain ⟨hfirst, hothers⟩ := List.forall_mem_cons.mp h
    rw [List.cons_append, items_cons, cut_append_line hfirst, ih hothers]
    rfl

end Item

/-! ## Scans -/

theorem Text.newlines_concat (t : Text) : newlines (t ++ ['\n']) = newlines t + 1 :=
  newlines_append t ['\n']

namespace Placed

variable {upper : Text}

theorem tokens_append_line
    (h : ∀ item ∈ Item.items upper, item.shape ≠ .fault .unterminatedString) (lower : Text) :
    tokens [] (Item.items (upper ++ '\n' :: lower))
      = tokens [] (Item.items upper)
        ++ (tokens [] (Item.items lower)).map (.below (Text.newlines upper + 1)) := by
  rw [Item.items_append_line h, tokens_append, tokens_cons, Item.textOf_items, List.nil_append,
    tokens_behind (upper ++ ['\n']), Text.newlines_concat]
  rfl

theorem diagnostics_append_line
    (h : ∀ item ∈ Item.items upper, item.shape ≠ .fault .unterminatedString) (lower : Text) :
    diagnostics [] (Item.items (upper ++ '\n' :: lower))
      = diagnostics [] (Item.items upper)
        ++ (diagnostics [] (Item.items lower)).map (.below (Text.newlines upper + 1)) := by
  rw [Item.items_append_line h, diagnostics_append, diagnostics_cons, Item.textOf_items,
    List.nil_append, diagnostics_behind (upper ++ ['\n']), Text.newlines_concat]
  rfl

end Placed

/-- The end of a text with more lines above it is the end of the whole. -/
theorem endOfInput_below (upper lower : Text) :
    (Token.endOfInput (1 + Text.newlines lower : Nat)).below (Text.newlines upper + 1)
      = .endOfInput (1 + Text.newlines (upper ++ '\n' :: lower) : Nat) := by
  have hlines : Text.newlines (upper ++ '\n' :: lower)
      = Text.newlines upper + (1 + Text.newlines lower) := by
    rw [Text.newlines_append, Text.newlines_cons, if_pos rfl]
  simp only [Token.below, Token.endOfInput, Token.mk.injEq, true_and]
  omega

/-- The scan of two texts of which one stands below the other is made up of their own scans: the
tokens of the upper one but for the end of its input, and then those of the lower one, as many
lines further down as the upper one has; and likewise the diagnostics. Only a string that the
upper one leaves open would go on into the lower one. -/
theorem scan_append_line {upper : Text}
    (h : ∀ d ∈ (scan upper).diagnostics, d.fault ≠ some .unterminatedString) (lower : Text) :
    ∃ front, (scan upper).tokens = front ++ [.endOfInput (1 + Text.newlines upper : Nat)]
      ∧ scan (upper ++ '\n' :: lower)
        = ⟨front ++ (scan lower).tokens.map (.below (Text.newlines upper + 1)),
            (scan upper).diagnostics
              ++ (scan lower).diagnostics.map (.below (Text.newlines upper + 1))⟩ := by
  have hclosed : ∀ item ∈ Item.items upper, item.shape ≠ .fault .unterminatedString := by
    intro item hitem hs
    obtain ⟨d, hd, hfault⟩ := Placed.exists_diagnostic_of_fault hitem hs []
    exact h d (scan_diagnostics upper ▸ hd) hfault
  refine ⟨_, scan_tokens upper, ?_⟩
  rw [scan_tokens lower, List.map_append, List.map_singleton, endOfInput_below, ← List.append_assoc,
    ← Placed.tokens_append_line hclosed, ← scan_tokens, scan_diagnostics, scan_diagnostics,
    ← Placed.diagnostics_append_line hclosed, ← scan_diagnostics]

/-- A comment that is open at the end of a line, a number with a point behind it at the end of the
upper text, and a string that the lower one leaves open. -/
theorem scan_append_line_open_comment :
    (∀ d ∈ (scan "x @ // \"open\n1.".toList).diagnostics, d.fault ≠ some .unterminatedString)
      ∧ scan "x @ // \"open\n1.\n5 \"s\n".toList
        = ⟨[⟨.identifier, ['x'], 1⟩, ⟨.number, ['1'], 2⟩, ⟨.operator .dot, ['.'], 2⟩,
            ⟨.number, ['5'], 3⟩, .endOfInput 4],
          [.ofFault 1 .unexpectedCharacter, .ofFault 4 .unterminatedString]⟩ := by
  have hclosed : ∀ d ∈ (scan "x @ // \"open\n1.".toList).diagnostics,
      d.fault ≠ some .unterminatedString := by decide +kernel
  refine ⟨hclosed, ?_⟩
  obtain ⟨front, htokens, hscan⟩ := scan_append_line hclosed "5 \"s\n".toList
  have hupper : scan "x @ // \"open\n1.".toList
      = ⟨[⟨.identifier, ['x'], 1⟩, ⟨.number, ['1'], 2⟩, ⟨.operator .dot, ['.'], 2⟩,
          .endOfInput 2], [.ofFault 1 .unexpectedCharacter]⟩ := by decide +kernel
  have hlower : scan "5 \"s\n".toList
      = ⟨[⟨.number, ['5'], 1⟩, .endOfInput 2], [.ofFault 2 .unterminatedString]⟩ := by
    decide +kernel
  obtain rfl :
      [⟨.identifier, ['x'], 1⟩, ⟨.number, ['1'], 2⟩, ⟨.operator .dot, ['.'], 2⟩] = front := by
    rw [hupper] at htokens
    exact List.append_cancel_right htokens
  rw [hupper, hlower] at hscan
  exact hscan

end LoxLexer
