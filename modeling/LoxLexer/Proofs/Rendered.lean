/-
  Scanning undoes rendering. A gap falls into blanks and comments whatever follows it
  (`exists_skipped_of_isGap`), and a token that does not run together with what follows is a
  settled match; so by induction on the pieces the items of a rendered text are its gaps' blanks
  and comments and its tokens, in order, and the scan has these tokens and no diagnostic
  (`scan_render`).
-/
import LoxLexer.Proofs.Places

namespace LoxLexer

/-! ## Items that leave no trace -/

namespace Placed

variable {items : List Item}

theorem tokens_of_skipped (h : ∀ item ∈ items, item.IsSkipped) (before : Text) :
    tokens before items = [] := by
  rw [tokens, List.filterMap_eq_nil_iff]
  intro p hp
  exact token?_of_not_isToken (h p.item (item_mem_of_mem_ofItems hp)).not_isToken

theorem diagnostics_of_skipped (h : ∀ item ∈ items, item.IsSkipped) (before : Text) :
    diagnostics before items = [] := by
  rw [diagnostics, List.filterMap_eq_nil_iff]
  intro p hp
  exact diagnostic?_of_skipped (h p.item (item_mem_of_mem_ofItems hp))

end Placed

namespace Rendering

open Grammar

/-! ## Items of rendered texts -/

theorem items_of_settled {shape : Shape} {text after : Text} (hm : Matches shape text)
    (hs : Settled shape text after) :
    Item.items (text ++ after) = ⟨shape, text⟩ :: Item.items after := by
  obtain ⟨c, text, rfl⟩ := List.exists_cons_of_ne_nil (ne_nil_of_matches hm)
  rw [List.cons_append, Item.items_cons, cut_of_settled hm hs]

theorem items_of_blank {c : Char} (hc : Item.isBlank c = true) (rest : Text) :
    Item.items (c :: rest) = ⟨.blank, [c]⟩ :: Item.items rest := by
  rw [Item.items_cons, Item.cut_of_blank hc]

/-- A gap falls into blanks and comments, whatever follows it. -/
theorem exists_skipped_of_isGap {gap : Text} (h : IsGap gap) (after : Text) :
    ∃ skipped, Item.items (gap ++ after) = skipped ++ Item.items after
      ∧ Item.textOf skipped = gap ∧ ∀ item ∈ skipped, item.IsSkipped := by
  induction h with
  | nil => exact ⟨[], rfl, rfl, by simp⟩
  | @blank c t hc _ ih =>
    obtain ⟨skipped, hitems, htext, hskipped⟩ := ih
    refine ⟨⟨.blank, [c]⟩ :: skipped, ?_, ?_, ?_⟩
    · rw [List.cons_append, items_of_blank hc, hitems, List.cons_append]
    · rw [Item.textOf_cons, htext]
      rfl
    · exact List.forall_mem_cons.mpr ⟨Or.inl rfl, hskipped⟩
  | @comment s t hs _ ih =>
    obtain ⟨skipped, hitems, htext, hskipped⟩ := ih
    refine ⟨⟨.comment, s⟩ :: ⟨.blank, ['\n']⟩ :: skipped, ?_, ?_, ?_⟩
    · have hline : Settled .comment s ('\n' :: (t ++ after)) := by
        intro c hc
        exact (Option.some.inj hc).symm
      rw [List.append_assoc, List.cons_append, items_of_settled (.comment hs) hline,
        items_of_blank rfl, hitems, List.cons_append, List.cons_append]
    · rw [Item.textOf_cons, Item.textOf_cons, htext]
      rfl
    · exact List.forall_mem_cons.mpr ⟨Or.inr rfl, List.forall_mem_cons.mpr ⟨Or.inl rfl, hskipped⟩⟩

theorem skipped_of_isLastGap {gap : Text} (h : IsLastGap gap) :
    ∀ item ∈ Item.items gap, item.IsSkipped := by
  cases h with
  | gap h =>
    obtain ⟨skipped, hitems, _, hskipped⟩ := exists_skipped_of_isGap h []
    rw [List.append_nil, Item.items_nil, List.append_nil] at hitems
    rwa [hitems]
  | @comment s t hs ht =>
    obtain ⟨skipped, hitems, _, hskipped⟩ := exists_skipped_of_isGap hs t
    have hlast : Item.items (t ++ []) = ⟨.comment, t⟩ :: Item.items [] :=
      items_of_settled (.comment ht) (by simp [Settled])
    rw [List.append_nil, Item.items_nil] at hlast
    rw [hitems, hlast]
    exact List.forall_mem_append.mpr ⟨hskipped, List.forall_mem_singleton.mpr (Or.inr rfl)⟩

/-- Behind any text, the items of a rendered text bring out its tokens and nothing else. -/
theorem tokens_of_wellSpaced {pieces : List Piece} {last : Text} (h : WellSpaced pieces last)
    (before : Text) :
    Placed.tokens before (Item.items (render pieces last)) = lexemes before pieces
      ∧ Placed.diagnostics before (Item.items (render pieces last)) = [] := by
  induction pieces generalizing before with
  | nil =>
    have hskipped := skipped_of_isLastGap h
    exact ⟨Placed.tokens_of_skipped hskipped before, Placed.diagnostics_of_skipped hskipped before⟩
  | cons p ps ih =>
    obtain ⟨hgap, hm, hfollow, hrest⟩ := h
    obtain ⟨skipped, hitems, htext, hskipped⟩ :=
      exists_skipped_of_isGap hgap (p.lexeme ++ render ps last)
    have hs : Settled (.token p.kind) p.lexeme (render ps last) := hfollow
    obtain ⟨htokens, hdiagnostics⟩ := ih hrest (before ++ p.gap ++ p.lexeme)
    rw [render_cons, List.append_assoc, hitems, items_of_settled hm hs]
    constructor
    · rw [Placed.tokens_append, Placed.tokens_of_skipped hskipped, htext, Placed.tokens_cons,
        htokens]
      rfl
    · rw [Placed.diagnostics_append, Placed.diagnostics_of_skipped hskipped, htext,
        Placed.diagnostics_cons, hdiagnostics]
      rfl

/-- Scanning undoes rendering: of tokens that do not run together with what follows them, the scan
gives back each with its text and the line where it stands, and reports nothing. -/
theorem scan_render {pieces : List Piece} {last : Text} (h : WellSpaced pieces last) :
    scan (render pieces last)
      = ⟨lexemes [] pieces ++ [.endOfInput (1 + Text.newlines (render pieces last) : Nat)],
          []⟩ := by
  obtain ⟨htokens, hdiagnostics⟩ := tokens_of_wellSpaced h []
  rw [← htokens, ← hdiagnostics, ← scan_tokens, ← scan_diagnostics]

/-- Tokens packed as closely as they go, a comment that separates two of them, and a string over
two lines. -/
def packed : List Piece :=
  [⟨[], .number, ['1']⟩, ⟨[], .operator .dot, ['.']⟩, ⟨[], .operator .dot, ['.']⟩,
    ⟨[], .number, ['2', '.', '5']⟩, ⟨[], .keyword .orWord, ['o', 'r']⟩,
    ⟨[], .operator .slash, ['/']⟩, ⟨[], .string, ['"', 'a', '\n', 'b', '"']⟩,
    ⟨['/', '/', '\n'], .operator .bangEqual, ['!', '=']⟩, ⟨[], .operator .equalEqual, ['=', '=']⟩]

theorem wellSpaced_packed : WellSpaced packed "\n // end".toList := by
  have hcomment : IsComment ['/', '/'] := .intro (by simp)
  have hlast : IsLastGap "\n // end".toList :=
    .comment (s := ['\n', ' ']) (.blank rfl (.blank rfl .nil)) (.intro (by decide))
  have hdecimal : IsNumber ['2', '.', '5'] :=
    .decimal (s := ['2']) ⟨by simp, by simp⟩ ⟨by simp, by simp⟩
  refine ⟨.nil, .number (.whole ⟨by simp, by simp⟩), ?_, .nil, .operator .dot, ?_, .nil,
    .operator .dot, ?_, .nil, .number hdecimal, ?_, .nil, .keyword .orWord, ?_, .nil,
    .operator .slash, ?_, .nil, .string (.intro (t := ['a', '\n', 'b']) (by decide)), trivial,
    .comment hcomment .nil, .operator .bangEqual, ?_, .nil, .operator .equalEqual, ?_, hlast⟩
  all_goals simp [MayFollow, render, Item.isWordChar, Text.isLetter, Operator.withEqual?]

theorem scan_render_packed :
    WellSpaced packed "\n // end".toList
      ∧ scan "1..2.5or/\"a\nb\"//\n!===\n // end".toList
        = ⟨[⟨.number, ['1'], 1⟩, ⟨.operator .dot, ['.'], 1⟩, ⟨.operator .dot, ['.'], 1⟩,
            ⟨.number, ['2', '.', '5'], 1⟩, ⟨.keyword .orWord, ['o', 'r'], 1⟩,
            ⟨.operator .slash, ['/'], 1⟩, ⟨.string, ['"', 'a', '\n', 'b', '"'], 1⟩,
            ⟨.operator .bangEqual, ['!', '='], 3⟩, ⟨.operator .equalEqual, ['=', '='], 3⟩,
            .endOfInput 4], []⟩ :=
  ⟨wellSpaced_packed, scan_render wellSpaced_packed⟩

end Rendering

end LoxLexer
