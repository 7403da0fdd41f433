/-
  A scan, read off the items of its text. Taking tokens step by step passes the items in order,
  so the tokens and diagnostics of a scan are those of the placed items (`scan_eq_ofItems`), and
  from a place within a text those of the items ahead (`ofSteps_drain`).
-/
import LoxLexer.Item.Placed

namespace LoxLexer

namespace Cursor

/-! ## Draining, by what lies ahead -/

theorem drain_finish (c : Cursor) (h : c.rest = []) : c.finish.drain = [] := by
  apply drain_of_next?_eq_none
  rw [next?_of_nil (c := c.finish) h]
  rfl

theorem drain_of_nil {c : Cursor} (h : c.rest = []) (hf : c.finished = false) :
    c.drain = [⟨[], .endOfInput c.line, c.finish⟩] := by
  have hn : c.next? = some ⟨[], .endOfInput c.line, c.finish⟩ := by
    rw [next?_of_nil h, hf]
    rfl
  rw [drain_of_next?_eq_some hn, drain_finish c h]

/-- Until the end of the input has been given out there is a next token. -/
theorem exists_next? {c : Cursor} (hf : c.finished = false) : ∃ s, c.next? = some s := by
  induction hn : c.rest.length using Nat.strongRecOn generalizing c with
  | ind n ih =>
    subst hn
    cases hrest : c.rest with
    | nil => exact ⟨_, by rw [next?_of_nil hrest, hf]; rfl⟩
    | cons first rest =>
      obtain ⟨s, hs⟩ := ih _ (length_rest_passFirst_lt hrest) (c := c.passFirst first rest) hf rfl
      cases hshape : (Item.cut first rest).1.shape with
      | token kind => exact ⟨_, next?_of_token hrest hshape⟩
      | blank => exact ⟨s, by rw [next?_of_skipped hrest (Or.inl hshape), hs]⟩
      | comment => exact ⟨s, by rw [next?_of_skipped hrest (Or.inr hshape), hs]⟩
      | fault f => exact ⟨_, by rw [next?_of_fault hrest hshape, hs]; rfl⟩

theorem drain_of_token {c : Cursor} {first : Char} {rest : Text} {kind : TokenKind}
    (h : c.rest = first :: rest) (hs : (Item.cut first rest).1.shape = .token kind) :
    c.drain = ⟨[], ⟨kind, (Item.cut first rest).1.text, c.line⟩, c.passFirst first rest⟩
      :: (c.passFirst first rest).drain :=
  drain_of_next?_eq_some (next?_of_token h hs)

theorem drain_of_skipped {c : Cursor} {first : Char} {rest : Text}
    (h : c.rest = first :: rest)
    (hs : (Item.cut first rest).1.shape = .blank ∨ (Item.cut first rest).1.shape = .comment) :
    c.drain = (c.passFirst first rest).drain := by
  have e := next?_of_skipped h hs
  cases hn : (c.passFirst first rest).next? with
  | none =>
    rw [drain_of_next?_eq_none (e.trans hn), drain_of_next?_eq_none hn]
  | some s =>
    rw [drain_of_next?_eq_some (e.trans hn), drain_of_next?_eq_some hn]

/-- A fault is reported on the first of the steps behind it. -/
theorem drain_of_fault {c : Cursor} {first : Char} {rest : Text} {f : Fault}
    (h : c.rest = first :: rest) (hf : c.finished = false)
    (hs : (Item.cut first rest).1.shape = .fault f) :
    ∃ s steps, (c.passFirst first rest).drain = s :: steps
      ∧ c.drain = s.reporting (.ofFault (c.passFirst first rest).line f) :: steps := by
  obtain ⟨s, hn⟩ := exists_next? (c := c.passFirst first rest) hf
  have e := next?_of_fault h hs
  rw [hn] at e
  exact ⟨s, s.cursor.drain, drain_of_next?_eq_some hn, drain_of_next?_eq_some e⟩

theorem ofSteps_drain_of_fault {c : Cursor} {first : Char} {rest : Text} {f : Fault}
    (h : c.rest = first :: rest) (hf : c.finished = false)
    (hs : (Item.cut first rest).1.shape = .fault f) :
    Scan.ofSteps c.drain
      = ⟨(Scan.ofSteps (c.passFirst first rest).drain).tokens,
          .ofFault (c.passFirst first rest).line f
            :: (Scan.ofSteps (c.passFirst first rest).drain).diagnostics⟩ := by
  obtain ⟨s, steps, hafter, hdrain⟩ := drain_of_fault h hf hs
  rw [hdrain, hafter]
  rfl

end Cursor

/-! ## The items ahead -/

/-- From a place behind the text `before`, the tokens and diagnostics of the items ahead. -/
theorem Scan.ofSteps_drain {c : Cursor} {before : Text} (hf : c.finished = false)
    (hline : c.line = 1 + Text.newlines before) :
    Scan.ofSteps c.drain
      = ⟨(Placed.ofItems before (Item.items c.rest)).filterMap Placed.token?
            ++ [.endOfInput (1 + Text.newlines (before ++ c.rest) : Nat)],
          (Placed.ofItems before (Item.items c.rest)).filterMap Placed.diagnostic?⟩ := by
  induction hn : c.rest.length using Nat.strongRecOn generalizing c before with
  | ind n ih =>
    subst hn
    cases hrest : c.rest with
    | nil =>
      rw [Cursor.drain_of_nil hrest hf, Item.items_nil, List.append_nil, hline]
      rfl
    | cons first rest =>
      have htext := Item.cut_append first rest
      have hnext : (c.passFirst first rest).line
          = 1 + Text.newlines (before ++ (Item.cut first rest).1.text) := by
        rw [Text.newlines_append, ← Nat.add_assoc, ← hline]
        rfl
      have hrec := ih _ (Cursor.length_rest_passFirst_lt hrest) (c := c.passFirst first rest)
        hf hnext rfl
      have hahead : (c.passFirst first rest).rest = (Item.cut first rest).2 := rfl
      rw [hahead, List.append_assoc, htext] at hrec
      rw [Item.items_cons]
      simp only [Placed.ofItems, List.filterMap_cons]
      cases hshape : (Item.cut first rest).1.shape with
      | token kind =>
        rw [Cursor.drain_of_token hrest hshape, Scan.ofSteps_cons, hrec]
        simp [Placed.token?, Placed.diagnostic?, Placed.line, hshape, hline]
      | blank =>
        rw [Cursor.drain_of_skipped hrest (Or.inl hshape), hrec]
        simp [Placed.token?, Placed.diagnostic?, hshape]
      | comment =>
        rw [Cursor.drain_of_skipped hrest (Or.inr hshape), hrec]
        simp [Placed.token?, Placed.diagnostic?, hshape]
      | fault f =>
        rw [Cursor.ofSteps_drain_of_fault hrest hf hshape, hrec, hnext]
        cases f with
        | unexpectedCharacter =>
          have hnone := Item.newlines_of_unexpected hshape
          simp [Placed.token?, Placed.diagnostic?, Placed.line, hshape, hnone,
            Text.newlines_append]
        | unterminatedString =>
          simp [Placed.token?, Placed.diagnostic?, hshape]

/-- The tokens and diagnostics of a text are those of its items. -/
theorem scan_eq_ofItems (source : Text) : scan source = .ofItems (Item.items source) := by
  have hline : (Cursor.ofText source).line = 1 + Text.newlines [] := rfl
  have h := Scan.ofSteps_drain (c := .ofText source) rfl hline
  rw [scan, h, Scan.ofItems, Item.flatten_items]
  rfl

end LoxLexer
