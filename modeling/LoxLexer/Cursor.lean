/-
  Cursors: places in a program text from which tokens are taken one at a time. A step passes
  items up to and including the next token and carries the diagnostics of the faults that it
  passed, so nothing is reported before it is reached. After the token that ends the input there
  is no further step. Each step makes `remaining` smaller (`remaining_lt_of_next?`), which bounds
  the number of steps and makes `drain` come to the end.
-/
import LoxLexer.Item
import LoxLexer.Token
import LoxLexer.Diagnostic

namespace LoxLexer

/-- A place in a program text. `rest` is what lies ahead, `offset` counts the characters behind
and `line` is the line of the place; `itemStart` is where the item passed last begins. -/
structure Cursor where
  source : Text
  rest : Text
  itemStart : Nat
  offset : Nat
  line : Nat
  finished : Bool
deriving DecidableEq, Repr

/-- A token, the diagnostics reported on the way to it, and the place behind it. -/
structure Step where
  diagnostics : List Diagnostic
  token : Token
  cursor : Cursor
deriving DecidableEq, Repr

/-- A step on which a diagnostic was reported before all others. -/
def Step.reporting (s : Step) (d : Diagnostic) : Step :=
  { s with diagnostics := d :: s.diagnostics }

namespace Cursor

/-- The place at the beginning of a text. -/
def ofText (source : Text) : Cursor := ⟨source, source, 0, 0, 1, false⟩

/-- The place behind an item that is followed by `rest`. -/
def pass (c : Cursor) (item : Item) (rest : Text) : Cursor :=
  { c with
    rest := rest
    itemStart := c.offset
    offset := c.offset + item.text.length
    line := c.line + Text.newlines item.text }

/-- The place behind the first item of the text `first :: rest` that lies ahead. -/
def passFirst (c : Cursor) (first : Char) (rest : Text) : Cursor :=
  c.pass (Item.cut first rest).1 (Item.cut first rest).2

theorem length_rest_passFirst_lt {c : Cursor} {first : Char} {rest : Text}
    (h : c.rest = first :: rest) : (c.passFirst first rest).rest.length < c.rest.length := by
  rw [h]
  exact Item.length_cut_lt first rest

/-- The place where the end of the input has been given out. -/
def finish (c : Cursor) : Cursor := { c with itemStart := c.offset, finished := true }

/-- The next token, if the end of the input has not been given out. -/
def next? (c : Cursor) : Option Step :=
  match _ : c.rest with
  | [] => if c.finished then none else some ⟨[], .endOfInput c.line, c.finish⟩
  | first :: rest =>
    let after := c.passFirst first rest
    match (Item.cut first rest).1.shape with
    | .token kind => some ⟨[], ⟨kind, (Item.cut first rest).1.text, c.line⟩, after⟩
    | .blank => after.next?
    | .comment => after.next?
    | .fault f => after.next?.map (Step.reporting · (.ofFault after.line f))
termination_by c.rest.length
decreasing_by all_goals exact length_rest_passFirst_lt ‹c.rest = first :: rest›

/-- A bound on the number of steps from a place. -/
def remaining (c : Cursor) : Nat := c.rest.length + if c.finished then 0 else 1

/-- At most `n` steps. -/
def take : Nat → Cursor → List Step
  | 0, _ => []
  | n + 1, c =>
    match c.next? with
    | none => []
    | some s => s :: take n s.cursor

/-- All steps up to the end of the input. -/
def drain (c : Cursor) : List Step := c.take c.remaining

/-- The place after some steps from a place. -/
def after (c : Cursor) (steps : List Step) : Cursor :=
  match steps.getLast? with
  | none => c
  | some s => s.cursor

/-- How many tokens are asked for at once. -/
inductive Pull
  | next
  | take (n : Nat)
  | all
deriving DecidableEq, Repr

/-- The steps that answer a request for tokens. -/
def pull (c : Cursor) : Pull → List Step
  | .next => c.take 1
  | .take n => c.take n
  | .all => c.drain

/-- The steps that answer several requests one after the other. -/
def pullAll (c : Cursor) : List Pull → List Step
  | [] => []
  | p :: ps => c.pull p ++ (c.after (c.pull p)).pullAll ps

/-! ## The next token, by what lies ahead -/

theorem next?_of_nil {c : Cursor} (h : c.rest = []) :
    c.next? = if c.finished then none else some ⟨[], .endOfInput c.line, c.finish⟩ := by
  rw [next?]
  split
  · rfl
  · simp_all

theorem next?_of_token {c : Cursor} {first : Char} {rest : Text} {kind : TokenKind}
    (h : c.rest = first :: rest) (hs : (Item.cut first rest).1.shape = .token kind) :
    c.next? = some ⟨[], ⟨kind, (Item.cut first rest).1.text, c.line⟩, c.passFirst first rest⟩ := by
  rw [next?]
  split
  · simp_all
  · rename_i heq
    obtain ⟨rfl, rfl⟩ := List.cons.inj (heq.symm.trans h)
    simp [hs]

theorem next?_of_skipped {c : Cursor} {first : Char} {rest : Text}
    (h : c.rest = first :: rest)
    (hs : (Item.cut first rest).1.shape = .blank ∨ (Item.cut first rest).1.shape = .comment) :
    c.next? = (c.passFirst first rest).next? := by
  rw [next?]
  split
  · simp_all
  · rename_i heq
    obtain ⟨rfl, rfl⟩ := List.cons.inj (heq.symm.trans h)
    rcases hs with hs | hs <;> simp [hs]

theorem next?_of_fault {c : Cursor} {first : Char} {rest : Text} {f : Fault}
    (h : c.rest = first :: rest) (hs : (Item.cut first rest).1.shape = .fault f) :
    c.next? = (c.passFirst first rest).next?.map
      (Step.reporting · (.ofFault (c.passFirst first rest).line f)) := by
  rw [next?]
  split
  · simp_all
  · rename_i heq
    obtain ⟨rfl, rfl⟩ := List.cons.inj (heq.symm.trans h)
    simp [hs]

/-! ## Steps go forward -/

theorem remaining_passFirst_lt {c : Cursor} {first : Char} {rest : Text}
    (h : c.rest = first :: rest) : (c.passFirst first rest).remaining < c.remaining :=
  Nat.add_lt_add_right (length_rest_passFirst_lt h) _

theorem remaining_lt_of_next? {c : Cursor} {s : Step} (h : c.next? = some s) :
    s.cursor.remaining < c.remaining := by
  induction hn : c.remaining using Nat.strongRecOn generalizing c s with
  | ind n ih =>
    subst hn
    cases hrest : c.rest with
    | nil =>
      rw [next?_of_nil hrest] at h
      split at h
      · simp at h
      · rename_i hfin
        obtain rfl := Option.some.inj h
        simp [remaining, finish, hrest, hfin]
    | cons first rest =>
      have hlt := remaining_passFirst_lt hrest
      cases hs : (Item.cut first rest).1.shape with
      | token kind =>
        rw [next?_of_token hrest hs] at h
        obtain rfl := Option.some.inj h
        exact hlt
      | blank =>
        rw [next?_of_skipped hrest (Or.inl hs)] at h
        exact Nat.lt_trans (ih _ hlt h rfl) hlt
      | comment =>
        rw [next?_of_skipped hrest (Or.inr hs)] at h
        exact Nat.lt_trans (ih _ hlt h rfl) hlt
      | fault f =>
        rw [next?_of_fault hrest hs] at h
        obtain ⟨t, ht, rfl⟩ := Option.map_eq_some_iff.mp h
        have hstep : t.cursor.remaining < (c.passFirst first rest).remaining := ih _ hlt ht rfl
        exact Nat.lt_trans hstep hlt

theorem take_of_remaining_le {c : Cursor} {n : Nat} (h : c.remaining ≤ n) :
    c.take n = c.drain := by
  suffices key : ∀ m c, c.remaining ≤ m → ∀ n, c.remaining ≤ n → take n c = take m c from
    key c.remaining c (Nat.le_refl _) n h
  intro m
  induction m with
  | zero =>
    intro c hm n _
    cases n with
    | zero => rfl
    | succ n =>
      cases hs : c.next? with
      | none => simp [take, hs]
      | some s =>
        have := remaining_lt_of_next? hs
        omega
  | succ m ih =>
    intro c hm n hn
    cases hs : c.next? with
    | none => cases n <;> simp [take, hs]
    | some s =>
      have hlt := remaining_lt_of_next? hs
      cases n with
      | zero => omega
      | succ n =>
        simp only [take, hs, List.cons.injEq, true_and]
        exact ih s.cursor (by omega) n (by omega)

theorem drain_of_next?_eq_none {c : Cursor} (h : c.next? = none) : c.drain = [] := by
  unfold drain
  cases c.remaining with
  | zero => rfl
  | succ n => simp [take, h]

theorem drain_of_next?_eq_some {c : Cursor} {s : Step} (h : c.next? = some s) :
    c.drain = s :: s.cursor.drain := by
  have hlt := remaining_lt_of_next? h
  rw [← take_of_remaining_le (Nat.le_succ c.remaining)]
  simp only [take, h, List.cons.injEq, true_and]
  exact take_of_remaining_le (by omega)

end Cursor

end LoxLexer
