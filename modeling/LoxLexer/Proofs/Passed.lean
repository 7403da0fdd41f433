/-
  Cursors on their way through a text. `Passed` says where a cursor stands once the items `passed`
  lie behind it, and `passed_next?` says once and for all what a step does: it passes some more
  items, brings out their diagnostics and one token, and stops right behind that token or at the
  end. `Reached` adds what the steps made so far have brought to light; it holds at the beginning
  and after every request (`reached_pullAll`), and what is still to come completes the scan of the
  text (`ofSteps_drain_of_reached`).
-/
import LoxLexer.Proofs.Places

namespace LoxLexer

namespace Scan

theorem tokens_ofSteps_append (xs ys : List Step) :
    (ofSteps (xs ++ ys)).tokens = (ofSteps xs).tokens ++ (ofSteps ys).tokens :=
  List.map_append

theorem diagnostics_ofSteps_append (xs ys : List Step) :
    (ofSteps (xs ++ ys)).diagnostics = (ofSteps xs).diagnostics ++ (ofSteps ys).diagnostics :=
  List.flatMap_append

end Scan

namespace Cursor

open Item (textOf)

/-! ## Where a cursor stands -/

/-- The cursor stands in the text `source` behind the items `passed`. -/
structure Passed (source : Text) (passed : List Item) (c : Cursor) : Prop where
  source_eq : c.source = source
  items_eq : Item.items source = passed ++ Item.items c.rest
  offset_eq : c.offset = (textOf passed).length
  line_eq : c.line = 1 + Text.newlines (textOf passed)
  itemStart_le : c.itemStart ≤ c.offset
  rest_of_finished : c.finished = true → c.rest = []

variable {source : Text} {passed : List Item} {c : Cursor}

theorem passed_ofText (source : Text) : Passed source [] (ofText source) where
  source_eq := rfl
  items_eq := rfl
  offset_eq := rfl
  line_eq := rfl
  itemStart_le := Nat.le_refl 0
  rest_of_finished := fun h => by cases h

namespace Passed

theorem append_rest (h : Passed source passed c) : textOf passed ++ c.rest = source := by
  have htext := congrArg textOf h.items_eq
  rw [Item.textOf_append, Item.textOf_items, Item.textOf_items] at htext
  exact htext.symm

theorem rest_eq_drop (h : Passed source passed c) : c.rest = source.drop c.offset := by
  rw [← h.append_rest, h.offset_eq, List.drop_left]

theorem offset_le (h : Passed source passed c) : c.offset ≤ source.length := by
  rw [← h.append_rest, h.offset_eq, List.length_append]
  exact Nat.le_add_right _ _

theorem line_eq_lineAt (h : Passed source passed c) : c.line = source.lineAt c.offset := by
  rw [h.line_eq, h.offset_eq, Text.lineAt_of_prefix ⟨c.rest, h.append_rest⟩]

theorem one_le_line (h : Passed source passed c) : 1 ≤ c.line := by
  rw [h.line_eq]
  exact Nat.le_add_right 1 _

theorem finished_of_rest {first : Char} {rest : Text} (h : Passed source passed c)
    (hrest : c.rest = first :: rest) : c.finished = false := by
  rw [Bool.eq_false_iff]
  intro hf
  rw [h.rest_of_finished hf] at hrest
  cases hrest

theorem passFirst {first : Char} {rest : Text} (h : Passed source passed c)
    (hrest : c.rest = first :: rest) :
    Passed source (passed ++ [(Item.cut first rest).1]) (c.passFirst first rest) where
  source_eq := h.source_eq
  items_eq := by
    rw [h.items_eq, hrest, Item.items_cons, List.append_assoc]
    rfl
  offset_eq := by
    have hoffset : (c.passFirst first rest).offset
        = c.offset + (Item.cut first rest).1.text.length := rfl
    rw [hoffset, h.offset_eq, Item.textOf_concat, List.length_append]
  line_eq := by
    have hline : (c.passFirst first rest).line
        = c.line + Text.newlines (Item.cut first rest).1.text := rfl
    rw [hline, h.line_eq, Item.textOf_concat, Text.newlines_append, Nat.add_assoc]
  itemStart_le := Nat.le_add_right _ _
  rest_of_finished := by
    intro hf
    have hfinished : (c.passFirst first rest).finished = false := h.finished_of_rest hrest
    rw [hfinished] at hf
    cases hf

theorem finish (h : Passed source passed c) (hrest : c.rest = []) :
    Passed source passed c.finish where
  source_eq := h.source_eq
  items_eq := h.items_eq
  offset_eq := h.offset_eq
  line_eq := h.line_eq
  itemStart_le := Nat.le_refl _
  rest_of_finished := fun _ => hrest

end Passed

/-! ## What a step does -/

/-- The token that ends the input, once it has been given out. -/
def ending (c : Cursor) : List Token := if c.finished then [.endOfInput c.line] else []

theorem ending_of_not_finished (hf : c.finished = false) : c.ending = [] := by
  rw [ending, hf]
  rfl

/-- What a step does that leads from behind the items `passed` over the items `more`. -/
structure Passes (source : Text) (passed more : List Item) (s : Step) : Prop where
  cursor : Passed source (passed ++ more) s.cursor
  diagnostics : s.diagnostics = Placed.diagnostics (textOf passed) more
  tokens : Placed.tokens (textOf passed) more ++ s.cursor.ending = [s.token]
  stops : s.cursor.finished = false → ∃ front item, more = front ++ [item] ∧ item.IsToken

/-- A step over the first item and then over the items `more` is a step over all of them, when the
first is no token. -/
theorem Passes.cons {item : Item} {more : List Item} {s t : Step}
    (h : Passes source (passed ++ [item]) more s) (hitem : ¬ item.IsToken)
    (hcursor : t.cursor = s.cursor) (htoken : t.token = s.token)
    (hdiagnostics : t.diagnostics
      = (Placed.diagnostic? ⟨textOf passed, item⟩).toList ++ s.diagnostics) :
    Passes source passed (item :: more) t where
  cursor := by
    have hpassed := h.cursor
    rw [List.append_assoc, List.singleton_append] at hpassed
    rwa [hcursor]
  diagnostics := by
    have hbefore := h.diagnostics
    rw [Item.textOf_concat] at hbefore
    rw [hdiagnostics, hbefore, Placed.diagnostics_cons]
  tokens := by
    have hnone : Placed.token? ⟨textOf passed, item⟩ = none := Placed.token?_of_not_isToken hitem
    have hbefore := h.tokens
    rw [Item.textOf_concat] at hbefore
    rw [Placed.tokens_cons, hnone, hcursor, htoken]
    exact hbefore
  stops := by
    rw [hcursor]
    intro hf
    obtain ⟨front, last, rfl, hlast⟩ := h.stops hf
    exact ⟨item :: front, last, rfl, hlast⟩

theorem Passed.diagnostic?_of_fault {first : Char} {rest : Text} {f : Fault}
    (h : Passed source passed c) (hrest : c.rest = first :: rest)
    (hshape : (Item.cut first rest).1.shape = .fault f) :
    Placed.diagnostic? ⟨textOf passed, (Item.cut first rest).1⟩
      = some (.ofFault (c.passFirst first rest).line f) := by
  rw [(h.passFirst hrest).line_eq, Item.textOf_concat]
  cases f with
  | unexpectedCharacter =>
    have hnone := Item.newlines_of_unexpected hshape
    simp [Placed.diagnostic?, hshape, Placed.line, Text.newlines_append, hnone]
  | unterminatedString => simp [Placed.diagnostic?, hshape]

/-- A step passes some more items, brings out their diagnostics and one token, and stops right
behind that token or at the end. -/
theorem passed_next? {s : Step} (h : Passed source passed c) (hs : c.next? = some s) :
    ∃ more, Passes source passed more s := by
  induction hn : c.rest.length using Nat.strongRecOn generalizing c passed s with
  | ind n ih =>
    subst hn
    cases hrest : c.rest with
    | nil =>
      rw [next?_of_nil hrest] at hs
      split at hs
      · cases hs
      · obtain rfl := Option.some.inj hs
        refine ⟨[], by simpa using h.finish hrest, rfl, ?_, ?_⟩
        · simp [ending, finish]
        · intro hf
          cases hf
    | cons first rest =>
      have hafter := h.passFirst hrest
      have hlt := length_rest_passFirst_lt hrest
      have hskip : (Item.cut first rest).1.IsSkipped → ∃ more, Passes source passed more s := by
        intro hskipped
        rw [next?_of_skipped hrest hskipped] at hs
        obtain ⟨more, hmore⟩ := ih _ hlt hafter hs rfl
        refine ⟨_, hmore.cons hskipped.not_isToken rfl rfl ?_⟩
        rw [Placed.diagnostic?_of_skipped hskipped]
        rfl
      cases hshape : (Item.cut first rest).1.shape with
      | token kind =>
        rw [next?_of_token hrest hshape] at hs
        obtain rfl := Option.some.inj hs
        refine ⟨[(Item.cut first rest).1], hafter, ?_, ?_, ?_⟩
        · rw [Placed.diagnostics_cons]
          simp [Placed.diagnostic?, hshape]
        · have hfinished : (c.passFirst first rest).finished = false := h.finished_of_rest hrest
          rw [Placed.tokens_cons, ending_of_not_finished hfinished]
          simp [Placed.token?, hshape, Placed.line, h.line_eq]
        · exact fun _ => ⟨[], _, rfl, kind, hshape⟩
      | blank => exact hskip (Or.inl hshape)
      | comment => exact hskip (Or.inr hshape)
      | fault f =>
        rw [next?_of_fault hrest hshape] at hs
        obtain ⟨t, ht, rfl⟩ := Option.map_eq_some_iff.mp hs
        obtain ⟨more, hmore⟩ := ih _ hlt hafter ht rfl
        have hitem : ¬ (Item.cut first rest).1.IsToken := by simp [Item.IsToken, hshape]
        refine ⟨_, hmore.cons hitem rfl rfl ?_⟩
        rw [h.diagnostic?_of_fault hrest hshape]
        rfl

/-! ## What has been brought to light -/

/-- The cursor stands behind the items `passed`, and the steps made so far have brought to light
what there is in them, and the end of the input if it has been given out. Short of that, nothing
behind the last token has been passed. -/
structure Reached (source : Text) (passed : List Item) (steps : List Step) (c : Cursor) : Prop
    extends Passed source passed c where
  tokens_eq : (Scan.ofSteps steps).tokens = Placed.tokens [] passed ++ c.ending
  diagnostics_eq : (Scan.ofSteps steps).diagnostics = Placed.diagnostics [] passed
  stops : c.finished = false → passed = [] ∨ ∃ front item, passed = front ++ [item] ∧ item.IsToken

variable {steps : List Step}

theorem reached_ofText (source : Text) : Reached source [] [] (ofText source) where
  toPassed := passed_ofText source
  tokens_eq := rfl
  diagnostics_eq := rfl
  stops := fun _ => Or.inl rfl

theorem next?_eq_none_of_finished (h : Passed source passed c) (hf : c.finished = true) :
    c.next? = none := by
  rw [next?_of_nil (h.rest_of_finished hf), hf]
  rfl

theorem finished_of_next?_eq_some {s : Step} (h : Passed source passed c)
    (hs : c.next? = some s) : c.finished = false := by
  rw [Bool.eq_false_iff]
  intro hf
  rw [next?_eq_none_of_finished h hf] at hs
  cases hs

theorem reached_next? {s : Step} (h : Reached source passed steps c) (hs : c.next? = some s) :
    ∃ more, Reached source (passed ++ more) (steps ++ [s]) s.cursor := by
  obtain ⟨more, hcursor, hdiagnostics, htokens, hstops⟩ := passed_next? h.toPassed hs
  have hending : c.ending = [] := ending_of_not_finished (finished_of_next?_eq_some h.toPassed hs)
  have htokens_eq := h.tokens_eq
  have hdiagnostics_eq := h.diagnostics_eq
  rw [hending, List.append_nil] at htokens_eq
  refine ⟨more, hcursor, ?_, ?_, ?_⟩
  · rw [Scan.tokens_ofSteps_append, htokens_eq, Placed.tokens_append, List.append_assoc,
      List.nil_append, htokens]
    rfl
  · rw [Scan.diagnostics_ofSteps_append, hdiagnostics_eq, Placed.diagnostics_append,
      List.nil_append, ← hdiagnostics]
    simp [Scan.ofSteps]
  · intro hf
    obtain ⟨front, item, rfl, hitem⟩ := hstops hf
    exact Or.inr ⟨passed ++ front, item, by rw [List.append_assoc], hitem⟩

/-! ## Requests -/

theorem after_nil (c : Cursor) : c.after [] = c := rfl

theorem after_cons (c : Cursor) (s : Step) (steps : List Step) :
    c.after (s :: steps) = s.cursor.after steps := by
  unfold after
  rw [List.getLast?_cons]
  cases steps.getLast? <;> rfl

theorem after_append (c : Cursor) (xs ys : List Step) :
    c.after (xs ++ ys) = (c.after xs).after ys := by
  induction xs generalizing c with
  | nil => rfl
  | cons s xs ih => rw [List.cons_append, after_cons, after_cons, ih]

/-- Steps taken one by one are the first of all steps. -/
theorem take_eq_take_drain (n : Nat) (c : Cursor) : c.take n = c.drain.take n := by
  induction n generalizing c with
  | zero => rfl
  | succ n ih =>
    cases hs : c.next? with
    | none =>
      rw [drain_of_next?_eq_none hs]
      simp [take, hs]
    | some s =>
      rw [drain_of_next?_eq_some hs]
      simp [take, hs, ih]

theorem reached_take (n : Nat) (h : Reached source passed steps c) :
    ∃ more, Reached source (passed ++ more) (steps ++ c.take n) (c.after (c.take n)) := by
  induction n generalizing passed steps c with
  | zero => exact ⟨[], by simpa [take, after_nil] using h⟩
  | succ n ih =>
    cases hs : c.next? with
    | none => exact ⟨[], by simpa [take, hs, after_nil] using h⟩
    | some s =>
      obtain ⟨more, hmore⟩ := reached_next? h hs
      obtain ⟨others, hothers⟩ := ih hmore
      refine ⟨more ++ others, ?_⟩
      simpa [take, hs, after_cons] using hothers

/-- What a request takes of a list. -/
def Pull.of {α : Type} : Pull → List α → List α
  | .next, list => list.take 1
  | .take n, list => list.take n
  | .all, list => list

/-- A request is answered by the first of all steps, as many as are asked for. -/
theorem pull_eq_of_drain (c : Cursor) (p : Pull) : c.pull p = p.of c.drain := by
  cases p with
  | next => exact take_eq_take_drain 1 c
  | take n => exact take_eq_take_drain n c
  | all => rfl

theorem reached_pull (p : Pull) (h : Reached source passed steps c) :
    ∃ more, Reached source (passed ++ more) (steps ++ c.pull p) (c.after (c.pull p)) := by
  cases p with
  | next => exact reached_take 1 h
  | take n => exact reached_take n h
  | all => exact reached_take c.remaining h

theorem reached_pullAll (pulls : List Pull) (h : Reached source passed steps c) :
    ∃ more, Reached source (passed ++ more) (steps ++ c.pullAll pulls)
      (c.after (c.pullAll pulls)) := by
  induction pulls generalizing passed steps c with
  | nil => exact ⟨[], by simpa [pullAll, after_nil] using h⟩
  | cons p ps ih =>
    obtain ⟨more, hmore⟩ := reached_pull p h
    obtain ⟨others, hothers⟩ := ih hmore
    refine ⟨more ++ others, ?_⟩
    rwa [List.append_assoc, List.append_assoc, ← after_append] at hothers

/-! ## What is still to come -/

theorem passed_eq_of_finished (h : Passed source passed c) (hf : c.finished = true) :
    passed = Item.items source ∧ c.offset = source.length
      ∧ c.ending = [.endOfInput (1 + Text.newlines source : Nat)] := by
  have hpassed : passed = Item.items source := by
    rw [h.items_eq, h.rest_of_finished hf, Item.items_nil, List.append_nil]
  refine ⟨hpassed, ?_, ?_⟩
  · rw [h.offset_eq, hpassed, Item.textOf_items]
  · rw [ending, hf, h.line_eq, hpassed, Item.textOf_items]
    rfl

/-- Until the end of the input has been given out, the items ahead are what further steps bring
to light. -/
theorem ofSteps_drain_of_passed (h : Passed source passed c) (hf : c.finished = false) :
    Scan.ofSteps c.drain
      = ⟨Placed.tokens (textOf passed) (Item.items c.rest)
            ++ [.endOfInput (1 + Text.newlines source : Nat)],
          Placed.diagnostics (textOf passed) (Item.items c.rest)⟩ := by
  rw [Scan.ofSteps_drain hf h.line_eq, h.append_rest]
  rfl

/-- What the steps made so far have brought to light, and what all further steps will bring, make
up the scan of the text. -/
theorem ofSteps_drain_of_reached (h : Reached source passed steps c) :
    (Scan.ofSteps steps).tokens ++ (Scan.ofSteps c.drain).tokens = (scan source).tokens
      ∧ (Scan.ofSteps steps).diagnostics ++ (Scan.ofSteps c.drain).diagnostics
        = (scan source).diagnostics := by
  rw [scan_tokens, scan_diagnostics, h.tokens_eq, h.diagnostics_eq]
  cases hf : c.finished with
  | true =>
    obtain ⟨hpassed, _, hending⟩ := passed_eq_of_finished h.toPassed hf
    rw [drain_of_next?_eq_none (next?_eq_none_of_finished h.toPassed hf), hpassed, hending]
    simp [Scan.ofSteps]
  | false =>
    rw [ofSteps_drain_of_passed h.toPassed hf, h.items_eq, Placed.tokens_append,
      Placed.diagnostics_append, ending_of_not_finished hf]
    simp

end Cursor

end LoxLexer
