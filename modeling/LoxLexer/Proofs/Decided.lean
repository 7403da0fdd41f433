/-
  How far ahead scanning looks. Whether a match is settled depends on one character behind it, or on
  two if the first is a point (`settled_append_of_decisive`). So a beginning of a text decides its
  items, whatever follows (`Decided`, `items_of_decided`), up to the last one or two; these may take
  in more, or end one character before the end of the beginning, and none of them is an unexpected
  character (`exists_decided`). Hence all tokens that end two characters before the end of a
  beginning, and all unexpected characters within it, are found there (`scan_two_ahead`).
-/
import LoxLexer.Proofs.Alike
import LoxLexer.Proofs.Stacked

namespace LoxLexer

namespace Grammar

open Item (textOf)

variable {shape : Shape} {text after p rest : Text} {xs : List Item}

/-! ## Settled by a beginning -/

/-- Whether a beginning of the text behind a match tells if the match is settled. -/
def IsDecisive (after : Text) : Prop := after ≠ [] ∧ after ≠ ['.']

theorem settled_append_of_decisive {s : Text} (h : IsDecisive after)
    (hs : Settled shape text (after ++ s)) (t : Text) : Settled shape text (after ++ t) := by
  obtain ⟨c, more, rfl⟩ := List.exists_cons_of_ne_nil h.1
  cases shape with
  | token kind =>
    cases kind with
    | number =>
      refine ⟨hs.1, fun hdot d rest heq => ?_⟩
      obtain ⟨rfl, hrest⟩ := List.cons.inj heq
      obtain ⟨e, more, rfl⟩ := List.exists_cons_of_ne_nil fun hnil : more = [] => h.2 (by rw [hnil])
      obtain ⟨rfl, _⟩ := List.cons.inj hrest
      exact hs.2 hdot e (more ++ s) rfl
    | _ => exact hs
  | _ => exact hs

/-! ## Items of a beginning -/

/-- Whatever follows the text `p`, its first items are `xs`, and `rest` is the rest of it. -/
inductive Decided : Text → List Item → Text → Prop
  | nothing (p : Text) : Decided p [] p
  | settled {shape : Shape} {text after rest : Text} {xs : List Item} (hm : Matches shape text)
      (hs : ∀ more, Settled shape text (after ++ more)) (hr : Decided after xs rest) :
      Decided (text ++ after) (⟨shape, text⟩ :: xs) rest
  | stray {c : Char} {after rest : Text} {xs : List Item} (h : Item.IsStray c)
      (hr : Decided after xs rest) :
      Decided (c :: after) (⟨.fault .unexpectedCharacter, [c]⟩ :: xs) rest

theorem items_of_decided (h : Decided p xs rest) (more : Text) :
    Item.items (p ++ more) = xs ++ Item.items (rest ++ more) := by
  induction h with
  | nothing => rfl
  | settled hm hs _ ih =>
    rw [List.append_assoc, Rendering.items_of_settled hm (hs more), ih, List.cons_append]
  | stray h _ ih => rw [List.cons_append, items_of_stray h, ih, List.cons_append]

theorem textOf_of_decided (h : Decided p xs rest) : textOf xs ++ rest = p := by
  induction h with
  | nothing => rfl
  | settled _ _ _ ih => rw [Item.textOf_cons, List.append_assoc, ih]
  | stray _ _ ih => rw [Item.textOf_cons, List.append_assoc, ih, List.singleton_append]

/-- Whatever follows the text `rest`, the items that begin in it end at most one character before
its end, and none is an unexpected character in it. -/
def Undecided (rest : Text) : Prop :=
  ∀ more, ∀ q ∈ Placed.ofItems [] (Item.items (rest ++ more)),
    rest.length < q.endOffset + 2
      ∧ (q.item.shape = .fault .unexpectedCharacter → rest.length ≤ q.start)

theorem start_lt_endOffset {before t : Text} {q : Placed}
    (h : q ∈ Placed.ofItems before (Item.items t)) : q.start < q.endOffset := by
  have hne := Item.text_ne_nil_of_mem_items (Placed.item_mem_of_mem_ofItems h)
  exact Nat.lt_add_of_pos_right (List.length_pos_iff.mpr hne)

/-- A point is no unexpected character. -/
theorem shape_cut_point (more : Text) : (Item.cut '.' more).1.shape = .token (.operator .dot) := by
  have hcut : Item.cut '.' more = Item.cutOperator .dot '.' more :=
    Item.cut_of_operator rfl fun hc => absurd hc (by decide)
  rw [hcut, Item.cutOperator_alone fun hw => absurd rfl hw]

/-- No unexpected character begins at a point. -/
theorem length_le_start_of_point {q : Placed} {more : Text}
    (h : q ∈ Placed.ofItems text (Item.items ('.' :: more)))
    (hshape : q.item.shape = .fault .unexpectedCharacter) : text.length + 1 ≤ q.start := by
  rw [Item.items_cons] at h
  rcases List.mem_cons.mp h with rfl | h
  · rw [shape_cut_point] at hshape
    cases hshape
  · have hle := Placed.length_le_start_of_mem h
    have hpos := List.length_pos_iff.mpr (Item.cut_text_ne_nil '.' more)
    rw [List.length_append] at hle
    omega

/-- The match that a text begins with, together with the items behind it, is undecided if what the
text has behind the match is not decisive. -/
theorem undecided_of_settled {more : Text} {q : Placed} (hm : Matches shape text)
    (hs : Settled shape text after) (heq : p ++ more = text ++ after)
    (hp : ∀ tail, p = text ++ tail → after = tail ++ more → ¬ IsDecisive tail)
    (hq : q ∈ Placed.ofItems [] (Item.items (p ++ more))) :
    p.length < q.endOffset + 2
      ∧ (q.item.shape = .fault .unexpectedCharacter → p.length ≤ q.start) := by
  -- the match goes up to the end of `p`, or leaves only a point of it
  have hcases : p.length ≤ text.length ∨ (p = text ++ ['.'] ∧ after = '.' :: more) := by
    rcases List.append_eq_append_iff.mp heq with ⟨s, rfl, _⟩ | ⟨tail, htext, hafter⟩
    · exact Or.inl (by rw [List.length_append]; exact Nat.le_add_right _ _)
    · by_cases hnil : tail = []
      · rw [htext, hnil, List.append_nil]
        exact Or.inl (Nat.le_refl _)
      by_cases hpoint : tail = ['.']
      · rw [hpoint] at htext hafter
        exact Or.inr ⟨htext, hafter⟩
      · exact absurd ⟨hnil, hpoint⟩ (hp tail htext hafter)
  have hlength : p.length ≤ text.length + 1 := by
    rcases hcases with hle | ⟨rfl, _⟩
    · exact Nat.le_succ_of_le hle
    · rw [List.length_append]
      exact Nat.le_refl _
  rw [heq, Rendering.items_of_settled hm hs] at hq
  rcases List.mem_cons.mp hq with rfl | hq
  · have hend : Placed.endOffset ⟨[], ⟨shape, text⟩⟩ = text.length := Nat.zero_add _
    exact ⟨by omega, fun hshape => absurd hshape (shape_ne_fault_of_matches hm _)⟩
  · rw [List.nil_append] at hq
    have hstart : text.length ≤ q.start := Placed.length_le_start_of_mem hq
    have hend := start_lt_endOffset hq
    refine ⟨by omega, fun hshape => ?_⟩
    rcases hcases with hle | ⟨rfl, hafter⟩
    · exact Nat.le_trans hle hstart
    · rw [hafter] at hq
      rw [List.length_append]
      exact length_le_start_of_point hq hshape

/-- A text is undecided if it begins neither with a match that it settles nor with a stray
character. -/
theorem undecided_of_forall (hsettled : ∀ shape text tail more, Matches shape text →
      Settled shape text (tail ++ more) → p = text ++ tail → ¬ IsDecisive tail)
    (hstray : ∀ c tail, p = c :: tail → ¬ Item.IsStray c) : Undecided p := by
  intro more q hq
  cases p with
  | nil => exact ⟨Nat.succ_pos _, fun _ => Nat.zero_le _⟩
  | cons c tail =>
    rcases first_cases_settled c (tail ++ more) with
      ⟨shape, text, after, heq, hm, hs⟩ | ⟨rfl, hopen⟩ | h
    · refine undecided_of_settled hm hs heq (fun tail htext hafter => ?_) hq
      rw [hafter] at hs
      exact hsettled shape text tail more hm hs htext
    · rw [List.cons_append, items_of_unclosed hopen] at hq
      obtain rfl := List.mem_singleton.mp hq
      refine ⟨?_, fun hshape => by cases hshape⟩
      simp only [Placed.endOffset, List.length_cons, List.length_append]
      omega
    · exact absurd h (hstray c tail rfl)

/-- A beginning of a text decides items up to where it is undecided. -/
theorem exists_decided (p : Text) : ∃ xs rest, Decided p xs rest ∧ Undecided rest := by
  induction hn : p.length using Nat.strongRecOn generalizing p with
  | ind n ih =>
    subst hn
    by_cases hsettled : ∃ shape text tail more, Matches shape text
        ∧ Settled shape text (tail ++ more) ∧ p = text ++ tail ∧ IsDecisive tail
    · obtain ⟨shape, text, tail, more, hm, hs, rfl, htail⟩ := hsettled
      have hpos := List.length_pos_iff.mpr (ne_nil_of_matches hm)
      have hlt : tail.length < (text ++ tail).length := by
        rw [List.length_append]
        omega
      obtain ⟨xs, rest, hdecided, hrest⟩ := ih _ hlt tail rfl
      exact ⟨_, rest, .settled hm (settled_append_of_decisive htail hs) hdecided, hrest⟩
    by_cases hstray : ∃ c tail, p = c :: tail ∧ Item.IsStray c
    · obtain ⟨c, tail, rfl, hc⟩ := hstray
      obtain ⟨xs, rest, hdecided, hrest⟩ := ih _ (Nat.lt_succ_self _) tail rfl
      exact ⟨_, rest, .stray hc hdecided, hrest⟩
    · refine ⟨[], p, .nothing p, undecided_of_forall ?_ ?_⟩
      · exact fun shape text tail more hm hs hp htail =>
          hsettled ⟨shape, text, tail, more, hm, hs, hp, htail⟩
      · exact fun c tail hp hc => hstray ⟨c, tail, hp, hc⟩

end Grammar

/-! ## Items that a beginning decides -/

namespace Placed

variable {p rest : Text} {xs : List Item}

/-- Whether an item ends two characters before the offset `n`, or is an unexpected character before
it. -/
def Early (n : Nat) (q : Placed) : Prop :=
  q.endOffset + 2 ≤ n ∨ (q.item.shape = .fault .unexpectedCharacter ∧ q.start < n)

/-- Of the items behind a decided beginning none is early. -/
theorem not_early_of_undecided (hd : Grammar.Decided p xs rest) (hr : Grammar.Undecided rest)
    (more : Text) :
    ∀ q ∈ ofItems (Item.textOf xs) (Item.items (rest ++ more)), ¬ q.Early p.length := by
  have hbehind := ofItems_behind (Item.textOf xs) [] (Item.items (rest ++ more))
  rw [List.append_nil] at hbehind
  rw [hbehind, List.forall_mem_map]
  intro q hq
  have hlength := congrArg List.length (Grammar.textOf_of_decided hd)
  rw [List.length_append] at hlength
  obtain ⟨hend, hstart⟩ := hr more q hq
  have hbehindStart : (behind (Item.textOf xs) q).start = (Item.textOf xs).length + q.start :=
    List.length_append
  have hbehindEnd : (behind (Item.textOf xs) q).endOffset
      = (Item.textOf xs).length + q.endOffset := by
    simp only [endOffset, behind, List.length_append, Nat.add_assoc]
  rintro (hearly | ⟨hshape, hearly⟩)
  · omega
  · have hle := hstart hshape
    omega

/-- The early items of a text are the same whatever follows its beginning. -/
theorem filter_early_ofItems {keep : Placed → Bool}
    (hkeep : ∀ q, keep q = true → q.Early p.length) (s t : Text) :
    (ofItems [] (Item.items (p ++ s))).filter keep
      = (ofItems [] (Item.items (p ++ t))).filter keep := by
  obtain ⟨xs, rest, hd, hr⟩ := Grammar.exists_decided p
  have hfirst : ∀ more, (ofItems [] (Item.items (p ++ more))).filter keep
      = (ofItems [] xs).filter keep := by
    intro more
    have hlater : (ofItems (Item.textOf xs) (Item.items (rest ++ more))).filter keep = [] :=
      List.filter_eq_nil_iff.mpr fun q hq hk =>
        not_early_of_undecided hd hr more q hq (hkeep q hk)
    rw [Grammar.items_of_decided hd, ofItems_append_textOf, List.filter_append, List.nil_append,
      hlater, List.append_nil]
  rw [hfirst s, hfirst t]

end Placed

/-! ## Tokens and their offsets -/

/-- A token and the offsets between which it stands. -/
structure Span where
  token : Token
  start : Nat
  stop : Nat
deriving DecidableEq, Repr

/-- The token of a step, between the two offsets of the cursor behind it. -/
def Step.span (s : Step) : Span := ⟨s.token, s.cursor.itemStart, s.cursor.offset⟩

/-- The token that an item is, if it is one, in its place. -/
def Placed.span? (q : Placed) : Option Span := q.token?.map (⟨·, q.start, q.endOffset⟩)

namespace Cursor

variable {c : Cursor} {before : Text}

/-- From a place behind the text `before`, the tokens of the items ahead are given out in their
places, and then the end of the input. -/
theorem span_drain (hf : c.finished = false) (hoffset : c.offset = before.length)
    (hline : c.line = 1 + Text.newlines before) :
    c.drain.map Step.span
      = (Placed.ofItems before (Item.items c.rest)).filterMap Placed.span?
        ++ [⟨.endOfInput (1 + Text.newlines (before ++ c.rest) : Nat), (before ++ c.rest).length,
          (before ++ c.rest).length⟩] := by
  induction hn : c.rest.length using Nat.strongRecOn generalizing c before with
  | ind n ih =>
    subst hn
    cases hrest : c.rest with
    | nil =>
      rw [drain_of_nil hrest hf, Item.items_nil, List.append_nil, ← hoffset, ← hline]
      rfl
    | cons first rest =>
      have hnextOffset : (c.passFirst first rest).offset
          = (before ++ (Item.cut first rest).1.text).length := by
        rw [List.length_append, ← hoffset]
        rfl
      have hnextLine : (c.passFirst first rest).line
          = 1 + Text.newlines (before ++ (Item.cut first rest).1.text) := by
        rw [Text.newlines_append, ← Nat.add_assoc, ← hline]
        rfl
      have hrec := ih _ (length_rest_passFirst_lt hrest) (c := c.passFirst first rest)
        hf hnextOffset hnextLine rfl
      have hahead : (c.passFirst first rest).rest = (Item.cut first rest).2 := rfl
      rw [hahead, List.append_assoc, Item.cut_append first rest] at hrec
      rw [Item.items_cons, Placed.filterMap_ofItems_cons, List.append_assoc, ← hrec]
      cases hshape : (Item.cut first rest).1.shape with
      | token kind =>
        have hspan : Placed.span? ⟨before, (Item.cut first rest).1⟩
            = some ⟨⟨kind, (Item.cut first rest).1.text, c.line⟩, c.offset,
              c.offset + (Item.cut first rest).1.text.length⟩ := by
          rw [Placed.span?, Placed.token?, hshape, hline, hoffset]
          rfl
        rw [drain_of_token hrest hshape, List.map_cons, hspan]
        rfl
      | blank =>
        rw [drain_of_skipped hrest (Or.inl hshape)]
        simp [Placed.span?, Placed.token?, hshape]
      | comment =>
        rw [drain_of_skipped hrest (Or.inr hshape)]
        simp [Placed.span?, Placed.token?, hshape]
      | fault f =>
        -- the report on the first step behind the fault is no part of its token's place
        obtain ⟨s, steps, hafter, hdrain⟩ := drain_of_fault hrest hf hshape
        rw [hdrain, hafter]
        simp [Placed.span?, Placed.token?, hshape, Step.span, Step.reporting]

end Cursor

/-! ## Two characters ahead -/

/-- The tokens of a scan, each in its place. -/
def spans (source : Text) : List Span := (Cursor.ofText source).drain.map Step.span

/-- The unexpected characters among items, as far as they stand before the offset `n`. -/
def Placed.unexpected (n : Nat) (items : List Item) : List Placed :=
  (ofItems [] items).filter fun q =>
    q.item.shape = .fault .unexpectedCharacter ∧ q.start < n

theorem tokens_eq_spans (source : Text) : (scan source).tokens = (spans source).map Span.token := by
  rw [spans, List.map_map]
  rfl

theorem spans_eq_ofItems (source : Text) :
    spans source = (Placed.ofItems [] (Item.items source)).filterMap Placed.span?
      ++ [⟨.endOfInput (1 + Text.newlines source : Nat), source.length, source.length⟩] :=
  Cursor.span_drain rfl rfl rfl

theorem stop_of_span? {q : Placed} {span : Span} (h : q.span? = some span) :
    span.stop = q.endOffset := by
  obtain ⟨token, _, rfl⟩ := Option.map_eq_some_iff.mp h
  rfl

/-- The tokens that end two characters before the end of a beginning are early items. -/
theorem filter_spans (p more : Text) :
    (spans (p ++ more)).filter (·.stop + 2 ≤ p.length)
      = ((Placed.ofItems [] (Item.items (p ++ more))).filter (·.endOffset + 2 ≤ p.length)).filterMap
          Placed.span? := by
  have hend : ¬ (p ++ more).length + 2 ≤ p.length := by
    rw [List.length_append]
    omega
  rw [spans_eq_ofItems, List.filter_append, List.filter_filterMap, List.filterMap_filter,
    List.filter_singleton]
  simp only [hend, decide_false, cond_false, List.append_nil]
  refine List.filterMap_congr fun q _ => ?_
  cases hspan : q.span? with
  | none => simp
  | some span => simp [Option.filter, stop_of_span? hspan]

/-- Two characters of lookahead are enough. Whatever follows the text `p`, the tokens that end two
characters before its end are the same and in the same places, and so are the unexpected characters
in it. -/
theorem scan_two_ahead (p s t : Text) :
    (∀ source, (scan source).tokens = (spans source).map Span.token)
      ∧ (spans (p ++ s)).filter (·.stop + 2 ≤ p.length)
        = (spans (p ++ t)).filter (·.stop + 2 ≤ p.length)
      ∧ ∃ xs ys, Grammar.Itemised (p ++ s) xs ∧ Grammar.Itemised (p ++ t) ys
        ∧ (scan (p ++ s)).diagnostics = Placed.diagnostics [] xs
        ∧ (scan (p ++ t)).diagnostics = Placed.diagnostics [] ys
        ∧ Placed.unexpected p.length xs = Placed.unexpected p.length ys := by
  have htokens : (Placed.ofItems [] (Item.items (p ++ s))).filter (·.endOffset + 2 ≤ p.length)
      = (Placed.ofItems [] (Item.items (p ++ t))).filter (·.endOffset + 2 ≤ p.length) :=
    Placed.filter_early_ofItems (fun _ hq => Or.inl (of_decide_eq_true hq)) s t
  have hunexpected : Placed.unexpected p.length (Item.items (p ++ s))
      = Placed.unexpected p.length (Item.items (p ++ t)) :=
    Placed.filter_early_ofItems (fun _ hq => Or.inr (of_decide_eq_true hq)) s t
  refine ⟨tokens_eq_spans, ?_, Item.items (p ++ s), Item.items (p ++ t), ?_, ?_,
    scan_diagnostics _, scan_diagnostics _, hunexpected⟩
  · rw [filter_spans, filter_spans, htokens]
  · exact Grammar.itemised_items _
  · exact Grammar.itemised_items _

/-- One character is not enough: a point may belong to the number before it. -/
example : (spans "12.".toList).filter (·.stop + 1 ≤ 3)
    ≠ (spans "12.3".toList).filter (·.stop + 1 ≤ 3) := by
  decide +kernel

end LoxLexer
