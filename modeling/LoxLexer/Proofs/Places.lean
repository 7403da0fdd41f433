/-
  Where the items of a text stand. The text before a placed item is a beginning of the whole text,
  so its line is that of its offset (`lineAt`). Items are not empty, so the items passed up to an
  offset are those that begin before it (`filter_start_ofItems`). A string that is not closed is
  the last item (`text_of_unterminated`), which puts its report on the last line. Together:
  every line that a scan produces is the line of a place in the text (`scan_lines`).
-/
import LoxLexer.Proofs.LongestMatch
import Mathlib.Data.List.Basic

namespace LoxLexer

/-! ## Lines of offsets -/

namespace Text

/-- The line of an offset: one more than the line ends before it. -/
def lineAt (source : Text) (offset : Nat) : Nat := 1 + newlines (source.take offset)

theorem lineAt_of_prefix {source before : Text} (h : before <+: source) :
    source.lineAt before.length = 1 + newlines before := by
  rw [lineAt, ← List.prefix_iff_eq_take.mp h]

end Text

/-! ## Texts of items -/

namespace Item

/-- The text that items make up. -/
def textOf (items : List Item) : Text := (items.map Item.text).flatten

@[simp] theorem textOf_nil : textOf [] = [] := rfl

@[simp] theorem textOf_cons (item : Item) (items : List Item) :
    textOf (item :: items) = item.text ++ textOf items := rfl

@[simp] theorem textOf_append (xs ys : List Item) : textOf (xs ++ ys) = textOf xs ++ textOf ys := by
  simp [textOf]

@[simp] theorem textOf_concat (items : List Item) (item : Item) :
    textOf (items ++ [item]) = textOf items ++ item.text := by
  simp [textOf]

@[simp] theorem textOf_items (t : Text) : textOf (items t) = t := flatten_items t

end Item

/-! ## Places of items -/

namespace Placed

/-- The offset at which an item begins. -/
def start (p : Placed) : Nat := p.before.length

variable {before : Text} {items : List Item} {p : Placed}

theorem ofItems_append_textOf (before : Text) (xs ys : List Item) :
    ofItems before (xs ++ ys) = ofItems before xs ++ ofItems (before ++ Item.textOf xs) ys :=
  ofItems_append before xs ys

/-- What stands before a placed item is made up of the items before it. -/
theorem exists_of_mem_ofItems (h : p ∈ ofItems before items) :
    ∃ front later, items = front ++ p.item :: later ∧ p.before = before ++ Item.textOf front := by
  induction items generalizing before with
  | nil => simp [ofItems] at h
  | cons item items ih =>
    rcases List.mem_cons.mp h with rfl | h
    · exact ⟨[], items, rfl, (List.append_nil before).symm⟩
    · obtain ⟨front, later, hitems, hbefore⟩ := ih h
      refine ⟨item :: front, later, by rw [hitems, List.cons_append], ?_⟩
      rw [hbefore, Item.textOf_cons, List.append_assoc]

theorem item_mem_of_mem_ofItems (h : p ∈ ofItems before items) : p.item ∈ items := by
  obtain ⟨front, later, rfl, _⟩ := exists_of_mem_ofItems h
  exact List.mem_append_right front List.mem_cons_self

theorem prefix_of_mem_ofItems (h : p ∈ ofItems before items) :
    p.before ++ p.item.text <+: before ++ Item.textOf items := by
  obtain ⟨front, later, rfl, hbefore⟩ := exists_of_mem_ofItems h
  rw [hbefore, Item.textOf_append, Item.textOf_cons, ← List.append_assoc, ← List.append_assoc]
  exact List.prefix_append _ _

theorem length_le_start_of_mem (h : p ∈ ofItems before items) : before.length ≤ p.start := by
  obtain ⟨front, later, _, hbefore⟩ := exists_of_mem_ofItems h
  unfold start
  rw [hbefore, List.length_append]
  omega

theorem start_lt_of_mem (hne : ∀ item ∈ items, item.text ≠ []) (h : p ∈ ofItems before items) :
    p.start < (before ++ Item.textOf items).length := by
  have hle := (prefix_of_mem_ofItems h).length_le
  have hpos := List.length_pos_iff.mpr (hne p.item (item_mem_of_mem_ofItems h))
  rw [List.length_append] at hle
  unfold start
  omega

/-- The items up to an offset between items are those that begin before it. -/
theorem filter_start_ofItems (before : Text) {xs : List Item} (ys : List Item)
    (hne : ∀ item ∈ xs, item.text ≠ []) :
    (ofItems before (xs ++ ys)).filter (·.start < (before ++ Item.textOf xs).length)
        = ofItems before xs
      ∧ (ofItems before (xs ++ ys)).filter (¬ ·.start < (before ++ Item.textOf xs).length)
        = ofItems (before ++ Item.textOf xs) ys := by
  have hxs : ∀ p ∈ ofItems before xs, p.start < (before ++ Item.textOf xs).length :=
    fun _ hp => start_lt_of_mem hne hp
  have hys : ∀ p ∈ ofItems (before ++ Item.textOf xs) ys,
      ¬ p.start < (before ++ Item.textOf xs).length :=
    fun _ hp => Nat.not_lt.mpr (length_le_start_of_mem hp)
  rw [ofItems_append_textOf, List.filter_append, List.filter_append]
  constructor
  · rw [List.filter_eq_self.mpr (by simpa using hxs),
      List.filter_eq_nil_iff.mpr (by simpa using hys), List.append_nil]
  · rw [List.filter_eq_nil_iff.mpr (by simpa using hxs),
      List.filter_eq_self.mpr (by simpa using hys), List.nil_append]

end Placed

/-! ## Tokens and diagnostics of a stretch of items -/

namespace Item

/-- Whether an item is a token. -/
def IsToken (item : Item) : Prop := ∃ kind, item.shape = .token kind

/-- Whether an item is neither a token nor a fault. -/
def IsSkipped (item : Item) : Prop := item.shape = .blank ∨ item.shape = .comment

theorem IsSkipped.not_isToken {item : Item} (h : item.IsSkipped) : ¬ item.IsToken := by
  rintro ⟨kind, hshape⟩
  rcases h with h | h <;> simp [h] at hshape

end Item

namespace Placed

theorem token?_of_not_isToken {p : Placed} (h : ¬ p.item.IsToken) : p.token? = none := by
  unfold token?
  split
  · rename_i kind hshape
    exact absurd ⟨kind, hshape⟩ h
  · rfl

theorem diagnostic?_of_skipped {p : Placed} (h : p.item.IsSkipped) : p.diagnostic? = none := by
  rcases h with h | h <;> simp [diagnostic?, h]

theorem diagnostic?_of_matches {shape : Shape} {text : Text} (h : Grammar.Matches shape text)
    (before : Text) : diagnostic? ⟨before, ⟨shape, text⟩⟩ = none := by
  cases h <;> rfl

/-- The tokens among items that stand behind a text. -/
def tokens (before : Text) (items : List Item) : List Token :=
  (ofItems before items).filterMap token?

/-- The diagnostics of items that stand behind a text. -/
def diagnostics (before : Text) (items : List Item) : List Diagnostic :=
  (ofItems before items).filterMap diagnostic?

variable {before : Text} {xs ys : List Item}

@[simp] theorem tokens_nil : tokens before [] = [] := rfl

@[simp] theorem diagnostics_nil : diagnostics before [] = [] := rfl

theorem filterMap_ofItems_cons {α : Type} (f : Placed → Option α) (before : Text) (item : Item)
    (items : List Item) :
    (ofItems before (item :: items)).filterMap f
      = (f ⟨before, item⟩).toList ++ (ofItems (before ++ item.text) items).filterMap f := by
  cases h : f ⟨before, item⟩ <;> simp [ofItems, h]

theorem filterMap_ofItems_append {α : Type} (f : Placed → Option α) (before : Text)
    (xs ys : List Item) :
    (ofItems before (xs ++ ys)).filterMap f
      = (ofItems before xs).filterMap f
        ++ (ofItems (before ++ Item.textOf xs) ys).filterMap f := by
  rw [ofItems_append_textOf, List.filterMap_append]

theorem tokens_cons (before : Text) (item : Item) (items : List Item) :
    tokens before (item :: items)
      = (token? ⟨before, item⟩).toList ++ tokens (before ++ item.text) items :=
  filterMap_ofItems_cons token? before item items

theorem diagnostics_cons (before : Text) (item : Item) (items : List Item) :
    diagnostics before (item :: items)
      = (diagnostic? ⟨before, item⟩).toList ++ diagnostics (before ++ item.text) items :=
  filterMap_ofItems_cons diagnostic? before item items

theorem tokens_append (before : Text) (xs ys : List Item) :
    tokens before (xs ++ ys) = tokens before xs ++ tokens (before ++ Item.textOf xs) ys :=
  filterMap_ofItems_append token? before xs ys

theorem diagnostics_append (before : Text) (xs ys : List Item) :
    diagnostics before (xs ++ ys)
      = diagnostics before xs ++ diagnostics (before ++ Item.textOf xs) ys :=
  filterMap_ofItems_append diagnostic? before xs ys

end Placed

theorem scan_tokens (source : Text) :
    (scan source).tokens = Placed.tokens [] (Item.items source)
      ++ [.endOfInput (1 + Text.newlines source : Nat)] := by
  rw [scan_eq_ofItems, Scan.ofItems, Item.flatten_items]
  rfl

theorem scan_diagnostics (source : Text) :
    (scan source).diagnostics = Placed.diagnostics [] (Item.items source) := by
  rw [scan_eq_ofItems]
  rfl

/-! ## Strings that are not closed -/

theorem Item.cut_of_unterminated {c : Char} {rest : Text}
    (h : (cut c rest).1.shape = .fault .unterminatedString) : (cut c rest).2 = [] := by
  rcases Grammar.first_cases_of_unmatched (Grammar.unmatched_of_fault h) with ⟨rfl, hopen⟩ | hstray
  · rw [cut_of_quote, cutString_open hopen]
  · rw [cut_of_stray hstray] at h
    cases h

/-- A string that is not closed goes on to the end of its text. -/
theorem Placed.text_of_unterminated {t before : Text} {p : Placed}
    (h : p ∈ ofItems before (Item.items t)) (hs : p.item.shape = .fault .unterminatedString) :
    p.before ++ p.item.text = before ++ t := by
  fun_induction Item.items t generalizing before with
  | case1 => simp [ofItems] at h
  | case2 c rest ih =>
    rw [← Item.cut_append c rest]
    rcases List.mem_cons.mp h with rfl | h
    · rw [Item.cut_of_unterminated hs, List.append_nil]
    · rw [ih h, List.append_assoc]

/-! ## Lines of a scan -/

namespace Placed

/-- The token of an item that stands in a text, on the line of the offset where it begins. -/
def tokenIn? (source : Text) (p : Placed) : Option Token :=
  match p.item.shape with
  | .token kind => some ⟨kind, p.item.text, source.lineAt p.start⟩
  | _ => none

/-- The diagnostic of an item that stands in a text: on the line of the offset where an unexpected
character stands, or on the line where the text ends. -/
def diagnosticIn? (source : Text) (p : Placed) : Option Diagnostic :=
  match p.item.shape with
  | .fault .unexpectedCharacter =>
    some (.ofFault (source.lineAt p.start) .unexpectedCharacter)
  | .fault .unterminatedString =>
    some (.ofFault (1 + Text.newlines source : Nat) .unterminatedString)
  | _ => none

variable {source : Text} {p : Placed}

theorem line_eq_lineAt (h : p ∈ ofItems [] (Item.items source)) :
    p.line = source.lineAt p.start := by
  have hbegins := prefix_of_mem_ofItems h
  rw [List.nil_append, Item.textOf_items] at hbegins
  exact (Text.lineAt_of_prefix ((List.prefix_append _ _).trans hbegins)).symm

theorem token?_eq_tokenIn? (h : p ∈ ofItems [] (Item.items source)) :
    p.token? = p.tokenIn? source := by
  cases hs : p.item.shape <;> simp only [token?, tokenIn?, hs, line_eq_lineAt h]

theorem diagnostic?_eq_diagnosticIn? (h : p ∈ ofItems [] (Item.items source)) :
    p.diagnostic? = p.diagnosticIn? source := by
  cases hs : p.item.shape with
  | fault f =>
    cases f with
    | unexpectedCharacter => simp only [diagnostic?, diagnosticIn?, hs, line_eq_lineAt h]
    | unterminatedString =>
      simp only [diagnostic?, diagnosticIn?, hs]
      rw [text_of_unterminated h hs, List.nil_append]
  | _ => simp only [diagnostic?, diagnosticIn?, hs]

end Placed

/-- Every line of a scan is the line of a place in the text: for a token, of the offset where it
begins; for the end of input, of the end of the text; for an unexpected character, of its own
offset; for a string that is not closed, of the end of the text. -/
theorem scan_lines (source : Text) :
    ∃ items, Grammar.Itemised source items
      ∧ (∀ p ∈ Placed.ofItems [] items, p.before ++ p.item.text <+: source)
      ∧ (scan source).tokens = (Placed.ofItems [] items).filterMap (·.tokenIn? source)
          ++ [.endOfInput (1 + Text.newlines source : Nat)]
      ∧ (scan source).diagnostics
          = (Placed.ofItems [] items).filterMap (·.diagnosticIn? source) := by
  refine ⟨Item.items source, Grammar.itemised_items source, ?_, ?_, ?_⟩
  · intro p hp
    simpa using Placed.prefix_of_mem_ofItems hp
  · rw [scan_tokens, Placed.tokens, List.filterMap_congr fun p hp => Placed.token?_eq_tokenIn? hp]
  · rw [scan_diagnostics, Placed.diagnostics,
      List.filterMap_congr fun p hp => Placed.diagnostic?_eq_diagnosticIn? hp]

end LoxLexer
