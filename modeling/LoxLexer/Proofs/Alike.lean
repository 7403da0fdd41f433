/-
  Texts that scan alike. The items of two texts correspond when those of the second are those of
  the first in order, each of the same shape and over as many lines, while blanks and comments
  within a line may be missing (`Corresponds`). Then the two scans differ in nothing but how the
  tokens are spelled (`scan_of_corresponds`). That an item of the first text is one of the second
  too depends on what follows it there; two characters of this are enough
  (`settled_of_looksLike`).
-/
import LoxLexer.Proofs.Rendered

namespace LoxLexer

/-! ## Two characters ahead -/

namespace Text

variable {t u : Text}

/-- The text is empty or begins with a blank. -/
def BeginsBlank (t : Text) : Prop := ∀ c ∈ t.head?, Item.isBlank c = true

/-- As far as one character ahead, the text `u` is like `t`, or shows a blank or nothing. -/
def NextLike (t u : Text) : Prop := u.BeginsBlank ∨ u.head? = t.head?

/-- As far as two characters ahead, the second text is like the first, or shows a blank or
nothing. -/
inductive LooksLike : Text → Text → Prop
  | blank {t u : Text} (h : u.BeginsBlank) : LooksLike t u
  | cons (c : Char) {t u : Text} (h : NextLike t u) : LooksLike (c :: t) (c :: u)

theorem beginsBlank_nil : BeginsBlank [] := by
  intro c hc
  cases hc

theorem beginsBlank_cons {c : Char} (h : Item.isBlank c = true) (t : Text) :
    BeginsBlank (c :: t) := by
  intro d hd
  obtain rfl := Option.some.inj hd
  exact h

theorem BeginsBlank.head?_ne (h : t.BeginsBlank) {d : Char} (hd : Item.isBlank d = false) :
    t.head? ≠ some d := by
  intro he
  rw [h d he] at hd
  cases hd

end Text

namespace Item

theorem isWordChar_of_isBlank {c : Char} (h : isBlank c = true) : isWordChar c = false := by
  rcases eq_of_isBlank h with rfl | rfl | rfl | rfl <;> decide

end Item

namespace Grammar

variable {kind : TokenKind} {text text' after after' : Text}

/-- A blank, or the end of the text, settles whatever token stands before it. -/
theorem settled_of_beginsBlank (h : after.BeginsBlank) : Settled (.token kind) text after := by
  have hword : ∀ c ∈ after.head?, Item.isWordChar c = false :=
    fun c hc => Item.isWordChar_of_isBlank (h c hc)
  cases kind with
  | operator op =>
    exact ⟨fun _ => h.head?_ne (by decide), fun _ => h.head?_ne (by decide)⟩
  | identifier => exact hword
  | keyword k => exact hword
  | number =>
    refine ⟨fun c hc => (Item.classes_of_isBlank (h c hc)).2.2.1, fun _ d rest heq => ?_⟩
    exact absurd (congrArg List.head? heq) (h.head?_ne (by decide))
  | string => trivial
  | endOfInput => trivial

/-- A token that is settled is so too before a text that looks like the one behind it. -/
theorem settled_of_looksLike (hs : Settled (.token kind) text after)
    (h : Text.LooksLike after after') (hdot : '.' ∈ text → '.' ∈ text') :
    Settled (.token kind) text' after' := by
  cases h with
  | blank h => exact settled_of_beginsBlank h
  | @cons c t u h =>
    cases kind with
    | number =>
      refine ⟨hs.1, fun hnone d rest heq => ?_⟩
      obtain ⟨rfl, rfl⟩ := List.cons.inj heq
      rcases h with h | h
      · exact (Item.classes_of_isBlank (h d rfl)).2.2.1
      · obtain ⟨more, rfl⟩ := List.head?_eq_some_iff.mp h.symm
        exact hs.2 (fun hin => hnone (hdot hin)) d more rfl
    | _ => exact hs

/-! ## Texts by what they begin with -/

/-- Induction on a text by what it begins with: a settled match, a quote that nothing closes, or a
stray character. -/
theorem text_induction {motive : Text → Prop} (nil : motive [])
    (settled : ∀ {shape text after}, Matches shape text → Settled shape text after →
      motive after → motive (text ++ after))
    (unclosed : ∀ {rest}, '"' ∉ rest → motive ('"' :: rest))
    (stray : ∀ {c rest}, Item.IsStray c → motive rest → motive (c :: rest)) (t : Text) :
    motive t := by
  induction hn : t.length using Nat.strongRecOn generalizing t with
  | ind n ih =>
    subst hn
    cases t with
    | nil => exact nil
    | cons c rest =>
      rcases first_cases_settled c rest with
        ⟨shape, text, after, heq, hm, hs⟩ | ⟨rfl, hopen⟩ | hstray
      · have hpos := List.length_pos_iff.mpr (ne_nil_of_matches hm)
        have hlt : after.length < (c :: rest).length := by
          rw [heq, List.length_append]
          omega
        rw [heq]
        exact settled hm hs (ih _ hlt after rfl)
      · exact unclosed hopen
      · exact stray hstray (ih _ (Nat.lt_succ_self _) rest rfl)

theorem items_of_unclosed {rest : Text} (h : '"' ∉ rest) :
    Item.items ('"' :: rest) = [⟨.fault .unterminatedString, '"' :: rest⟩] := by
  rw [Item.items_cons, Item.cut_of_quote, Item.cutString_open h, Item.items_nil]

theorem items_of_stray {c : Char} (h : Item.IsStray c) (rest : Text) :
    Item.items (c :: rest) = ⟨.fault .unexpectedCharacter, [c]⟩ :: Item.items rest := by
  rw [Item.items_cons, Item.cut_of_stray h]

end Grammar

/-! ## Corresponding items -/

namespace Item

/-- Two items of one shape and over as many lines; of a token the text `x` is respelled by `f`. -/
structure Like (f : Text → Text) (x y : Item) : Prop where
  shape : y.shape = x.shape
  newlines : Text.newlines y.text = Text.newlines x.text
  text : x.IsToken → y.text = f x.text

/-- The second items are like the first, in order; of the first, blanks and comments within a line
may have nothing that corresponds to them. -/
inductive Corresponds (f : Text → Text) : List Item → List Item → Prop
  | nil : Corresponds f [] []
  | kept {x y : Item} {xs ys : List Item} (h : Like f x y) (hr : Corresponds f xs ys) :
      Corresponds f (x :: xs) (y :: ys)
  | dropped {x : Item} {xs ys : List Item} (hs : x.IsSkipped) (hn : Text.newlines x.text = 0)
      (hr : Corresponds f xs ys) : Corresponds f (x :: xs) ys

variable {f : Text → Text} {xs ys : List Item}

theorem like_self {x : Item} (h : x.IsToken → f x.text = x.text) : Like f x x :=
  ⟨rfl, rfl, fun hx => (h hx).symm⟩

theorem newlines_of_corresponds (h : Corresponds f xs ys) :
    Text.newlines (textOf ys) = Text.newlines (textOf xs) := by
  induction h with
  | nil => rfl
  | kept hlike _ ih =>
    rw [textOf_cons, textOf_cons, Text.newlines_append, Text.newlines_append, hlike.newlines, ih]
  | dropped _ hn _ ih => rw [textOf_cons, Text.newlines_append, hn, Nat.zero_add, ih]

end Item

/-- The token with its text respelled. -/
def Token.respelled (f : Text → Text) (t : Token) : Token := { t with lexeme := f t.lexeme }

namespace Placed

variable {f : Text → Text} {x y : Item} {xs ys : List Item} {before before' : Text}

theorem token?_of_like (h : Item.Like f x y)
    (hb : Text.newlines before' = Text.newlines before) :
    token? ⟨before', y⟩ = (token? ⟨before, x⟩).map (.respelled f) := by
  have hline : line ⟨before', y⟩ = line ⟨before, x⟩ := by rw [line, line, hb]
  cases hs : x.shape with
  | token kind =>
    simp [token?, h.shape, hs, hline, h.text ⟨kind, hs⟩, Token.respelled]
  | _ => simp [token?, h.shape, hs]

theorem diagnostic?_of_like (h : Item.Like f x y)
    (hb : Text.newlines before' = Text.newlines before) :
    diagnostic? ⟨before', y⟩ = diagnostic? ⟨before, x⟩ := by
  have hline : line ⟨before', y⟩ = line ⟨before, x⟩ := by rw [line, line, hb]
  have hend : Text.newlines (before' ++ y.text) = Text.newlines (before ++ x.text) := by
    rw [Text.newlines_append, Text.newlines_append, hb, h.newlines]
  simp only [diagnostic?, h.shape, hline, hend]

/-- What is seen of items alike, and not of those that are skipped, is seen of corresponding
items in the same order. -/
theorem filterMap_of_corresponds {α : Type} {look : Placed → Option α} {m : α → α}
    (hlike : ∀ {x y before before'}, Item.Like f x y →
      Text.newlines before' = Text.newlines before → look ⟨before', y⟩ = (look ⟨before, x⟩).map m)
    (hskipped : ∀ {p : Placed}, p.item.IsSkipped → look p = none)
    (h : Item.Corresponds f xs ys) (hb : Text.newlines before' = Text.newlines before) :
    (ofItems before' ys).filterMap look = ((ofItems before xs).filterMap look).map m := by
  induction h generalizing before before' with
  | nil => rfl
  | @kept x y xs ys hxy _ ih =>
    have hnext : Text.newlines (before' ++ y.text) = Text.newlines (before ++ x.text) := by
      rw [Text.newlines_append, Text.newlines_append, hb, hxy.newlines]
    rw [filterMap_ofItems_cons, filterMap_ofItems_cons, List.map_append, ih hnext, hlike hxy hb,
      Option.toList_map]
  | @dropped x xs ys hs hn _ ih =>
    have hnext : Text.newlines before' = Text.newlines (before ++ x.text) := by
      rw [Text.newlines_append, hn, Nat.add_zero, hb]
    have hnone : look ⟨before, x⟩ = none := hskipped hs
    rw [filterMap_ofItems_cons, hnone, ih hnext]
    rfl

theorem tokens_of_corresponds (h : Item.Corresponds f xs ys)
    (hb : Text.newlines before' = Text.newlines before) :
    tokens before' ys = (tokens before xs).map (.respelled f) :=
  filterMap_of_corresponds token?_of_like (fun hs => token?_of_not_isToken hs.not_isToken) h hb

theorem diagnostics_of_corresponds (h : Item.Corresponds f xs ys)
    (hb : Text.newlines before' = Text.newlines before) :
    diagnostics before' ys = diagnostics before xs := by
  have hlike : ∀ {x y : Item} {before before' : Text}, Item.Like f x y →
      Text.newlines before' = Text.newlines before →
      diagnostic? ⟨before', y⟩ = (diagnostic? ⟨before, x⟩).map id := by
    intro x y before before' hxy hb
    rw [Option.map_id_fun, id, diagnostic?_of_like hxy hb]
  have hmap := filterMap_of_corresponds hlike diagnostic?_of_skipped h hb
  rwa [List.map_id] at hmap

end Placed

/-- Texts whose items correspond have the same scan, but that the tokens are respelled. -/
theorem scan_of_corresponds {f : Text → Text} {source other : Text} (hf : f [] = [])
    (h : Item.Corresponds f (Item.items source) (Item.items other)) :
    scan other = ⟨(scan source).tokens.map (.respelled f), (scan source).diagnostics⟩ := by
  have hlines := Item.newlines_of_corresponds h
  rw [Item.textOf_items, Item.textOf_items] at hlines
  have hlast : (Token.endOfInput (1 + Text.newlines source : Nat)).respelled f
      = .endOfInput (1 + Text.newlines other : Nat) := by
    rw [hlines, Token.respelled, Token.endOfInput, hf]
  have htokens : (scan other).tokens = (scan source).tokens.map (.respelled f) := by
    rw [scan_tokens, scan_tokens, List.map_append, List.map_singleton, hlast,
      Placed.tokens_of_corresponds h rfl]
  have hdiagnostics : (scan other).diagnostics = (scan source).diagnostics := by
    rw [scan_diagnostics, scan_diagnostics, Placed.diagnostics_of_corresponds h rfl]
  rw [← htokens, ← hdiagnostics]

end LoxLexer
