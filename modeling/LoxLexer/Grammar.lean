/-
  The lexical grammar, as rules that say which texts are items of which shape, and the longest
  match on top of it. An item stands first in a text when it is the longest beginning that a rule
  matches. Where no rule matches a beginning, an opening quote takes the whole rest and any other
  character stands alone, as a fault. `Itemised` says that a list of items cuts a text this way
  from its beginning to its end. Nothing here refers to how items are found.
-/
import LoxLexer.Item

namespace LoxLexer.Grammar

/-! ## Rules -/

/-- One or more ASCII digits. -/
def IsDigits (t : Text) : Prop := t ≠ [] ∧ ∀ c ∈ t, c.isDigit = true

/-- Digits, or digits on both sides of one point. -/
inductive IsNumber : Text → Prop
  | whole {t : Text} (h : IsDigits t) : IsNumber t
  | decimal {s t : Text} (hs : IsDigits s) (ht : IsDigits t) : IsNumber (s ++ '.' :: t)

/-- A letter, then letters, ASCII digits and underscores. -/
inductive IsWord : Text → Prop
  | intro {c : Char} {t : Text} (hc : Text.isLetter c = true)
      (ht : ∀ d ∈ t, Item.isWordChar d = true) : IsWord (c :: t)

/-- Anything between quotes but a quote. -/
inductive IsString : Text → Prop
  | intro {t : Text} (h : '"' ∉ t) : IsString ('"' :: t ++ ['"'])

/-- Two slashes and anything but a line end. -/
inductive IsComment : Text → Prop
  | intro {t : Text} (h : '\n' ∉ t) : IsComment ('/' :: '/' :: t)

/-- The rules: which texts are items of which shape. -/
inductive Matches : Shape → Text → Prop
  | operator (op : Operator) : Matches (.token (.operator op)) op.spelling
  | number {t : Text} (h : IsNumber t) : Matches (.token .number) t
  | keyword (k : Keyword) : Matches (.token (.keyword k)) k.spelling
  | identifier {t : Text} (h : IsWord t) (hk : ∀ k : Keyword, k.spelling ≠ t) :
      Matches (.token .identifier) t
  | string {t : Text} (h : IsString t) : Matches (.token .string) t
  | comment {t : Text} (h : IsComment t) : Matches .comment t
  | blank {c : Char} (h : Item.isBlank c = true) : Matches .blank [c]

/-! ## Longest match -/

/-- No rule matches a beginning of the text. -/
def Unmatched (t : Text) : Prop := ∀ shape text, Matches shape text → ¬ text <+: t

/-- What stands first in a text. -/
inductive First : Text → Item → Prop
  | rule {t text : Text} {shape : Shape} (hm : Matches shape text) (hb : text <+: t)
      (hl : ∀ shape' text', Matches shape' text' → text' <+: t → text'.length ≤ text.length) :
      First t ⟨shape, text⟩
  | unterminated {t : Text} (hu : Unmatched ('"' :: t)) :
      First ('"' :: t) ⟨.fault .unterminatedString, '"' :: t⟩
  | unexpected {c : Char} {t : Text} (hc : c ≠ '"') (hu : Unmatched (c :: t)) :
      First (c :: t) ⟨.fault .unexpectedCharacter, [c]⟩

/-- The items cut the text from its beginning to its end, each standing first in what is left. -/
inductive Itemised : Text → List Item → Prop
  | nil : Itemised [] []
  | cons {item : Item} {rest : Text} {items : List Item} (hf : First (item.text ++ rest) item)
      (hr : Itemised rest items) : Itemised (item.text ++ rest) (item :: items)

/-! ## Matched texts are not empty -/

theorem ne_nil_of_matches {shape : Shape} {t : Text} (h : Matches shape t) : t ≠ [] := by
  cases h with
  | operator op => cases op <;> decide
  | number h =>
    cases h with
    | whole h => exact h.1
    | decimal hs _ => simp
  | keyword k => cases k <;> decide
  | identifier h _ => cases h; simp
  | string h => cases h; simp
  | comment h => cases h; simp
  | blank _ => simp

theorem text_ne_nil_of_first {t : Text} {item : Item} (h : First t item) : item.text ≠ [] := by
  cases h with
  | rule hm _ _ => exact ne_nil_of_matches hm
  | unterminated _ => simp
  | unexpected _ _ => simp

end LoxLexer.Grammar
