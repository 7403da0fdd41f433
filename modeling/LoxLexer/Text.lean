/-
  Texts as lists of characters. An offset into a text counts characters, and only `'\n'` ends
  a line, so the line of an offset is one more than the line ends before it (`newlines_append`).
-/

namespace LoxLexer

/-- A text is the list of its characters. -/
abbrev Text := List Char

namespace Text

/-- The number of line ends in a text. -/
def newlines (t : Text) : Nat := t.count '\n'

theorem newlines_nil : newlines [] = 0 := rfl

theorem newlines_cons (c : Char) (t : Text) :
    newlines (c :: t) = (if c = '\n' then 1 else 0) + newlines t := by
  by_cases h : c = '\n' <;> simp [newlines, h, Nat.add_comm]

theorem newlines_append (s t : Text) : newlines (s ++ t) = newlines s + newlines t :=
  List.count_append

theorem newlines_eq_zero {t : Text} (h : ∀ c ∈ t, c ≠ '\n') : newlines t = 0 :=
  List.count_eq_zero.mpr fun hm => h '\n' hm rfl

/-- The texts in order with `sep` between neighbours. -/
def joined (sep : Text) : List Text → Text
  | [] => []
  | [t] => t
  | t :: ts => t ++ sep ++ joined sep ts

end Text

end LoxLexer
