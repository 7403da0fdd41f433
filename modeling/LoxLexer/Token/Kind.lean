/-
  The thirty-nine kinds of token: operators, the three kinds with a text of their own, reserved
  words, and the end of input. A kind has a printed name and a number from 1 on.
-/
import LoxLexer.Token.Operator
import LoxLexer.Token.Keyword

namespace LoxLexer

/-- What a token is. -/
inductive TokenKind
  | operator (op : Operator)
  | identifier
  | string
  | number
  | keyword (k : Keyword)
  | endOfInput
deriving DecidableEq, Repr

namespace TokenKind

/-- Every kind, in the order of the numbers. -/
def all : List TokenKind :=
  Operator.all.map operator ++ [identifier, string, number] ++ Keyword.all.map keyword
    ++ [endOfInput]

/-- The name under which a kind is printed. -/
def name : TokenKind → Text
  | operator op => op.name
  | identifier => "IDENTIFIER".toList
  | string => "STRING".toList
  | number => "NUMBER".toList
  | keyword k => k.name
  | endOfInput => "EOF".toList

/-- The number of a kind: its place among all kinds, counted from 1. -/
def toNumber (kind : TokenKind) : Nat := all.idxOf kind + 1

/-- The kind with a given number, if there is one. -/
def ofNumber? (n : Int) : Option TokenKind :=
  if 1 ≤ n then all[n.toNat - 1]? else none

/-- The kind of a word: a keyword if it is spelled as one, else an identifier. -/
def ofWord (word : Text) : TokenKind :=
  match Keyword.ofSpelling? word with
  | some k => keyword k
  | none => identifier

theorem mem_all (kind : TokenKind) : kind ∈ all := by
  cases kind with
  | operator op => simp [all, Operator.mem_all]
  | keyword k => simp [all, Keyword.mem_all]
  | _ => simp [all]

theorem name_injective {a b : TokenKind} (h : a.name = b.name) : a = b := by
  have key : ∀ a ∈ all, ∀ b ∈ all, a.name = b.name → a = b := by decide
  exact key a (mem_all a) b (mem_all b) h

theorem ofNumber?_toNumber (kind : TokenKind) : ofNumber? kind.toNumber = some kind := by
  have h : (1 : Int) ≤ (all.idxOf kind + 1 : Nat) := by omega
  simp only [ofNumber?, toNumber, h, if_true, Int.toNat_natCast, Nat.add_sub_cancel]
  have hlt := List.idxOf_lt_length_iff.mpr (mem_all kind)
  rw [List.getElem?_eq_getElem hlt, List.getElem_idxOf hlt]

theorem ofWord_eq_keyword_iff {word : Text} {k : Keyword} :
    ofWord word = keyword k ↔ k.spelling = word := by
  rw [← Keyword.ofSpelling?_eq_some_iff]
  unfold ofWord
  cases Keyword.ofSpelling? word <;> simp

theorem ofWord_eq_identifier_iff {word : Text} :
    ofWord word = identifier ↔ ∀ k : Keyword, k.spelling ≠ word := by
  unfold ofWord
  cases h : Keyword.ofSpelling? word with
  | none => simpa [Keyword.ofSpelling?, Keyword.mem_all] using h
  | some k => simpa using ⟨k, Keyword.ofSpelling?_eq_some_iff.mp h⟩

end TokenKind

end LoxLexer
