/-
  Reserved words. A word is reserved when it is spelled exactly as a keyword, letter case
  included; `ofSpelling?` finds the keyword and is inverse to `spelling`.
-/
import LoxLexer.Text

namespace LoxLexer

/-- The reserved words, in the order in which kinds of token are numbered. -/
inductive Keyword
  | andWord | classWord | elseWord | falseWord | funWord | forWord | ifWord | nilWord
  | orWord | printWord | returnWord | superWord | thisWord | trueWord | varWord | whileWord
deriving DecidableEq, Repr

namespace Keyword

/-- Every keyword, in the order of the numbers. -/
def all : List Keyword :=
  [andWord, classWord, elseWord, falseWord, funWord, forWord, ifWord, nilWord,
    orWord, printWord, returnWord, superWord, thisWord, trueWord, varWord, whileWord]

/-- The text of a keyword in a program. -/
def spelling : Keyword → Text
  | andWord => "and".toList | classWord => "class".toList | elseWord => "else".toList
  | falseWord => "false".toList | funWord => "fun".toList | forWord => "for".toList
  | ifWord => "if".toList | nilWord => "nil".toList | orWord => "or".toList
  | printWord => "print".toList | returnWord => "return".toList | superWord => "super".toList
  | thisWord => "this".toList | trueWord => "true".toList | varWord => "var".toList
  | whileWord => "while".toList

/-- The name under which a keyword is printed: its spelling in capitals. -/
def name (k : Keyword) : Text := k.spelling.map Char.toUpper

/-- The keyword that a word is, if it is one. -/
def ofSpelling? (word : Text) : Option Keyword := all.find? fun k => k.spelling == word

theorem mem_all (k : Keyword) : k ∈ all := by cases k <;> decide

theorem ofSpelling?_spelling (k : Keyword) : ofSpelling? k.spelling = some k := by
  cases k <;> decide

theorem ofSpelling?_eq_some_iff {word : Text} {k : Keyword} :
    ofSpelling? word = some k ↔ k.spelling = word := by
  constructor
  · intro h
    simpa using List.find?_some h
  · rintro rfl
    exact ofSpelling?_spelling k

end Keyword

end LoxLexer
