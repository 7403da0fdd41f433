/-
  Punctuation and operators: nineteen fixed spellings of one or two characters. Four of the
  one-character operators become another one when `=` follows (`withEqual?`), and every
  two-character spelling arises this way (`spelling_withEqual?`).
-/
import LoxLexer.Text

namespace LoxLexer

/-- The punctuation marks and operators, in the order in which kinds of token are numbered. -/
inductive Operator
  | leftParen | rightParen | leftBrace | rightBrace
  | comma | dot | minus | plus | semicolon | slash | star
  | bang | bangEqual | equal | equalEqual
  | greater | greaterEqual | less | lessEqual
deriving DecidableEq, Repr

namespace Operator

/-- Every operator, in the order of the numbers. -/
def all : List Operator :=
  [leftParen, rightParen, leftBrace, rightBrace, comma, dot, minus, plus, semicolon, slash, star,
    bang, bangEqual, equal, equalEqual, greater, greaterEqual, less, lessEqual]

/-- The text of an operator in a program. -/
def spelling : Operator → Text
  | leftParen => ['('] | rightParen => [')'] | leftBrace => ['{'] | rightBrace => ['}']
  | comma => [','] | dot => ['.'] | minus => ['-'] | plus => ['+'] | semicolon => [';']
  | slash => ['/'] | star => ['*']
  | bang => ['!'] | bangEqual => ['!', '=']
  | equal => ['='] | equalEqual => ['=', '=']
  | greater => ['>'] | greaterEqual => ['>', '=']
  | less => ['<'] | lessEqual => ['<', '=']

/-- The name under which an operator is printed. -/
def name : Operator → Text
  | leftParen => "LEFT_PAREN".toList | rightParen => "RIGHT_PAREN".toList
  | leftBrace => "LEFT_BRACE".toList | rightBrace => "RIGHT_BRACE".toList
  | comma => "COMMA".toList | dot => "DOT".toList
  | minus => "MINUS".toList | plus => "PLUS".toList
  | semicolon => "SEMICOLON".toList | slash => "SLASH".toList | star => "STAR".toList
  | bang => "BANG".toList | bangEqual => "BANG_EQUAL".toList
  | equal => "EQUAL".toList | equalEqual => "EQUAL_EQUAL".toList
  | greater => "GREATER".toList | greaterEqual => "GREATER_EQUAL".toList
  | less => "LESS".toList | lessEqual => "LESS_EQUAL".toList

/-- The operator that a character is on its own. -/
def ofChar? : Char → Option Operator
  | '(' => some leftParen | ')' => some rightParen | '{' => some leftBrace | '}' => some rightBrace
  | ',' => some comma | '.' => some dot | '-' => some minus | '+' => some plus
  | ';' => some semicolon | '/' => some slash | '*' => some star
  | '!' => some bang | '=' => some equal | '>' => some greater | '<' => some less
  | _ => none

/-- The operator that comes of this one when `=` follows it directly. -/
def withEqual? : Operator → Option Operator
  | bang => some bangEqual | equal => some equalEqual
  | greater => some greaterEqual | less => some lessEqual
  | _ => none

theorem mem_all (op : Operator) : op ∈ all := by cases op <;> decide

theorem ofChar?_eq_some_iff {c : Char} {op : Operator} :
    ofChar? c = some op ↔ op.spelling = [c] := by
  constructor
  · intro h
    unfold ofChar? at h
    split at h <;> cases h <;> rfl
  · intro h
    cases op <;> simp only [spelling, List.cons.injEq, and_true, reduceCtorEq, and_false] at h <;>
      subst h <;> rfl

theorem spelling_withEqual? {a b : Operator} (h : a.withEqual? = some b) :
    b.spelling = a.spelling ++ ['='] := by
  cases a <;> simp only [withEqual?, Option.some.injEq, reduceCtorEq] at h <;> subst h <;> rfl

end Operator

end LoxLexer
