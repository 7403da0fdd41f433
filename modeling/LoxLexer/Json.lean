/-
  JSON values with integers as their only numbers, and their text in two layouts: compact, and
  indented with one item or member a line. Texts are written with the shortest escapes: a
  control character never stands raw (`noControl_quote`), all else but the quote and the
  backslash does.
-/
import LoxLexer.Text.Decimal
import LoxLexer.Text.Hexadecimal

namespace LoxLexer

/-- A JSON value; the members of an object keep their order. -/
inductive Json
  | null
  | bool (b : Bool)
  | integer (n : Int)
  | text (t : Text)
  | list (items : List Json)
  | object (members : List (Text × Json))
deriving Repr

namespace Json

/-! ## Texts -/

/-- A character inside a quoted text. -/
def escape (c : Char) : Text :=
  if c = '"' then ['\\', '"']
  else if c = '\\' then ['\\', '\\']
  else if c = '\x08' then ['\\', 'b']
  else if c = '\t' then ['\\', 't']
  else if c = '\n' then ['\\', 'n']
  else if c = '\x0c' then ['\\', 'f']
  else if c = '\r' then ['\\', 'r']
  else if c.toNat < 0x20 then '\\' :: 'u' :: Text.hexadecimal 4 c.toNat
  else [c]

/-- A text in quotes. -/
def quote (t : Text) : Text := '"' :: t.flatMap escape ++ ['"']

/-- Whether a text holds no control character. -/
def noControl (t : Text) : Bool := t.all fun d => 0x20 ≤ d.toNat

theorem noControl_hexadecimal : ∀ n < 0x20, noControl (Text.hexadecimal 4 n) = true := by decide

theorem noControl_escape (c : Char) : noControl (escape c) = true := by
  unfold escape
  split
  · rfl
  split
  · rfl
  split
  · rfl
  split
  · rfl
  split
  · rfl
  split
  · rfl
  split
  · rfl
  split
  · rename_i h
    exact noControl_hexadecimal c.toNat h
  · rename_i h
    simpa [noControl] using h

/-- No control character stands raw in a quoted text. -/
theorem noControl_quote (t : Text) : noControl (quote t) = true := by
  have h : noControl (t.flatMap escape) = true := by
    simp only [noControl, List.all_flatMap, List.all_eq_true] at *
    intro c _
    exact List.all_eq_true.mp (noControl_escape c)
  simp only [noControl, quote, List.cons_append, List.all_cons, List.all_append] at h ⊢
  rw [h]
  rfl

/-! ## Layouts -/

/-- How a value is spread over lines. -/
inductive Layout
  | compact
  | indented
deriving DecidableEq, Repr

/-- What stands before an item or a closing bracket at a depth: in the indented layout a new
line that begins with two spaces a level. -/
def Layout.lineBreak : Layout → Nat → Text
  | compact, _ => []
  | indented, depth => '\n' :: List.replicate (2 * depth) ' '

/-- What stands between a member's name and its value. -/
def Layout.colon : Layout → Text
  | compact => [':']
  | indented => [':', ' ']

mutual

/-- The text of a value that stands at a depth of nested brackets. -/
def write (layout : Layout) (depth : Nat) : Json → Text
  | null => "null".toList
  | bool true => "true".toList
  | bool false => "false".toList
  | integer n => Text.ofInt n
  | text t => quote t
  | list items =>
    match items with
    | [] => ['[', ']']
    | v :: vs =>
      '[' :: layout.lineBreak (depth + 1) ++ write layout (depth + 1) v
        ++ writeItems layout (depth + 1) vs ++ layout.lineBreak depth ++ [']']
  | object members =>
    match members with
    | [] => ['{', '}']
    | (name, v) :: ms =>
      '{' :: layout.lineBreak (depth + 1) ++ quote name ++ layout.colon
        ++ write layout (depth + 1) v ++ writeMembers layout (depth + 1) ms
        ++ layout.lineBreak depth ++ ['}']

/-- The items of a list after the first, each with the comma before it. -/
def writeItems (layout : Layout) (depth : Nat) : List Json → Text
  | [] => []
  | v :: vs =>
    ',' :: layout.lineBreak depth ++ write layout depth v ++ writeItems layout depth vs

/-- The members of an object after the first, each with the comma before it. -/
def writeMembers (layout : Layout) (depth : Nat) : List (Text × Json) → Text
  | [] => []
  | (name, v) :: ms =>
    ',' :: layout.lineBreak depth ++ quote name ++ layout.colon ++ write layout depth v
      ++ writeMembers layout depth ms

end

section

variable (layout : Layout) (depth : Nat) (name : Text) (v : Json) (vs : List Json)
  (ms : List (Text × Json))

theorem write_null : write layout depth null = "null".toList := rfl

theorem write_true : write layout depth (bool true) = "true".toList := rfl

theorem write_false : write layout depth (bool false) = "false".toList := rfl

theorem write_integer (n : Int) : write layout depth (integer n) = Text.ofInt n := rfl

theorem write_text (t : Text) : write layout depth (text t) = quote t := rfl

theorem write_list_nil : write layout depth (list []) = ['[', ']'] := rfl

theorem write_list_cons :
    write layout depth (list (v :: vs))
      = '[' :: layout.lineBreak (depth + 1) ++ write layout (depth + 1) v
        ++ writeItems layout (depth + 1) vs ++ layout.lineBreak depth ++ [']'] := rfl

theorem write_object_nil : write layout depth (object []) = ['{', '}'] := rfl

theorem write_object_cons :
    write layout depth (object ((name, v) :: ms))
      = '{' :: layout.lineBreak (depth + 1) ++ quote name ++ layout.colon
        ++ write layout (depth + 1) v ++ writeMembers layout (depth + 1) ms
        ++ layout.lineBreak depth ++ ['}'] := rfl

theorem writeItems_nil : writeItems layout depth [] = [] := rfl

theorem writeItems_cons :
    writeItems layout depth (v :: vs)
      = ',' :: layout.lineBreak depth ++ write layout depth v ++ writeItems layout depth vs := rfl

theorem writeMembers_nil : writeMembers layout depth [] = [] := rfl

theorem writeMembers_cons :
    writeMembers layout depth ((name, v) :: ms)
      = ',' :: layout.lineBreak depth ++ quote name ++ layout.colon ++ write layout depth v
        ++ writeMembers layout depth ms := rfl

end

/-- The text of a value without a space or line break between its parts. -/
def compact (v : Json) : Text := write .compact 0 v

/-- The text of a value with one item or member a line. -/
def indented (v : Json) : Text := write .indented 0 v

end Json

end LoxLexer
