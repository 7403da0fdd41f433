/-
  Condensed program texts. Outside strings, comments are left out and every run of spaces, tabs
  and carriage returns becomes one space; line ends stay, and so does every string. An opening
  quote without a closing one begins a string that goes on to the end.
-/
import LoxLexer.Text

namespace LoxLexer.Condensed

/-- Where in a program text a character stands; `gap` is code right behind a gap. -/
inductive Region
  | code
  | gap
  | comment
  | string
deriving DecidableEq, Repr

/-- The characters that gaps within a line are made of. -/
def isGapChar (c : Char) : Bool := c == ' ' || c == '\t' || c == '\r'

/-- The condensed form of a text that begins in a region. -/
def condenseFrom : Region → Text → Text
  | _, [] => []
  | .comment, c :: rest =>
    if c = '\n' then '\n' :: condenseFrom .code rest else condenseFrom .comment rest
  | .string, c :: rest => c :: condenseFrom (if c = '"' then .code else .string) rest
  | region, c :: rest =>
    if c = '"' then '"' :: condenseFrom .string rest
    else if c = '/' ∧ rest.head? = some '/' then condenseFrom .comment rest
    else if isGapChar c then
      (if region = .gap then [] else [' ']) ++ condenseFrom .gap rest
    else c :: condenseFrom .code rest

/-- The condensed form of a whole text. -/
def condense (source : Text) : Text := condenseFrom .code source

end LoxLexer.Condensed
