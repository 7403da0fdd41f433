/-
  Rendering: writing tokens as a program text. Between the tokens stand gaps of blanks and
  comments, which may be empty where the text that follows a token cannot run together with it
  (`MayFollow`). `lexemes` gives the tokens that a rendered text should be read back as.
-/
import LoxLexer.Grammar
import LoxLexer.Token

namespace LoxLexer.Rendering

/-- Blanks, and comments that end with their line. -/
inductive IsGap : Text → Prop
  | nil : IsGap []
  | blank {c : Char} {t : Text} (hc : Item.isBlank c = true) (ht : IsGap t) : IsGap (c :: t)
  | comment {s t : Text} (hs : Grammar.IsComment s) (ht : IsGap t) : IsGap (s ++ '\n' :: t)

/-- A gap at the end of a text, where the last comment may end with the text. -/
inductive IsLastGap : Text → Prop
  | gap {t : Text} (h : IsGap t) : IsLastGap t
  | comment {s t : Text} (hs : IsGap s) (ht : Grammar.IsComment t) : IsLastGap (s ++ t)

/-- A token to be written, and the gap before it. -/
structure Piece where
  gap : Text
  kind : TokenKind
  lexeme : Text
deriving DecidableEq, Repr

/-- The text of some pieces and a last gap. -/
def render (pieces : List Piece) (last : Text) : Text :=
  pieces.flatMap (fun p => p.gap ++ p.lexeme) ++ last

/-- Whether a text, written directly behind a token, leaves the token as it is. -/
def MayFollow (kind : TokenKind) (lexeme after : Text) : Prop :=
  match kind with
  | .operator op =>
    (op.withEqual? ≠ none → after.head? ≠ some '=')
      ∧ (op = .slash → after.head? ≠ some '/')
  | .identifier | .keyword _ => ∀ c ∈ after.head?, Item.isWordChar c = false
  | .number =>
    (∀ c ∈ after.head?, c.isDigit = false)
      ∧ ('.' ∉ lexeme → ∀ d rest, after = '.' :: d :: rest → d.isDigit = false)
  | .string | .endOfInput => True

/-- The pieces are tokens and gaps, and no token runs together with what follows it. -/
def WellSpaced : List Piece → Text → Prop
  | [], last => IsLastGap last
  | p :: ps, last =>
    IsGap p.gap ∧ Grammar.Matches (.token p.kind) p.lexeme
      ∧ MayFollow p.kind p.lexeme (render ps last) ∧ WellSpaced ps last

/-- The tokens of the pieces that stand behind the text `before`. -/
def lexemes (before : Text) : List Piece → List Token
  | [] => []
  | p :: ps =>
    ⟨p.kind, p.lexeme, (1 + Text.newlines (before ++ p.gap) : Nat)⟩
      :: lexemes (before ++ p.gap ++ p.lexeme) ps

theorem render_cons (p : Piece) (ps : List Piece) (last : Text) :
    render (p :: ps) last = p.gap ++ p.lexeme ++ render ps last := by
  simp [render]

end LoxLexer.Rendering
