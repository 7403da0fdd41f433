/-
  Tokens: a kind, the text of the token in its program, and the line where it begins. A token is
  printed on a line as kind, text and line number, or as a JSON object of the same three.
-/
import LoxLexer.Token.Kind
import LoxLexer.Fields

namespace LoxLexer

/-- A token of a program: `line` is the line on which `lexeme` begins. -/
structure Token where
  kind : TokenKind
  lexeme : Text
  line : Int
deriving DecidableEq, Repr

namespace Token

/-- The token that ends the input, on the line where the input ends. -/
def endOfInput (line : Int) : Token := ⟨.endOfInput, [], line⟩

/-- A token in words: its kind's name, its text and its line, with a space between them. -/
def toText (t : Token) : Text := t.kind.name ++ ' ' :: t.lexeme ++ ' ' :: Text.ofInt t.line

/-- A token in words as it is written out; its line number may have too many digits for it. -/
def writeText (t : Token) : Except Text.DigitsProblem Text :=
  (Text.writeInt t.line).map fun _ => t.toText

/-- A token as an object; its kind is given by name. -/
def toJson (t : Token) : Json :=
  .object [("kind".toList, .text t.kind.name), ("lexeme".toList, .text t.lexeme),
    ("line".toList, .integer t.line)]

/-- A token is known by its object, as its kind is by its name. -/
theorem toJson_injective {a b : Token} (h : a.toJson = b.toJson) : a = b := by
  obtain ⟨kind, lexeme, line⟩ := a
  obtain ⟨kind', lexeme', line'⟩ := b
  simp only [toJson, Json.object.injEq, List.cons.injEq, Prod.mk.injEq, Json.text.injEq,
    Json.integer.injEq, true_and, and_true] at h
  obtain ⟨hname, hlexeme, hline⟩ := h
  rw [TokenKind.name_injective hname, hlexeme, hline]

/-- The numbers of the kinds, as an error message lists them. -/
def kindChoices : List Text := TokenKind.all.map fun kind => Text.ofNat kind.toNumber

/-- Whether an integer has a place among the signed ones of 64 bits. -/
def fitsWord (n : Int) : Bool := -0x8000000000000000 ≤ n && n < 0x8000000000000000

/-- A kind given by its number, which is looked up as a signed integer of 64 bits. -/
def readKind : Json → Except FieldProblem TokenKind
  | .integer n =>
    match TokenKind.ofNumber? n with
    | some kind => .ok kind
    | none => .error (if fitsWord n then .notOneOf kindChoices else .integerTooLarge)
  | _ => .error (.notOneOf kindChoices)

/-- The token with the given fields, or everything that is wrong with them. -/
def ofFields (fields : Fields) : Except (List FieldError) Token :=
  match fields.require "kind".toList readKind, fields.require "lexeme".toList Json.asText,
    fields.require "line".toList Json.asInteger with
  | .ok kind, .ok lexeme, .ok line => .ok ⟨kind, lexeme, line⟩
  | kind, lexeme, line =>
    .error (Fields.errors kind ++ Fields.errors lexeme ++ Fields.errors line)

end Token

end LoxLexer
