/-
  Records and their compact JSON text. Written JSON is read back (`Json.read?_compact`), so a text
  gives again the members that were written, whatever characters and numbers they hold. The members
  of a diagnostic are fields that make it again (`Diagnostic.ofFields_members`): its fault is
  written by the message that fields give it by. The kind of a token is written by its name, which
  no other kind has. Hence both are known by their text (`records_rebuilt`).
-/
import LoxLexer.Diagnostic
import LoxLexer.Token
import LoxLexer.Proofs.ReadBack

namespace LoxLexer

theorem Diagnostic.compact_eq_iff {a b : Diagnostic} :
    a.toJson.compact = b.toJson.compact ↔ a = b :=
  ⟨fun h => members_injective (Json.object.inj (Json.compact_injective h)), fun h => by rw [h]⟩

theorem Token.compact_eq_iff {a b : Token} : a.toJson.compact = b.toJson.compact ↔ a = b :=
  ⟨fun h => toJson_injective (Json.compact_injective h), fun h => by rw [h]⟩

/-- Records are read back from their compact text. The text of a diagnostic is read as an object
whose members, taken as fields, make the same diagnostic if it is valid, and are refused for its
line if it is not. The text of a token is read as an object of its kind's name, its text and its
line, and nothing more. So diagnostics with the same text are the same, and so are tokens. -/
theorem records_rebuilt :
    (∀ d : Diagnostic, ∃ members, Json.read? d.toJson.compact = some (.object members)
      ∧ Diagnostic.ofFields members
        = if 1 ≤ d.line then .ok d else .error [⟨"line".toList, .belowOne⟩])
    ∧ (∀ t : Token, Json.read? t.toJson.compact
      = some (.object [("kind".toList, .text t.kind.name), ("lexeme".toList, .text t.lexeme),
          ("line".toList, .integer t.line)]))
    ∧ (∀ a b : Diagnostic, a.toJson.compact = b.toJson.compact ↔ a = b)
    ∧ ∀ a b : Token, a.toJson.compact = b.toJson.compact ↔ a = b := by
  refine ⟨fun d => ?_, fun t => ?_, fun _ _ => Diagnostic.compact_eq_iff,
    fun _ _ => Token.compact_eq_iff⟩
  · exact ⟨d.members, Json.read?_compact d.toJson, d.ofFields_members⟩
  · exact Json.read?_compact t.toJson

/-- The text of a token with a negative line, whose own text holds what has to be escaped. -/
example : (Token.toJson ⟨.string, "\"\x1b\\\n\"".toList, -2⟩).compact
    = ("\x7b\"kind\":\"STRING\",\"lexeme\":\"\\\"\\u001b\\\\\\n\\\"\","
      ++ "\"line\":-2\x7d").toList := by decide +kernel

end LoxLexer
