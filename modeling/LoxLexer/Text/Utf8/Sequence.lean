/-
  Ill-formed UTF-8, said by what the bytes of characters can be. A byte sequence is ill-formed
  from the first place where, behind whole characters, the bytes cannot be the beginning of a
  character, or end within one. Nothing here refers to how bytes are decoded.
-/
import LoxLexer.Text.Utf8

namespace LoxLexer.Utf8

/-- The bytes are the beginning of a character, or all of it. -/
def Begins (bytes : List UInt8) : Prop := ∃ c : Char, bytes <+: String.utf8EncodeChar c

/-- The bytes are the beginning of a character, and neither nothing nor all of it. -/
def IsPart (bytes : List UInt8) : Prop :=
  bytes ≠ [] ∧ ∃ (c : Char) (more : List UInt8), more ≠ [] ∧ String.utf8EncodeChar c = bytes ++ more

/-- The first defect in a byte sequence. -/
inductive FirstDefect : List UInt8 → Defect → Prop
  | invalidStart (t : Text) (b : UInt8) (rest : List UInt8) (h : ¬ Begins [b]) :
      FirstDefect (encode t ++ b :: rest) .invalidStart
  | invalidContinuation (t : Text) (part : List UInt8) (b : UInt8) (rest : List UInt8)
      (hp : IsPart part) (h : ¬ Begins (part ++ [b])) :
      FirstDefect (encode t ++ part ++ b :: rest) .invalidContinuation
  | unexpectedEnd (t : Text) (part : List UInt8) (hp : IsPart part) :
      FirstDefect (encode t ++ part) .unexpectedEnd

theorem begins_of_isPart {bytes : List UInt8} (h : IsPart bytes) : Begins bytes := by
  obtain ⟨_, c, more, _, hc⟩ := h
  exact ⟨c, more, hc.symm⟩

end LoxLexer.Utf8
