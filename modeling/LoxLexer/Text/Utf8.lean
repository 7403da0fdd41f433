/-
  UTF-8. `encode` writes each character's bytes; `decode` reads bytes back and is strict: it
  refuses overlong forms, surrogates, numbers above U+10FFFF and sequences that break off, and
  names the defect of the first ill-formed sequence. A byte order mark is a character as any.
-/
import LoxLexer.Text

namespace LoxLexer.Utf8

/-- What is wrong with a byte sequence. -/
inductive Defect
  | invalidStart
  | invalidContinuation
  | unexpectedEnd
deriving DecidableEq, Repr

/-- The defect in words. -/
def Defect.message : Defect → Text
  | invalidStart => "invalid start byte".toList
  | invalidContinuation => "invalid continuation byte".toList
  | unexpectedEnd => "unexpected end of data".toList

/-- The bytes of a text. -/
def encode (t : Text) : List UInt8 := t.flatMap String.utf8EncodeChar

/-- What a first byte says about its sequence: its share of the character's number, how many
bytes follow, and the range of the first of them. -/
structure Lead where
  value : Nat
  follow : Nat
  low : Nat
  high : Nat
deriving DecidableEq, Repr

/-- The lead that a byte is, if a sequence can begin with it. The narrowed ranges after E0, ED,
F0 and F4 shut out overlong forms, surrogates and numbers above U+10FFFF. -/
def lead? (b : Nat) : Option Lead :=
  if b < 0x80 then some ⟨b, 0, 0x80, 0xBF⟩
  else if b < 0xC2 then none
  else if b < 0xE0 then some ⟨b - 0xC0, 1, 0x80, 0xBF⟩
  else if b = 0xE0 then some ⟨0, 2, 0xA0, 0xBF⟩
  else if b = 0xED then some ⟨0xD, 2, 0x80, 0x9F⟩
  else if b < 0xF0 then some ⟨b - 0xE0, 2, 0x80, 0xBF⟩
  else if b = 0xF0 then some ⟨0, 3, 0x90, 0xBF⟩
  else if b < 0xF4 then some ⟨b - 0xF0, 3, 0x80, 0xBF⟩
  else if b = 0xF4 then some ⟨4, 3, 0x80, 0x8F⟩
  else none

/-- The number of a character of which `follow` bytes are still to come, the first of them in
the given range, and the bytes behind it. -/
def decodeTail (value low high : Nat) : Nat → List UInt8 → Except Defect (Nat × List UInt8)
  | 0, bytes => .ok (value, bytes)
  | _ + 1, [] => .error .unexpectedEnd
  | follow + 1, b :: bytes =>
    if low ≤ b.toNat ∧ b.toNat ≤ high then
      decodeTail (value * 64 + (b.toNat - 0x80)) 0x80 0xBF follow bytes
    else .error .invalidContinuation

/-- The first character of the bytes `b :: bytes`, and the bytes behind it. -/
def decodeFirst (b : UInt8) (bytes : List UInt8) : Except Defect (Char × List UInt8) :=
  match lead? b.toNat with
  | none => .error .invalidStart
  | some lead =>
    (decodeTail lead.value lead.low lead.high lead.follow bytes).map fun r => (Char.ofNat r.1, r.2)

theorem length_decodeTail_le {value low high follow n : Nat} {bytes rest : List UInt8}
    (h : decodeTail value low high follow bytes = .ok (n, rest)) :
    rest.length ≤ bytes.length := by
  induction follow generalizing value low high bytes with
  | zero =>
    simp only [decodeTail, Except.ok.injEq, Prod.mk.injEq] at h
    exact Nat.le_of_eq (congrArg List.length h.2.symm)
  | succ follow ih =>
    cases bytes with
    | nil => simp [decodeTail] at h
    | cons b bytes =>
      simp only [decodeTail] at h
      split at h
      · exact Nat.le_succ_of_le (ih h)
      · simp at h

theorem length_decodeFirst_lt {b : UInt8} {bytes rest : List UInt8} {c : Char}
    (h : decodeFirst b bytes = .ok (c, rest)) : rest.length < (b :: bytes).length := by
  unfold decodeFirst at h
  split at h
  · simp at h
  · rename_i lead _
    cases ht : decodeTail lead.value lead.low lead.high lead.follow bytes with
    | error e => simp [ht, Except.map] at h
    | ok r =>
      simp only [ht, Except.map, Except.ok.injEq, Prod.mk.injEq] at h
      have hle := length_decodeTail_le ht
      rw [← h.2]
      exact Nat.lt_succ_of_le hle

/-- The text whose bytes are given, or the defect of the first ill-formed sequence. -/
def decode : List UInt8 → Except Defect Text
  | [] => .ok []
  | b :: bytes =>
    match _ : decodeFirst b bytes with
    | .error defect => .error defect
    | .ok (c, rest) => (decode rest).map (c :: ·)
termination_by bytes => bytes.length
decreasing_by exact length_decodeFirst_lt ‹_›

end LoxLexer.Utf8
