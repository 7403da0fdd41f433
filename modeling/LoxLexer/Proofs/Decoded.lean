/-
  Decoding accepts exactly the bytes of texts. The bytes of a character are a first byte and the
  digits of its number to the base 64 that the first byte has no room for (`encodeChar_eq`); a lead
  is a first byte, and the numbers that it carries are those of the characters whose bytes begin
  with it (`exists_lead_of_char`, `encodeChar_of_lead`). So one character is read exactly where its
  bytes stand (`decodeFirst_eq_ok_iff`), and each of the three defects is found exactly when it is
  there: no character begins so (`decodeFirst_eq_invalidStart_iff`), the bytes are a part of a
  character (`decodeFirst_eq_unexpectedEnd_iff`), or they are until one of them makes it impossible
  (`decodeFirst_eq_invalidContinuation_iff`). By induction the same holds of texts
  (`decode_eq_ok_iff`, `decode_eq_error_iff`).
-/
import Mathlib.Algebra.Ring.Nat
import Mathlib.Tactic.SplitIfs
import LoxLexer.Text.Utf8.Sequence

namespace LoxLexer.Utf8

/-! ## Digits -/

/-- The bytes that carry the last `follow` digits of a number to the base 64. -/
def tailBytes : Nat → Nat → List UInt8
  | 0, _ => []
  | follow + 1, n => UInt8.ofNat (n / 64 ^ follow % 64 + 0x80) :: tailBytes follow n

/-- The first of these bytes lies in a range, if there is one. -/
def InRange (low high : Nat) : Nat → Nat → Prop
  | 0, _ => True
  | follow + 1, n => low ≤ n / 64 ^ follow % 64 + 0x80 ∧ n / 64 ^ follow % 64 + 0x80 ≤ high

theorem inRange_all (follow n : Nat) : InRange 0x80 0xBF follow n := by
  cases follow with
  | zero => trivial
  | succ follow =>
    simp only [InRange]
    omega

theorem toNat_digitByte (n : Nat) : (UInt8.ofNat (n % 64 + 0x80)).toNat = n % 64 + 0x80 := by
  rw [UInt8.toNat_ofNat']
  omega

section Tail

variable {value low high follow n : Nat} {b : UInt8} {bytes rest more : List UInt8}

theorem decodeTail_of_mem (h : low ≤ b.toNat ∧ b.toNat ≤ high) (bytes : List UInt8) :
    decodeTail value low high (follow + 1) (b :: bytes)
      = decodeTail (value * 64 + (b.toNat - 0x80)) 0x80 0xBF follow bytes := by
  rw [decodeTail, if_pos h]

theorem decodeTail_of_notMem (h : ¬ (low ≤ b.toNat ∧ b.toNat ≤ high)) (bytes : List UInt8) :
    decodeTail value low high (follow + 1) (b :: bytes) = .error .invalidContinuation := by
  rw [decodeTail, if_neg h]

/-- Reading the bytes that follow puts the digits of a number together. -/
theorem decodeTail_eq_ok_iff (hlow : 0x80 ≤ low) (hhigh : high ≤ 0xBF) :
    decodeTail value low high follow bytes = .ok (n, rest)
      ↔ bytes = tailBytes follow n ++ rest ∧ n / 64 ^ follow = value
        ∧ InRange low high follow n := by
  induction follow generalizing value low high bytes with
  | zero =>
    simp only [decodeTail, tailBytes, InRange, Except.ok.injEq, Prod.mk.injEq, List.nil_append,
      Nat.pow_zero, Nat.div_one, and_true]
    exact ⟨fun h => ⟨h.2, h.1.symm⟩, fun h => ⟨h.2.symm, h.1⟩⟩
  | succ follow ih =>
    have hdiv : n / 64 ^ (follow + 1) = n / 64 ^ follow / 64 := by
      rw [Nat.pow_succ, Nat.div_div_eq_div_mul]
    cases bytes with
    | nil => simp [decodeTail, tailBytes]
    | cons b bytes =>
      simp only [tailBytes, InRange, List.cons_append, List.cons.injEq, hdiv, ← UInt8.toNat_inj,
        toNat_digitByte]
      by_cases hb : low ≤ b.toNat ∧ b.toNat ≤ high
      · rw [decodeTail_of_mem hb, ih (Nat.le_refl _) (Nat.le_refl _),
          and_iff_left (inRange_all follow n)]
        constructor
        · rintro ⟨rfl, hn⟩
          refine ⟨⟨?_, rfl⟩, ?_, ?_⟩ <;> omega
        · rintro ⟨⟨hdigit, rfl⟩, hn, _⟩
          refine ⟨rfl, ?_⟩
          omega
      · rw [decodeTail_of_notMem hb]
        simp only [reduceCtorEq, false_iff]
        rintro ⟨⟨hdigit, _⟩, _, hr⟩
        omega

/-! ## Bytes that break off -/

theorem exists_tail (value follow : Nat) (hlow : 0x80 ≤ low) (hle : low ≤ high)
    (hhigh : high ≤ 0xBF) : ∃ tail n, decodeTail value low high follow tail = .ok (n, []) := by
  induction follow generalizing value low high with
  | zero => exact ⟨[], value, rfl⟩
  | succ follow ih =>
    obtain ⟨tail, n, h⟩ : ∃ tail n,
        decodeTail (value * 64 + (low - 0x80)) 0x80 0xBF follow tail = .ok (n, []) :=
      ih _ (by omega) (by omega) (by omega)
    have hbyte : (UInt8.ofNat low).toNat = low := by
      rw [UInt8.toNat_ofNat']
      omega
    refine ⟨UInt8.ofNat low :: tail, n, ?_⟩
    rw [decodeTail_of_mem (by omega), hbyte, h]

/-- Bytes that end too early can be completed. -/
theorem exists_completion (hlow : 0x80 ≤ low) (hle : low ≤ high) (hhigh : high ≤ 0xBF)
    (h : decodeTail value low high follow bytes = .error .unexpectedEnd) :
    ∃ more n, more ≠ [] ∧ decodeTail value low high follow (bytes ++ more) = .ok (n, []) := by
  induction follow generalizing value low high bytes with
  | zero => simp [decodeTail] at h
  | succ follow ih =>
    cases bytes with
    | nil =>
      obtain ⟨tail, n, htail⟩ := exists_tail value (follow + 1) hlow hle hhigh
      refine ⟨tail, n, ?_, htail⟩
      rintro rfl
      simp [decodeTail] at htail
    | cons b bytes =>
      by_cases hb : low ≤ b.toNat ∧ b.toNat ≤ high
      · rw [decodeTail_of_mem hb] at h
        simp only [List.cons_append, decodeTail_of_mem hb]
        exact ih (by omega) (by omega) (by omega) h
      · rw [decodeTail_of_notMem hb] at h
        cases h

theorem decodeTail_of_append (hne : more ≠ [])
    (h : decodeTail value low high follow (bytes ++ more) = .ok (n, [])) :
    decodeTail value low high follow bytes = .error .unexpectedEnd := by
  induction follow generalizing value low high bytes with
  | zero => simp [decodeTail, hne] at h
  | succ follow ih =>
    cases bytes with
    | nil => rfl
    | cons b bytes =>
      rw [List.cons_append] at h
      by_cases hb : low ≤ b.toNat ∧ b.toNat ≤ high
      · rw [decodeTail_of_mem hb] at h ⊢
        exact ih h
      · rw [decodeTail_of_notMem hb] at h
        cases h

/-- Where a byte is out of range, the bytes before it break off. -/
theorem exists_split (h : decodeTail value low high follow bytes = .error .invalidContinuation) :
    ∃ front b rest, bytes = front ++ b :: rest
      ∧ decodeTail value low high follow front = .error .unexpectedEnd
      ∧ decodeTail value low high follow (front ++ [b]) = .error .invalidContinuation := by
  induction follow generalizing value low high bytes with
  | zero => simp [decodeTail] at h
  | succ follow ih =>
    cases bytes with
    | nil => simp [decodeTail] at h
    | cons b bytes =>
      by_cases hb : low ≤ b.toNat ∧ b.toNat ≤ high
      · rw [decodeTail_of_mem hb] at h
        obtain ⟨front, d, rest, rfl, hfront, hlast⟩ := ih h
        refine ⟨b :: front, d, rest, rfl, ?_, ?_⟩
        · rw [decodeTail_of_mem hb, hfront]
        · rw [List.cons_append, decodeTail_of_mem hb, hlast]
      · exact ⟨[], b, bytes, rfl, rfl, decodeTail_of_notMem hb []⟩

theorem decodeTail_ne_invalidStart :
    decodeTail value low high follow bytes ≠ .error .invalidStart := by
  induction follow generalizing value low high bytes with
  | zero => simp [decodeTail]
  | succ follow ih =>
    cases bytes with
    | nil => simp [decodeTail]
    | cons b bytes =>
      by_cases hb : low ≤ b.toNat ∧ b.toNat ≤ high
      · rw [decodeTail_of_mem hb]
        exact ih
      · simp [decodeTail_of_notMem hb]

end Tail

/-! ## Leads -/

namespace Lead

/-- The number belongs to the lead: the lead holds its share of it, and the first of the bytes that
follow lies in the lead's range. -/
def Carries (lead : Lead) (n : Nat) : Prop :=
  n / 64 ^ lead.follow = lead.value ∧ InRange lead.low lead.high lead.follow n

/-- The lead of a number below 80. -/
def one (v : Nat) : Lead := ⟨v, 0, 0x80, 0xBF⟩

/-- The lead of a number from 80 to 7FF. -/
def two (v : Nat) : Lead := ⟨v, 1, 0x80, 0xBF⟩

/-- The lead of a number from 800 to FFFF that is no surrogate. -/
def three (v : Nat) : Lead := ⟨v, 2, if v = 0 then 0xA0 else 0x80, if v = 0xD then 0x9F else 0xBF⟩

/-- The lead of a number from 10000 to 10FFFF. -/
def four (v : Nat) : Lead := ⟨v, 3, if v = 0 then 0x90 else 0x80, if v = 4 then 0x8F else 0xBF⟩

variable {v n : Nat}

theorem carries_one : (one v).Carries n ↔ n = v := by
  simp only [Carries, one, InRange, and_true, Nat.pow_zero, Nat.div_one]

theorem carries_two : (two v).Carries n ↔ n / 64 = v := by
  simp only [Carries, two, Nat.pow_one, and_iff_left (inRange_all 1 n)]

theorem carries_three :
    (three v).Carries n ↔ n / 64 ^ 2 = v ∧ (v = 0 → 0x800 ≤ n) ∧ (v = 0xD → n < 0xD800) := by
  simp only [Carries, three, InRange]
  split_ifs <;> omega

theorem carries_four :
    (four v).Carries n ↔ n / 64 ^ 3 = v ∧ (v = 0 → 0x10000 ≤ n) ∧ (v = 4 → n < 0x110000) := by
  simp only [Carries, four, InRange]
  split_ifs <;> omega

end Lead

/-- Which lead a byte is, by the number of bytes that follow. -/
theorem lead?_eq : ∀ b < 256, lead? b =
    if b < 0x80 then some (.one b)
    else if 0xC2 ≤ b ∧ b < 0xE0 then some (.two (b - 0xC0))
    else if 0xE0 ≤ b ∧ b < 0xF0 then some (.three (b - 0xE0))
    else if 0xF0 ≤ b ∧ b < 0xF5 then some (.four (b - 0xF0))
    else none := by decide +kernel

theorem bounds_of_lead? {b : Nat} {lead : Lead} (h : lead? b = some lead) :
    0x80 ≤ lead.low ∧ lead.low ≤ lead.high ∧ lead.high ≤ 0xBF := by
  unfold lead? at h
  split_ifs at h <;> obtain rfl := Option.some.inj h <;> simp

/-! ## Bytes of characters -/

/-- A character's number is no surrogate and not above U+10FFFF. -/
theorem toNat_cases (c : Char) : c.toNat < 0xD800 ∨ 0xDFFF < c.toNat ∧ c.toNat < 0x110000 :=
  c.valid

/-- The bytes of a character: a first byte for the size of its number, and the digits left. -/
theorem encodeChar_eq (c : Char) :
    String.utf8EncodeChar c =
      if c.toNat < 0x80 then UInt8.ofNat c.toNat :: tailBytes 0 c.toNat
      else if c.toNat < 0x800 then UInt8.ofNat (c.toNat / 64 + 0xC0) :: tailBytes 1 c.toNat
      else if c.toNat < 0x10000 then UInt8.ofNat (c.toNat / 64 ^ 2 + 0xE0) :: tailBytes 2 c.toNat
      else UInt8.ofNat (c.toNat / 64 ^ 3 + 0xF0) :: tailBytes 3 c.toNat := by
  have hc := toNat_cases c
  have hval : c.val.toNat = c.toNat := rfl
  simp only [String.utf8EncodeChar, hval]
  split_ifs <;> first | omega | skip
  · rfl
  · rw [Nat.mod_eq_of_lt (by omega)]
    simp [tailBytes]
  · rw [Nat.mod_eq_of_lt (b := 16) (by omega)]
    simp [tailBytes]
  · rw [Nat.mod_eq_of_lt (b := 8) (by omega)]
    simp [tailBytes]

/-- The first byte of a character is a lead that carries its number. -/
theorem exists_lead_of_char (c : Char) :
    ∃ b lead, lead? b.toNat = some lead ∧ lead.Carries c.toNat
      ∧ String.utf8EncodeChar c = b :: tailBytes lead.follow c.toNat := by
  have hc := toNat_cases c
  rw [encodeChar_eq]
  split_ifs
  · refine ⟨UInt8.ofNat c.toNat, .one c.toNat, ?_, Lead.carries_one.mpr rfl, rfl⟩
    rw [UInt8.toNat_ofNat', Nat.mod_eq_of_lt (by omega), lead?_eq _ (by omega), if_pos (by omega)]
  · refine ⟨UInt8.ofNat (c.toNat / 64 + 0xC0), .two (c.toNat / 64), ?_,
      Lead.carries_two.mpr rfl, rfl⟩
    rw [UInt8.toNat_ofNat', Nat.mod_eq_of_lt (by omega), lead?_eq _ (by omega), if_neg (by omega),
      if_pos (by omega), Nat.add_sub_cancel]
  · refine ⟨UInt8.ofNat (c.toNat / 64 ^ 2 + 0xE0), .three (c.toNat / 64 ^ 2), ?_,
      Lead.carries_three.mpr (by omega), rfl⟩
    rw [UInt8.toNat_ofNat', Nat.mod_eq_of_lt (by omega), lead?_eq _ (by omega), if_neg (by omega),
      if_neg (by omega), if_pos (by omega), Nat.add_sub_cancel]
  · refine ⟨UInt8.ofNat (c.toNat / 64 ^ 3 + 0xF0), .four (c.toNat / 64 ^ 3), ?_,
      Lead.carries_four.mpr (by omega), rfl⟩
    rw [UInt8.toNat_ofNat', Nat.mod_eq_of_lt (by omega), lead?_eq _ (by omega), if_neg (by omega),
      if_neg (by omega), if_neg (by omega), if_pos (by omega), Nat.add_sub_cancel]

/-- A number that a lead carries is that of a character, whose bytes begin with the lead. -/
theorem encodeChar_of_lead {b : UInt8} {lead : Lead} {n : Nat} (hlead : lead? b.toNat = some lead)
    (hn : lead.Carries n) :
    ∃ c : Char, c.toNat = n ∧ String.utf8EncodeChar c = b :: tailBytes lead.follow n := by
  suffices h : n.isValidChar
      ∧ ∀ c : Char, c.toNat = n → String.utf8EncodeChar c = b :: tailBytes lead.follow n from
    ⟨Char.ofNatAux n h.1, rfl, h.2 _ rfl⟩
  have hb := b.toNat_lt
  have hbyte : ∀ m, m = b.toNat → UInt8.ofNat m = b := by
    rintro _ rfl
    exact UInt8.ofNat_toNat
  unfold Nat.isValidChar
  rw [lead?_eq _ hb] at hlead
  split_ifs at hlead
  · obtain rfl := Option.some.inj hlead
    rw [Lead.carries_one] at hn
    refine ⟨by omega, ?_⟩
    rintro c rfl
    rw [encodeChar_eq, if_pos (by omega), hbyte _ hn]
    rfl
  · obtain rfl := Option.some.inj hlead
    rw [Lead.carries_two] at hn
    refine ⟨by omega, ?_⟩
    rintro c rfl
    rw [encodeChar_eq, if_neg (by omega), if_pos (by omega), hbyte _ (by omega)]
    rfl
  · obtain rfl := Option.some.inj hlead
    rw [Lead.carries_three] at hn
    refine ⟨by omega, ?_⟩
    rintro c rfl
    rw [encodeChar_eq, if_neg (by omega), if_neg (by omega), if_pos (by omega), hbyte _ (by omega)]
    rfl
  · obtain rfl := Option.some.inj hlead
    rw [Lead.carries_four] at hn
    refine ⟨by omega, ?_⟩
    rintro c rfl
    rw [encodeChar_eq, if_neg (by omega), if_neg (by omega), if_neg (by omega), hbyte _ (by omega)]
    rfl

/-! ## One character -/

variable {b : UInt8} {bytes rest more : List UInt8} {c : Char} {lead : Lead} {defect : Defect}

theorem decodeFirst_of_lead (hlead : lead? b.toNat = some lead) (bytes : List UInt8) :
    decodeFirst b bytes
      = (decodeTail lead.value lead.low lead.high lead.follow bytes).map
          fun r => (Char.ofNat r.1, r.2) := by
  rw [decodeFirst, hlead]

theorem exists_decodeTail_of_ok (hlead : lead? b.toNat = some lead)
    (h : decodeFirst b bytes = .ok (c, rest)) :
    ∃ n, decodeTail lead.value lead.low lead.high lead.follow bytes = .ok (n, rest)
      ∧ Char.ofNat n = c := by
  rw [decodeFirst_of_lead hlead] at h
  cases htail : decodeTail lead.value lead.low lead.high lead.follow bytes with
  | error d => simp [htail, Except.map] at h
  | ok r =>
    simp only [htail, Except.map, Except.ok.injEq, Prod.mk.injEq] at h
    exact ⟨r.1, by rw [← h.2], h.1⟩

/-- A character is read exactly where its bytes stand. -/
theorem decodeFirst_eq_ok_iff :
    decodeFirst b bytes = .ok (c, rest) ↔ b :: bytes = String.utf8EncodeChar c ++ rest := by
  constructor
  · intro h
    cases hlead : lead? b.toNat with
    | none => simp [decodeFirst, hlead] at h
    | some lead =>
      obtain ⟨hlow, _, hhigh⟩ := bounds_of_lead? hlead
      obtain ⟨n, htail, rfl⟩ := exists_decodeTail_of_ok hlead h
      obtain ⟨rfl, hn⟩ := (decodeTail_eq_ok_iff hlow hhigh).mp htail
      obtain ⟨d, rfl, hd⟩ := encodeChar_of_lead hlead hn
      rw [Char.ofNat_toNat, hd, List.cons_append]
  · intro h
    obtain ⟨d, lead, hlead, hn, hc⟩ := exists_lead_of_char c
    rw [hc, List.cons_append] at h
    obtain ⟨rfl, rfl⟩ := List.cons.inj h
    obtain ⟨hlow, _, hhigh⟩ := bounds_of_lead? hlead
    rw [decodeFirst_of_lead hlead, (decodeTail_eq_ok_iff hlow hhigh).mpr ⟨rfl, hn⟩, Except.map,
      Char.ofNat_toNat]

theorem exists_decodeFirst_encodeChar (c : Char) :
    ∃ b front, String.utf8EncodeChar c = b :: front
      ∧ ∀ rest, decodeFirst b (front ++ rest) = .ok (c, rest) := by
  obtain ⟨b, front, hc⟩ := List.exists_cons_of_ne_nil (String.utf8EncodeChar_ne_nil (c := c))
  refine ⟨b, front, hc, fun rest => ?_⟩
  rw [decodeFirst_eq_ok_iff, hc, List.cons_append]

/-- No character's bytes begin those of another. -/
theorem eq_of_encodeChar_append {d : Char} {s t : List UInt8}
    (h : String.utf8EncodeChar c ++ s = String.utf8EncodeChar d ++ t) : c = d ∧ s = t := by
  obtain ⟨b, front, hc, hok⟩ := exists_decodeFirst_encodeChar c
  have hother : decodeFirst b (front ++ s) = .ok (d, t) := by
    rw [decodeFirst_eq_ok_iff, ← h, hc, List.cons_append]
  rw [hok s] at hother
  exact Prod.mk.inj (Except.ok.inj hother)

/-- A part of a character does not begin with a whole one. -/
theorem ne_encodeChar_append_of_isPart {part : List UInt8} (h : IsPart part) (c : Char)
    (s : List UInt8) : part ≠ String.utf8EncodeChar c ++ s := by
  rintro rfl
  obtain ⟨_, d, more, hne, hd⟩ := h
  have hwhole : String.utf8EncodeChar d ++ [] = String.utf8EncodeChar c ++ (s ++ more) := by
    rw [List.append_nil, hd, List.append_assoc]
  have hnil := (eq_of_encodeChar_append hwhole).2
  exact hne (List.append_eq_nil_iff.mp hnil.symm).2

/-! ## Defects of one character -/

theorem decodeFirst_eq_error_iff (hlead : lead? b.toNat = some lead) :
    decodeFirst b bytes = .error defect
      ↔ decodeTail lead.value lead.low lead.high lead.follow bytes = .error defect := by
  rw [decodeFirst_of_lead hlead]
  cases decodeTail lead.value lead.low lead.high lead.follow bytes <;> simp [Except.map]

theorem begins_of_append {front : List UInt8} (h : Begins (front ++ more)) : Begins front := by
  obtain ⟨c, hc⟩ := h
  exact ⟨c, (List.prefix_append front more).trans hc⟩

/-- A byte is a lead exactly when a character begins with it. -/
theorem exists_lead_iff : (∃ lead, lead? b.toNat = some lead) ↔ Begins [b] := by
  constructor
  · rintro ⟨lead, hlead⟩
    obtain ⟨hlow, hle, hhigh⟩ := bounds_of_lead? hlead
    obtain ⟨tail, n, htail⟩ := exists_tail lead.value lead.follow hlow hle hhigh
    have hok : decodeFirst b tail = .ok (Char.ofNat n, []) := by
      rw [decodeFirst_of_lead hlead, htail]
      rfl
    rw [decodeFirst_eq_ok_iff, List.append_nil] at hok
    exact ⟨_, tail, hok⟩
  · rintro ⟨c, tail, hc⟩
    obtain ⟨d, lead, hlead, _, hd⟩ := exists_lead_of_char c
    rw [hd] at hc
    obtain ⟨rfl, _⟩ := List.cons.inj hc
    exact ⟨lead, hlead⟩

/-- The first byte is wrong exactly when no character begins with it. -/
theorem decodeFirst_eq_invalidStart_iff :
    decodeFirst b bytes = .error .invalidStart ↔ ¬ Begins [b] := by
  rw [← exists_lead_iff]
  constructor
  · rintro h ⟨lead, hlead⟩
    exact decodeTail_ne_invalidStart ((decodeFirst_eq_error_iff hlead).mp h)
  · intro h
    have hnone : lead? b.toNat = none :=
      Option.eq_none_iff_forall_ne_some.mpr fun lead hlead => h ⟨lead, hlead⟩
    rw [decodeFirst, hnone]

/-- The bytes break off exactly when they are a part of a character. -/
theorem decodeFirst_eq_unexpectedEnd_iff :
    decodeFirst b bytes = .error .unexpectedEnd ↔ IsPart (b :: bytes) := by
  constructor
  · intro h
    cases hlead : lead? b.toNat with
    | none => simp [decodeFirst, hlead] at h
    | some lead =>
      obtain ⟨hlow, hle, hhigh⟩ := bounds_of_lead? hlead
      rw [decodeFirst_eq_error_iff hlead] at h
      obtain ⟨more, n, hne, hmore⟩ := exists_completion hlow hle hhigh h
      have hok : decodeFirst b (bytes ++ more) = .ok (Char.ofNat n, []) := by
        rw [decodeFirst_of_lead hlead, hmore]
        rfl
      rw [decodeFirst_eq_ok_iff, List.append_nil] at hok
      exact ⟨List.cons_ne_nil b bytes, _, more, hne, hok.symm⟩
  · rintro ⟨_, c, more, hne, hc⟩
    obtain ⟨lead, hlead⟩ := exists_lead_iff.mpr ⟨c, bytes ++ more, hc.symm⟩
    have hok : decodeFirst b (bytes ++ more) = .ok (c, []) := by
      rw [decodeFirst_eq_ok_iff, List.append_nil, hc, List.cons_append]
    obtain ⟨n, htail, _⟩ := exists_decodeTail_of_ok hlead hok
    rw [decodeFirst_eq_error_iff hlead]
    exact decodeTail_of_append hne htail

/-- A byte is out of place exactly when the bytes before it are a part of a character and no
character goes on with it. -/
theorem decodeFirst_eq_invalidContinuation_iff :
    decodeFirst b bytes = .error .invalidContinuation
      ↔ ∃ part d rest, b :: bytes = part ++ d :: rest ∧ IsPart part ∧ ¬ Begins (part ++ [d]) := by
  constructor
  · intro h
    cases hlead : lead? b.toNat with
    | none => simp [decodeFirst, hlead] at h
    | some lead =>
      obtain ⟨front, d, rest, rfl, hfront, hlast⟩ :=
        exists_split ((decodeFirst_eq_error_iff hlead).mp h)
      rw [← decodeFirst_eq_error_iff hlead] at hfront hlast
      refine ⟨b :: front, d, rest, rfl, decodeFirst_eq_unexpectedEnd_iff.mp hfront, ?_⟩
      rintro ⟨c, more, hc⟩
      have hok : decodeFirst b (front ++ [d] ++ more) = .ok (c, []) := by
        rw [decodeFirst_eq_ok_iff, List.append_nil, ← hc]
        rfl
      by_cases hne : more = []
      · rw [hne, List.append_nil, hlast] at hok
        cases hok
      · have hpart : IsPart (b :: (front ++ [d])) := ⟨List.cons_ne_nil _ _, c, more, hne, hc.symm⟩
        rw [decodeFirst_eq_unexpectedEnd_iff.mpr hpart] at hlast
        cases hlast
  · rintro ⟨part, d, rest, heq, hpart, hd⟩
    -- each other outcome makes a part a whole character, or lets a character go on with `d`
    cases h : decodeFirst b bytes with
    | ok r =>
      obtain ⟨c, after⟩ := r
      rw [decodeFirst_eq_ok_iff, heq] at h
      rcases List.append_eq_append_iff.mp h with ⟨s, hc, hs⟩ | ⟨s, hs, _⟩
      · cases s with
        | nil =>
          have hs : part = String.utf8EncodeChar c ++ [] := by
            rw [hc, List.append_nil, List.append_nil]
          exact absurd hs (ne_encodeChar_append_of_isPart hpart c [])
        | cons e s =>
          obtain ⟨rfl, _⟩ := List.cons.inj hs
          have hbegins : Begins (part ++ [d]) :=
            ⟨c, s, by rw [hc, List.append_assoc, List.singleton_append]⟩
          exact absurd hbegins hd
      · exact absurd hs (ne_encodeChar_append_of_isPart hpart c s)
    | error defect =>
      cases defect with
      | invalidStart =>
        obtain ⟨e, part, rfl⟩ := List.exists_cons_of_ne_nil hpart.1
        obtain ⟨rfl, _⟩ := List.cons.inj heq
        have hbegins : Begins ([b] ++ part) := begins_of_isPart hpart
        exact absurd (begins_of_append hbegins) (decodeFirst_eq_invalidStart_iff.mp h)
      | unexpectedEnd =>
        have hbegins := begins_of_isPart (decodeFirst_eq_unexpectedEnd_iff.mp h)
        rw [heq, List.append_cons] at hbegins
        exact absurd (begins_of_append hbegins) hd
      | invalidContinuation => rfl

/-! ## Texts -/

theorem encode_cons (c : Char) (t : Text) : encode (c :: t) = String.utf8EncodeChar c ++ encode t :=
  rfl

theorem decode_of_ok (h : decodeFirst b bytes = .ok (c, rest)) :
    decode (b :: bytes) = (decode rest).map (c :: ·) := by
  rw [decode]
  split <;> simp_all

theorem decode_of_error (h : decodeFirst b bytes = .error defect) :
    decode (b :: bytes) = .error defect := by
  rw [decode]
  split <;> simp_all

theorem decode_encodeChar_append (c : Char) (bytes : List UInt8) :
    decode (String.utf8EncodeChar c ++ bytes) = (decode bytes).map (c :: ·) := by
  obtain ⟨b, front, hc, hok⟩ := exists_decodeFirst_encodeChar c
  rw [hc, List.cons_append, decode_of_ok (hok bytes)]

theorem decode_encode_append (t : Text) (bytes : List UInt8) :
    decode (encode t ++ bytes) = (decode bytes).map (t ++ ·) := by
  induction t with
  | nil => cases h : decode bytes <;> simp [encode, h, Except.map]
  | cons c t ih =>
    rw [encode_cons, List.append_assoc, decode_encodeChar_append, ih]
    cases decode bytes <;> rfl

/-- Decoding succeeds exactly on the bytes of texts, and gives the text. -/
theorem decode_eq_ok_iff {t : Text} : decode bytes = .ok t ↔ bytes = encode t := by
  constructor
  · intro h
    fun_induction decode bytes generalizing t with
    | case1 =>
      cases h
      rfl
    | case2 => cases h
    | case3 b bytes c rest hfirst ih =>
      cases hrest : decode rest with
      | error d => simp [hrest, Except.map] at h
      | ok s =>
        simp only [hrest, Except.map, Except.ok.injEq] at h
        rw [← h, encode_cons, ← ih hrest, decodeFirst_eq_ok_iff.mp hfirst]
  · rintro rfl
    have h := decode_encode_append t []
    rw [List.append_nil, decode] at h
    simpa [Except.map] using h

theorem firstDefect_of_decodeFirst (h : decodeFirst b bytes = .error defect) :
    FirstDefect (b :: bytes) defect := by
  cases defect with
  | invalidStart => exact .invalidStart [] b bytes (decodeFirst_eq_invalidStart_iff.mp h)
  | invalidContinuation =>
    obtain ⟨part, d, rest, heq, hpart, hd⟩ := decodeFirst_eq_invalidContinuation_iff.mp h
    rw [heq]
    exact .invalidContinuation [] part d rest hpart hd
  | unexpectedEnd => exact .unexpectedEnd [] _ (decodeFirst_eq_unexpectedEnd_iff.mp h)

theorem firstDefect_append (c : Char) (h : FirstDefect bytes defect) :
    FirstDefect (String.utf8EncodeChar c ++ bytes) defect := by
  cases h with
  | invalidStart t b rest h =>
    rw [← List.append_assoc, ← encode_cons]
    exact .invalidStart (c :: t) b rest h
  | invalidContinuation t part b rest hp h =>
    rw [← List.append_assoc, ← List.append_assoc, ← encode_cons]
    exact .invalidContinuation (c :: t) part b rest hp h
  | unexpectedEnd t part hp =>
    rw [← List.append_assoc, ← encode_cons]
    exact .unexpectedEnd (c :: t) part hp

theorem decode_of_firstDefect (h : FirstDefect bytes defect) : decode bytes = .error defect := by
  cases h with
  | invalidStart t b rest h =>
    rw [decode_encode_append, decode_of_error (decodeFirst_eq_invalidStart_iff.mpr h)]
    rfl
  | invalidContinuation t part b rest hp h =>
    obtain ⟨e, part, rfl⟩ := List.exists_cons_of_ne_nil hp.1
    have hfirst : decodeFirst e (part ++ b :: rest) = .error .invalidContinuation :=
      decodeFirst_eq_invalidContinuation_iff.mpr ⟨e :: part, b, rest, rfl, hp, h⟩
    rw [List.append_assoc, decode_encode_append, List.cons_append, decode_of_error hfirst]
    rfl
  | unexpectedEnd t part hp =>
    obtain ⟨e, part, rfl⟩ := List.exists_cons_of_ne_nil hp.1
    rw [decode_encode_append, decode_of_error (decodeFirst_eq_unexpectedEnd_iff.mpr hp)]
    rfl

/-- Decoding fails exactly on ill-formed bytes, and names their first defect. -/
theorem decode_eq_error_iff : decode bytes = .error defect ↔ FirstDefect bytes defect := by
  refine ⟨fun h => ?_, decode_of_firstDefect⟩
  fun_induction decode bytes with
  | case1 => cases h
  | case2 b bytes d hfirst =>
    cases h
    exact firstDefect_of_decodeFirst hfirst
  | case3 b bytes c rest hfirst ih =>
    rw [decodeFirst_eq_ok_iff.mp hfirst]
    refine firstDefect_append c (ih ?_)
    cases hrest : decode rest <;> simp_all [Except.map]

end LoxLexer.Utf8
