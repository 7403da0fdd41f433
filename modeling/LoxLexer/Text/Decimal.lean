/-
  Integers in decimal: an optional minus sign and the digits without leading zeros. The digits of
  a number stand for it again (`valueOfDigits_ofNat`). A number of more than 4300 digits has them
  too, but is not written out (`writeInt`).
-/
import LoxLexer.Text

namespace LoxLexer.Text

/-- The decimal digits of a natural number, at least one. -/
def ofNat (n : Nat) : Text := Nat.toDigits 10 n

/-- An integer in decimal. -/
def ofInt : Int → Text
  | .ofNat n => ofNat n
  | .negSucc n => '-' :: ofNat (n + 1)

/-- The most digits of a number that is written out. -/
def mostDigits : Nat := 4300

/-- The least natural number that is not written out. -/
def leastUnwritten : Nat := Nat.pow 10 mostDigits

/-- Whether a number has few enough digits to be written out; its sign does not count. -/
def FewDigits (n : Int) : Prop := (ofNat n.natAbs).length ≤ mostDigits

instance (n : Int) : Decidable (FewDigits n) :=
  inferInstanceAs (Decidable ((ofNat n.natAbs).length ≤ mostDigits))

/-- Why a number is not written out. -/
inductive DigitsProblem
  | tooMany
deriving DecidableEq, Repr

/-- What is said about a number that is not written out. -/
def DigitsProblem.message : DigitsProblem → Text
  | tooMany =>
    "Exceeds the limit (".toList ++ Text.ofNat mostDigits
      ++ " digits) for integer string conversion; ".toList
      ++ "use sys.set_int_max_str_digits() to increase the limit".toList

/-- An integer in decimal as it is written out, if it is. -/
def writeInt (n : Int) : Except DigitsProblem Text :=
  if FewDigits n then .ok (ofInt n) else .error .tooMany

/-- The number that decimal digits stand for. -/
def valueOfDigits (digits : Text) : Nat :=
  digits.foldl (fun n c => 10 * n + (c.toNat - '0'.toNat)) 0

theorem ofInt_natCast (n : Nat) : ofInt n = ofNat n := rfl

theorem isDigit_of_mem_ofNat {n : Nat} {c : Char} (h : c ∈ ofNat n) : c.isDigit = true :=
  Nat.isDigit_of_mem_toDigits (by decide) (by decide) h

theorem notMem_ofNat {c : Char} (h : c.isDigit = false) (n : Nat) : c ∉ ofNat n := by
  intro hc
  rw [isDigit_of_mem_ofNat hc] at h
  cases h

theorem notMem_ofInt {c : Char} (h : c.isDigit = false) (hm : c ≠ '-') (n : Int) : c ∉ ofInt n := by
  cases n with
  | ofNat n => exact notMem_ofNat h n
  | negSucc n =>
    rw [ofInt, List.mem_cons, not_or]
    exact ⟨hm, notMem_ofNat h (n + 1)⟩

/-- The numbers below `leastUnwritten` are those that have few enough digits. -/
theorem fewDigits_iff {n : Int} : FewDigits n ↔ n.natAbs < leastUnwritten := by
  have hpos : 0 < mostDigits := by decide
  unfold FewDigits leastUnwritten
  -- the power is not to be worked out
  generalize mostDigits = most at hpos ⊢
  exact Nat.length_toDigits_le_iff (by decide) hpos

theorem leastUnwritten_pos : 0 < leastUnwritten := by
  unfold leastUnwritten
  generalize mostDigits = most
  exact Nat.pow_pos (by decide)

theorem not_fewDigits_leastUnwritten : ¬ FewDigits leastUnwritten := by
  rw [fewDigits_iff, Int.natAbs_natCast]
  exact Nat.lt_irrefl _

theorem ofNat_ne_nil (n : Nat) : ofNat n ≠ [] := Nat.toDigits_ne_nil

theorem valueOfDigits_ofNat (n : Nat) : valueOfDigits (ofNat n) = n := Nat.ofDigitChars_ten_toDigits

/-- Only zero begins with the digit zero. -/
theorem eq_zero_of_head?_ofNat {n : Nat} (h : (ofNat n).head? = some '0') : n = 0 := by
  induction n using Nat.strongRecOn with
  | ind n ih =>
    by_cases hn : n < 10
    · rw [ofNat, Nat.toDigits_of_lt_base hn] at h
      exact Nat.digitChar_eq_zero.mp (Option.some.inj h)
    · have hsplit : ofNat n = ofNat (n / 10) ++ [Nat.digitChar (n % 10)] :=
        Nat.toDigits_of_base_le (by decide) (Nat.not_lt.mp hn)
      obtain ⟨d, digits, hd⟩ := List.exists_cons_of_ne_nil (ofNat_ne_nil (n / 10))
      rw [hsplit, hd] at h
      have hzero := ih (n / 10) (by omega) (by rw [hd]; exact h)
      omega

end LoxLexer.Text
