/-
  What cutting takes off a text. `cut` decides by the first character, and the classes of first
  characters exclude each other, so each class has its own equation (`cut_of_comment` to
  `cut_of_stray`). Each kind of item is then taken off whole, and nothing behind it, when the text
  behind it stops the run of characters that the item ends with (`cutOperator_alone` to
  `cutNumber_decimal`).
-/
import LoxLexer.Rendering

namespace LoxLexer

/-! ## Runs of characters -/

namespace Text

variable {p : Char → Bool} {s t : Text}

/-- A text falls into its longest run of characters of a class and what follows. -/
theorem exists_run (p : Char → Bool) (t : Text) :
    ∃ s r, t = s ++ r ∧ (∀ c ∈ s, p c = true) ∧ (∀ c ∈ r.head?, p c = false) := by
  refine ⟨t.takeWhile p, t.dropWhile p, List.takeWhile_append_dropWhile.symm, ?_, ?_⟩
  · exact List.all_eq_true.mp List.all_takeWhile
  · intro c hc
    have h := List.head?_dropWhile_not p t
    rw [Option.mem_def.mp hc] at h
    simpa using h

theorem forall_ne_of_notMem {d : Char} (h : d ∉ s) : ∀ c ∈ s, (c != d) = true :=
  fun _ hc => bne_iff_ne.mpr fun he => h (he ▸ hc)

theorem takeWhile_run (hs : ∀ c ∈ s, p c = true) (ht : ∀ c ∈ t.head?, p c = false) :
    (s ++ t).takeWhile p = s := by
  rw [List.takeWhile_append_of_pos hs]
  cases t with
  | nil => simp
  | cons c t => simp [ht c rfl]

theorem dropWhile_run (hs : ∀ c ∈ s, p c = true) (ht : ∀ c ∈ t.head?, p c = false) :
    (s ++ t).dropWhile p = t := by
  rw [List.dropWhile_append_of_pos hs]
  cases t with
  | nil => simp
  | cons c t => simp [ht c rfl]

end Text

namespace Item

/-! ## First characters -/

/-- The first character of an operator begins nothing else, but for the slash of a comment. -/
theorem classes_of_operator {c : Char} {op : Operator} (h : Operator.ofChar? c = some op) :
    isBlank c = false ∧ c ≠ '"' ∧ c.isDigit = false ∧ Text.isLetter c = false := by
  rw [Operator.ofChar?_eq_some_iff] at h
  cases op <;>
    simp only [Operator.spelling, List.cons.injEq, and_true, reduceCtorEq, and_false] at h <;>
    subst h <;> decide

theorem eq_of_isBlank {c : Char} (h : isBlank c = true) :
    c = ' ' ∨ c = '\t' ∨ c = '\r' ∨ c = '\n' := by
  simpa [isBlank, or_assoc] using h

theorem classes_of_isBlank {c : Char} (h : isBlank c = true) :
    Operator.ofChar? c = none ∧ c ≠ '"' ∧ c.isDigit = false ∧ Text.isLetter c = false := by
  rcases eq_of_isBlank h with rfl | rfl | rfl | rfl <;> decide

theorem toNat_of_isDigit {c : Char} (h : c.isDigit = true) : 48 ≤ c.toNat ∧ c.toNat ≤ 57 := by
  simpa [Char.isDigit, UInt32.le_iff_toNat_le, ← Char.toNat_val] using h

/-- Digits lie within ASCII, where letters are `A`–`Z` and `a`–`z`. -/
theorem isLetter_of_isDigit {c : Char} (h : c.isDigit = true) : Text.isLetter c = false := by
  have hd := toNat_of_isDigit h
  rw [Text.isLetter_of_lt (by omega), Bool.eq_false_iff]
  intro ha
  have hl : (65 ≤ c.toNat ∧ c.toNat ≤ 90) ∨ (97 ≤ c.toNat ∧ c.toNat ≤ 122) := by
    unfold Char.isAlpha Char.isUpper Char.isLower at ha
    simpa [UInt32.le_iff_toNat_le, ← Char.toNat_val] using ha
  omega

theorem classes_of_isDigit {c : Char} (h : c.isDigit = true) :
    Operator.ofChar? c = none ∧ isBlank c = false ∧ c ≠ '"' ∧ Text.isLetter c = false := by
  refine ⟨?_, ?_, ?_, isLetter_of_isDigit h⟩
  · cases hop : Operator.ofChar? c with
    | none => rfl
    | some op => simp [(classes_of_operator hop).2.2.1] at h
  · rw [Bool.eq_false_iff]
    intro hb
    simp [(classes_of_isBlank hb).2.2.1] at h
  · rintro rfl
    simp at h

theorem classes_of_isLetter {c : Char} (h : Text.isLetter c = true) :
    Operator.ofChar? c = none ∧ isBlank c = false ∧ c ≠ '"' ∧ c.isDigit = false := by
  refine ⟨?_, ?_, ?_, ?_⟩
  · cases hop : Operator.ofChar? c with
    | none => rfl
    | some op => simp [(classes_of_operator hop).2.2.2] at h
  · rw [Bool.eq_false_iff]
    intro hb
    simp [(classes_of_isBlank hb).2.2.2] at h
  · rintro rfl
    revert h
    decide
  · rw [Bool.eq_false_iff]
    intro hd
    simp [isLetter_of_isDigit hd] at h

theorem ne_slash_of_ofChar?_eq_none {c : Char} (h : Operator.ofChar? c = none) : c ≠ '/' := by
  rintro rfl
  simp [Operator.ofChar?] at h

/-! ## The first item, by the first character -/

theorem cut_of_comment (rest : Text) : cut '/' ('/' :: rest) = cutComment ('/' :: rest) := rfl

theorem cut_of_operator {c : Char} {rest : Text} {op : Operator}
    (h : Operator.ofChar? c = some op) (hs : c = '/' → rest.head? ≠ some '/') :
    cut c rest = cutOperator op c rest := by
  unfold cut
  rw [if_neg (fun hc => hs hc.1 hc.2), h]

theorem cut_of_blank {c : Char} (h : isBlank c = true) (rest : Text) :
    cut c rest = (⟨.blank, [c]⟩, rest) := by
  have hop := (classes_of_isBlank h).1
  unfold cut
  rw [if_neg (fun hc => ne_slash_of_ofChar?_eq_none hop hc.1), hop, if_pos h]

theorem cut_of_quote (rest : Text) : cut '"' rest = cutString rest := rfl

theorem cut_of_digit {c : Char} (h : c.isDigit = true) (rest : Text) :
    cut c rest = cutNumber c rest := by
  obtain ⟨hop, hblank, hquote, _⟩ := classes_of_isDigit h
  unfold cut
  rw [if_neg (fun hc => ne_slash_of_ofChar?_eq_none hop hc.1), hop]
  simp [hblank, hquote, h]

theorem cut_of_letter {c : Char} (h : Text.isLetter c = true) (rest : Text) :
    cut c rest = cutWord c rest := by
  obtain ⟨hop, hblank, hquote, hdigit⟩ := classes_of_isLetter h
  unfold cut
  rw [if_neg (fun hc => ne_slash_of_ofChar?_eq_none hop hc.1), hop]
  simp [hblank, hquote, hdigit, h]

/-- Whether no item but a fault begins with a character. -/
def IsStray (c : Char) : Prop :=
  Operator.ofChar? c = none ∧ isBlank c = false ∧ c ≠ '"' ∧ c.isDigit = false
    ∧ Text.isLetter c = false

theorem cut_of_stray {c : Char} (h : IsStray c) (rest : Text) :
    cut c rest = (⟨.fault .unexpectedCharacter, [c]⟩, rest) := by
  obtain ⟨hop, hblank, hquote, hdigit, hletter⟩ := h
  unfold cut
  rw [if_neg (fun hc => ne_slash_of_ofChar?_eq_none hop hc.1), hop]
  simp [hblank, hquote, hdigit, hletter]

/-- Every character is in one of the classes. -/
theorem first_cases (c : Char) :
    (∃ op, Operator.ofChar? c = some op) ∨ isBlank c = true ∨ c = '"' ∨ c.isDigit = true
      ∨ Text.isLetter c = true ∨ IsStray c := by
  unfold IsStray
  cases Operator.ofChar? c <;> cases isBlank c <;> cases c.isDigit <;> cases Text.isLetter c
    <;> by_cases hq : c = '"' <;> simp [hq]

/-! ## Whole items -/

variable {c : Char} {s t rest after : Text}

theorem cutOperator_alone {op : Operator}
    (ha : op.withEqual? ≠ none → after.head? ≠ some '=') :
    cutOperator op c after = (⟨.token (.operator op), [c]⟩, after) := by
  unfold cutOperator
  split
  · cases hw : op.withEqual? with
    | none => rfl
    | some longer => exact absurd rfl (ha (by simp [hw]))
  · rfl

theorem cutOperator_withEqual {op longer : Operator} (h : op.withEqual? = some longer) :
    cutOperator op c ('=' :: after) = (⟨.token (.operator longer), [c, '=']⟩, after) := by
  simp [cutOperator, h]

theorem cutComment_run (hs : '\n' ∉ s) (ha : ∀ d ∈ after.head?, d = '\n') :
    cutComment ('/' :: s ++ after) = (⟨.comment, '/' :: '/' :: s⟩, after) := by
  have hrun := Text.forall_ne_of_notMem (s := '/' :: s) (d := '\n') (by simp [hs])
  have hstop : ∀ d ∈ after.head?, (d != '\n') = false := by
    intro d hd
    simp [ha d hd]
  rw [cutComment, Text.takeWhile_run hrun hstop, Text.dropWhile_run hrun hstop]

theorem cutString_closed (hs : '"' ∉ s) :
    cutString (s ++ '"' :: after) = (⟨.token .string, '"' :: s ++ ['"']⟩, after) := by
  have hrun := Text.forall_ne_of_notMem hs
  have hstop : ∀ d ∈ ('"' :: after).head?, (d != '"') = false := by simp
  rw [cutString, Text.takeWhile_run hrun hstop, Text.dropWhile_run hrun hstop]

theorem cutString_open (hs : '"' ∉ s) :
    cutString s = (⟨.fault .unterminatedString, '"' :: s⟩, []) := by
  have hdrop := Text.dropWhile_run (t := []) (Text.forall_ne_of_notMem hs) (by simp)
  rw [List.append_nil] at hdrop
  rw [cutString, hdrop]

theorem cutWord_run (hs : ∀ d ∈ s, isWordChar d = true)
    (ha : ∀ d ∈ after.head?, isWordChar d = false) :
    cutWord c (s ++ after) = (⟨.token (.ofWord (c :: s)), c :: s⟩, after) := by
  rw [cutWord, Text.takeWhile_run hs ha, Text.dropWhile_run hs ha]

theorem cutNumber_whole (hs : ∀ d ∈ s, d.isDigit = true)
    (ha : ∀ d ∈ after.head?, d.isDigit = false)
    (hp : ∀ d rest, after = '.' :: d :: rest → d.isDigit = false) :
    cutNumber c (s ++ after) = (⟨.token .number, c :: s⟩, after) := by
  have hfraction : cutFraction after = ([], after) := by
    unfold cutFraction
    split
    · rename_i d rest
      simp [hp d rest rfl]
    · rfl
  rw [cutNumber, Text.takeWhile_run hs ha, Text.dropWhile_run hs ha, hfraction, List.append_nil]

theorem cutNumber_decimal (hs : ∀ d ∈ s, d.isDigit = true) (ht : Grammar.IsDigits t)
    (ha : ∀ d ∈ after.head?, d.isDigit = false) :
    cutNumber c (s ++ '.' :: t ++ after)
      = (⟨.token .number, c :: s ++ '.' :: t⟩, after) := by
  obtain ⟨hne, hdigits⟩ := ht
  obtain ⟨d, u, rfl⟩ := List.exists_cons_of_ne_nil hne
  have hu : ∀ e ∈ u, e.isDigit = true := fun e he => hdigits e (List.mem_cons_of_mem d he)
  have hstop : ∀ e ∈ ('.' :: (d :: u) ++ after).head?, e.isDigit = false := by
    intro e he
    obtain rfl := Option.some.inj he
    decide
  have hfraction : cutFraction ('.' :: (d :: u) ++ after) = ('.' :: d :: u, after) := by
    simp only [cutFraction, List.cons_append, hdigits d List.mem_cons_self, if_true,
      Text.takeWhile_run hu ha, Text.dropWhile_run hu ha]
  rw [cutNumber, List.append_assoc, Text.takeWhile_run hs hstop, Text.dropWhile_run hs hstop,
    hfraction]

end Item

end LoxLexer
