/-
  Written JSON is read back, in either layout and at any depth (`read?_write`). The texts of the
  leaves are read first: an escape stands for its character (`readText_escape`), a decimal for its
  number (`readInteger_ofInt`). `ReadsBack` is what a value needs to be read as a part of another,
  with anything but a digit behind it; each constructor keeps it (`readsBack_list`,
  `readsBack_object`), as the blanks of a layout are skipped wherever they stand.
-/
import Mathlib.Tactic.SplitIfs
import LoxLexer.Json.Reader
import LoxLexer.Proofs.Cut

namespace LoxLexer.Json

/-! ## Blanks -/

/-- Nothing but blanks. -/
def IsGap (gap : Text) : Prop := ∀ c ∈ gap, isBlank c = true

variable {gap rest t : Text} {c : Char} {fuel : Nat} {layout : Layout} {depth : Nat}

theorem isGap_lineBreak (layout : Layout) (depth : Nat) : IsGap (layout.lineBreak depth) := by
  cases layout with
  | compact => exact fun c hc => absurd hc List.not_mem_nil
  | indented =>
    refine List.forall_mem_cons.mpr ⟨rfl, fun c hc => ?_⟩
    rw [(List.mem_replicate.mp hc).2]
    rfl

theorem skipBlank_append (h : IsGap gap) (t : Text) : skipBlank (gap ++ t) = skipBlank t :=
  List.dropWhile_append_of_pos h

theorem skipBlank_cons (h : isBlank c = false) (t : Text) : skipBlank (c :: t) = c :: t := by
  rw [skipBlank, List.dropWhile_cons_of_neg (by simp [h])]

theorem isDigit_of_isBlank (h : isBlank c = true) : c.isDigit = false := by
  have hcases : ((c = ' ' ∨ c = '\t') ∨ c = '\n') ∨ c = '\r' := by simpa [isBlank] using h
  rcases hcases with ((rfl | rfl) | rfl) | rfl <;> decide

/-- What follows a value is no digit, be it blanks or a mark behind them. -/
theorem head?_gap_append (h : IsGap gap) (hc : c.isDigit = false) (rest : Text) :
    ∀ d ∈ (gap ++ c :: rest).head?, d.isDigit = false := by
  intro d hd
  cases gap with
  | nil =>
    obtain rfl := Option.some.inj hd
    exact hc
  | cons e gap =>
    obtain rfl := Option.some.inj hd
    exact isDigit_of_isBlank (h e List.mem_cons_self)

theorem readValue_append (h : IsGap gap) (fuel : Nat) (t : Text) :
    readValue fuel (gap ++ t) = readValue fuel t := by
  cases fuel with
  | zero => rfl
  | succ fuel => rw [readValue, readValue, skipBlank_append h]

theorem readItems_append (h : IsGap gap) (fuel : Nat) (t : Text) :
    readItems fuel (gap ++ t) = readItems fuel t := by
  cases fuel with
  | zero => rfl
  | succ fuel => rw [readItems, readItems, readValue_append h]

theorem readMembers_append (h : IsGap gap) (fuel : Nat) (t : Text) :
    readMembers fuel (gap ++ t) = readMembers fuel t := by
  cases fuel with
  | zero => rfl
  | succ fuel => rw [readMembers, readMembers, skipBlank_append h]

/-! ## Numbers -/

theorem readNat_ofNat (n : Nat) (h : ∀ c ∈ rest.head?, c.isDigit = false) :
    readNat (Text.ofNat n ++ rest) = some (n, rest) := by
  have hdigits : ∀ c ∈ Text.ofNat n, c.isDigit = true := fun _ => Text.isDigit_of_mem_ofNat
  have hplain : ¬ (Text.ofNat n = [] ∨ (Text.ofNat n).head? = some '0' ∧ Text.ofNat n ≠ ['0']) := by
    rintro (hnil | ⟨hhead, hne⟩)
    · exact Text.ofNat_ne_nil n hnil
    · rw [Text.eq_zero_of_head?_ofNat hhead] at hne
      exact hne rfl
  simp only [readNat, Text.takeWhile_run hdigits h, Text.dropWhile_run hdigits h, if_neg hplain,
    Text.valueOfDigits_ofNat]

theorem ne_minus_of_isDigit (h : c.isDigit = true) : c ≠ '-' := by
  rintro rfl
  cases h

theorem readInteger_of_isDigit (h : c.isDigit = true) (t : Text) :
    readInteger (c :: t) = (readNat (c :: t)).map fun r => ((r.1 : Int), r.2) := by
  unfold readInteger
  split
  · rename_i he
    exact absurd (List.cons.inj he).1 (ne_minus_of_isDigit h)
  · rfl

theorem readInteger_ofInt (n : Int) (h : ∀ c ∈ rest.head?, c.isDigit = false) :
    readInteger (Text.ofInt n ++ rest) = some (n, rest) := by
  cases n with
  | ofNat n =>
    have hread := readNat_ofNat n h
    obtain ⟨c, t, hcons⟩ := List.exists_cons_of_ne_nil (Text.ofNat_ne_nil n)
    have hc : c.isDigit = true := Text.isDigit_of_mem_ofNat (hcons ▸ List.mem_cons_self)
    rw [hcons, List.cons_append] at hread
    rw [Text.ofInt, hcons, List.cons_append, readInteger_of_isDigit hc, hread]
    rfl
  | negSucc n =>
    rw [Text.ofInt, List.cons_append, readInteger, readNat_ofNat (n + 1) h]
    rfl

/-- A digit or a minus sign begins a number and nothing else. -/
def BeginsNumber (c : Char) : Prop := c.isDigit = true ∨ c = '-'

theorem exists_ofInt_eq_cons (n : Int) : ∃ c t, Text.ofInt n = c :: t ∧ BeginsNumber c := by
  cases n with
  | ofNat n =>
    obtain ⟨c, t, h⟩ := List.exists_cons_of_ne_nil (Text.ofNat_ne_nil n)
    exact ⟨c, t, h, Or.inl (Text.isDigit_of_mem_ofNat (h ▸ List.mem_cons_self))⟩
  | negSucc n => exact ⟨'-', _, rfl, Or.inr rfl⟩

theorem BeginsNumber.classes (h : BeginsNumber c) :
    isBlank c = false ∧ c ≠ ']' ∧ c ≠ '"' ∧ c ≠ '[' ∧ c ≠ '{' ∧ c ≠ 'n' ∧ c ≠ 't' ∧ c ≠ 'f' := by
  rcases h with h | rfl
  · refine ⟨?_, ?_, ?_, ?_, ?_, ?_, ?_, ?_⟩
    · rw [Bool.eq_false_iff]
      intro hb
      rw [isDigit_of_isBlank hb] at h
      cases h
    all_goals
      rintro rfl
      cases h
  · decide

/-! ## Texts -/

theorem hexValue?_digitChar : ∀ n < 16, hexValue? (Nat.digitChar n) = some n := by decide

/-- Four hexadecimal digits stand for their number. -/
theorem exists_hexadecimal_eq {n : Nat} (h : n < 0x10000) :
    ∃ a b c d, Text.hexadecimal 4 n = [a, b, c, d] ∧ fourDigits? a b c d = some n := by
  refine ⟨_, _, _, _, rfl, ?_⟩
  have hdigit : ∀ m, hexValue? (Nat.digitChar (m % 16)) = some (m % 16) :=
    fun m => hexValue?_digitChar _ (Nat.mod_lt m (by decide))
  have hsum : ((n / 16 / 16 / 16 % 16 * 16 + n / 16 / 16 % 16) * 16 + n / 16 % 16) * 16 + n % 16
      = n := by omega
  simp only [fourDigits?, hdigit]
  exact congrArg some hsum

/-- A number escape stands for its character. -/
theorem readText_hexadecimal (h : c.toNat < 0x20) (t : Text) :
    readText ('\\' :: 'u' :: Text.hexadecimal 4 c.toNat ++ t)
      = (readText t).map fun r => (c :: r.1, r.2) := by
  obtain ⟨a, b, d, e, hdigits, hvalue⟩ := exists_hexadecimal_eq (n := c.toNat) (by omega)
  have hhigh : ¬ (0xd800 ≤ c.toNat ∧ c.toNat < 0xdc00) := by omega
  have hlow : ¬ (0xdc00 ≤ c.toNat ∧ c.toNat < 0xe000) := by omega
  simp only [hdigits, List.cons_append, List.nil_append, readText, hvalue, if_neg hhigh,
    if_neg hlow, Char.ofNat_toNat]

/-- Any other character stands for itself. -/
theorem readText_cons (hquote : c ≠ '"') (hslash : c ≠ '\\') (hcontrol : ¬ c.toNat < 0x20)
    (t : Text) : readText (c :: t) = (readText t).map fun r => (c :: r.1, r.2) := by
  have hraw : ¬ (c.toNat < 0x20 ∨ c = '\\') := not_or.mpr ⟨hcontrol, hslash⟩
  rw [readText.eq_def]
  split
  · cases ‹c :: t = []›
  · exact absurd (List.cons.inj ‹_›).1 hquote
  · exact absurd (List.cons.inj ‹_›).1 hslash
  · exact absurd (List.cons.inj ‹_›).1 hslash
  · obtain ⟨rfl, rfl⟩ := List.cons.inj ‹c :: t = _›
    rw [if_neg hraw]

/-- The escape of a character stands for it. -/
theorem readText_escape (c : Char) (t : Text) :
    readText (escape c ++ t) = (readText t).map fun r => (c :: r.1, r.2) := by
  unfold escape
  split_ifs with hquote hslash hb ht hn hf hr hcontrol
  · subst hquote; rfl
  · subst hslash; rfl
  · subst hb; rfl
  · subst ht; rfl
  · subst hn; rfl
  · subst hf; rfl
  · subst hr; rfl
  · exact readText_hexadecimal hcontrol t
  · exact readText_cons hquote hslash hcontrol t

theorem readText_flatMap_escape (t rest : Text) :
    readText (t.flatMap escape ++ '"' :: rest) = some (t, rest) := by
  induction t with
  | nil => rfl
  | cons c t ih =>
    rw [List.flatMap_cons, List.append_assoc, readText_escape, ih]
    rfl

theorem quote_append (t rest : Text) :
    quote t ++ rest = '"' :: (t.flatMap escape ++ '"' :: rest) := by
  simp [quote]

/-! ## Parts of values -/

/-- The value is read back from its text at any depth, whatever stands behind it but a digit; the
length of the text is fuel enough. -/
def ReadsBack (layout : Layout) (v : Json) : Prop :=
  ∀ (depth fuel : Nat) (rest : Text), (write layout depth v).length < fuel →
    (∀ c ∈ rest.head?, c.isDigit = false) →
    readValue fuel (write layout depth v ++ rest) = some (v, rest)

/-- Fuel for the text of a value is fuel for one step at least. -/
theorem readsBack_of_succ {v : Json}
    (h : ∀ (depth fuel : Nat) (rest : Text), (write layout depth v).length ≤ fuel →
      (∀ c ∈ rest.head?, c.isDigit = false) →
      readValue (fuel + 1) (write layout depth v ++ rest) = some (v, rest)) :
    ReadsBack layout v := by
  intro depth fuel rest hfuel hrest
  obtain ⟨fuel, rfl⟩ := Nat.exists_eq_add_one_of_ne_zero (Nat.ne_zero_of_lt hfuel)
  exact h depth fuel rest (Nat.le_of_lt_succ hfuel) hrest

theorem write_list_append (layout : Layout) (depth : Nat) (v : Json) (vs : List Json)
    (rest : Text) :
    write layout depth (list (v :: vs)) ++ rest
      = '[' :: (layout.lineBreak (depth + 1) ++ (write layout (depth + 1) v
        ++ (writeItems layout (depth + 1) vs ++ (layout.lineBreak depth ++ ']' :: rest)))) := by
  rw [write_list_cons]
  simp

theorem write_object_append (layout : Layout) (depth : Nat) (name : Text) (v : Json)
    (ms : List (Text × Json)) (rest : Text) :
    write layout depth (object ((name, v) :: ms)) ++ rest
      = '{' :: (layout.lineBreak (depth + 1) ++ (quote name ++ (layout.colon
        ++ (write layout (depth + 1) v ++ (writeMembers layout (depth + 1) ms
          ++ (layout.lineBreak depth ++ '}' :: rest)))))) := by
  rw [write_object_cons]
  simp

theorem writeItems_append (layout : Layout) (depth : Nat) (v : Json) (vs : List Json)
    (rest : Text) :
    writeItems layout depth (v :: vs) ++ rest
      = ',' :: (layout.lineBreak depth ++ (write layout depth v
        ++ (writeItems layout depth vs ++ rest))) := by
  rw [writeItems_cons]
  simp

theorem writeMembers_append (layout : Layout) (depth : Nat) (name : Text) (v : Json)
    (ms : List (Text × Json)) (rest : Text) :
    writeMembers layout depth ((name, v) :: ms) ++ rest
      = ',' :: (layout.lineBreak depth ++ (quote name ++ (layout.colon ++ (write layout depth v
        ++ (writeMembers layout depth ms ++ rest))))) := by
  rw [writeMembers_cons]
  simp

/-- A written value begins neither with a blank nor with a closing bracket. -/
theorem exists_write_eq_cons (layout : Layout) (depth : Nat) (v : Json) :
    ∃ c t, write layout depth v = c :: t ∧ isBlank c = false ∧ c ≠ ']' := by
  cases v with
  | null => exact ⟨'n', _, write_null .., by decide⟩
  | bool b =>
    cases b with
    | true => exact ⟨'t', _, write_true .., by decide⟩
    | false => exact ⟨'f', _, write_false .., by decide⟩
  | integer n =>
    obtain ⟨c, t, hcons, hc⟩ := exists_ofInt_eq_cons n
    obtain ⟨hblank, hbracket, _⟩ := hc.classes
    exact ⟨c, t, by rw [write_integer, hcons], hblank, hbracket⟩
  | text t => exact ⟨'"', _, write_text .., by decide⟩
  | list items =>
    cases items with
    | nil => exact ⟨'[', _, write_list_nil .., by decide⟩
    | cons v vs => exact ⟨'[', _, write_list_cons .., by decide⟩
  | object members =>
    cases members with
    | nil => exact ⟨'{', _, write_object_nil .., by decide⟩
    | cons m ms => exact ⟨'{', _, write_object_cons .., by decide⟩

/-! ## Leaves -/

theorem readsBack_null : ReadsBack layout null := readsBack_of_succ fun _ _ _ _ _ => rfl

theorem readsBack_bool (b : Bool) : ReadsBack layout (bool b) := by
  refine readsBack_of_succ fun _ _ _ _ _ => ?_
  cases b <;> rfl

theorem readsBack_text (t : Text) : ReadsBack layout (text t) := by
  refine readsBack_of_succ fun depth fuel rest _ _ => ?_
  rw [write_text, quote_append, readValue, skipBlank_cons rfl]
  simp only [readText_flatMap_escape, Option.map_some]

theorem readValue_of_beginsNumber (h : BeginsNumber c) (fuel : Nat) (t : Text) :
    readValue (fuel + 1) (c :: t)
      = (readInteger (c :: t)).map fun r => (integer r.1, r.2) := by
  obtain ⟨hblank, _, hquote, hlist, hobject, hn, ht, hf⟩ := h.classes
  rw [readValue, skipBlank_cons hblank]
  split <;> simp_all

theorem readsBack_integer (n : Int) : ReadsBack layout (integer n) := by
  refine readsBack_of_succ fun depth fuel rest _ hrest => ?_
  have hread := readInteger_ofInt n hrest
  obtain ⟨c, t, hcons, hc⟩ := exists_ofInt_eq_cons n
  rw [hcons, List.cons_append] at hread
  rw [write_integer, hcons, List.cons_append, readValue_of_beginsNumber hc, hread]
  rfl

/-! ## Lists -/

theorem readValue_list {t : Text} (h : (skipBlank t).head? ≠ some ']') (fuel : Nat) :
    readValue (fuel + 1) ('[' :: t) = (readItems fuel t).map fun r => (list r.1, r.2) := by
  rw [readValue, skipBlank_cons rfl]
  simp only
  split
  · rename_i hbracket
    exact absurd (congrArg List.head? hbracket) h
  · rfl

theorem head?_skipBlank_write (hgap : IsGap gap) (layout : Layout) (depth : Nat) (v : Json)
    (t : Text) : (skipBlank (gap ++ (write layout depth v ++ t))).head? ≠ some ']' := by
  obtain ⟨c, u, hcons, hblank, hbracket⟩ := exists_write_eq_cons layout depth v
  rw [skipBlank_append hgap, hcons, List.cons_append, skipBlank_cons hblank]
  simpa using hbracket

/-- The items of a list are read one after the other, the last one before the bracket. -/
theorem readItems_write {v : Json} {vs : List Json} (h : ∀ w ∈ v :: vs, ReadsBack layout w)
    (hgap : IsGap gap) (rest : Text)
    (hfuel : (write layout depth v).length + (writeItems layout depth vs).length + 1 < fuel) :
    readItems fuel
        (write layout depth v ++ (writeItems layout depth vs ++ (gap ++ ']' :: rest)))
      = some (v :: vs, rest) := by
  induction vs generalizing v fuel with
  | nil =>
    obtain ⟨fuel, rfl⟩ := Nat.exists_eq_add_one_of_ne_zero (Nat.ne_zero_of_lt hfuel)
    have hv := h v List.mem_cons_self depth fuel (gap ++ ']' :: rest) (by omega)
      (head?_gap_append hgap (by decide) rest)
    rw [writeItems_nil, List.nil_append, readItems, hv]
    simp only [skipBlank_append hgap, skipBlank_cons (c := ']') rfl]
  | cons w vs ih =>
    obtain ⟨fuel, rfl⟩ := Nat.exists_eq_add_one_of_ne_zero (Nat.ne_zero_of_lt hfuel)
    have hlength := congrArg List.length (writeItems_append layout depth w vs [])
    simp only [List.append_nil, List.length_cons, List.length_append] at hlength
    have hvs : readItems fuel (write layout depth w ++ (writeItems layout depth vs
        ++ (gap ++ ']' :: rest))) = some (w :: vs, rest) :=
      ih (fun u hu => h u (List.mem_cons_of_mem v hu)) (by omega)
    have hv := h v List.mem_cons_self depth fuel
      (writeItems layout depth (w :: vs) ++ (gap ++ ']' :: rest)) (by omega)
      (by simp [writeItems_append])
    rw [readItems, hv, writeItems_append]
    simp only [skipBlank_cons (c := ',') rfl, readItems_append (isGap_lineBreak layout depth), hvs,
      Option.map_some]

theorem readsBack_list {items : List Json} (h : ∀ w ∈ items, ReadsBack layout w) :
    ReadsBack layout (list items) := by
  refine readsBack_of_succ fun depth fuel rest hfuel _ => ?_
  cases items with
  | nil => rfl
  | cons v vs =>
    have hlength := congrArg List.length (write_list_append layout depth v vs [])
    simp only [List.append_nil, List.length_cons, List.length_append] at hlength
    have hgap := isGap_lineBreak layout
    rw [write_list_append, readValue_list (head?_skipBlank_write (hgap _) _ _ _ _),
      readItems_append (hgap _), readItems_write h (hgap _) rest (by omega)]
    rfl

/-! ## Objects -/

theorem readValue_object {t : Text} (h : (skipBlank t).head? ≠ some '}') (fuel : Nat) :
    readValue (fuel + 1) ('{' :: t)
      = (readMembers fuel t).map fun r => (object r.1, r.2) := by
  rw [readValue, skipBlank_cons rfl]
  simp only
  split
  · rename_i hbrace
    exact absurd (congrArg List.head? hbrace) h
  · rfl

theorem exists_colon_eq (layout : Layout) : ∃ gap, IsGap gap ∧ layout.colon = ':' :: gap := by
  cases layout with
  | compact => exact ⟨[], fun c hc => absurd hc List.not_mem_nil, rfl⟩
  | indented => exact ⟨[' '], by simp [IsGap, isBlank], rfl⟩

/-- A member with a comma behind it. -/
theorem readMembers_more {name t after : Text} {v : Json} (hv : readValue fuel t = some (v, rest))
    (hnext : skipBlank rest = ',' :: after) :
    readMembers (fuel + 1) (quote name ++ (layout.colon ++ t))
      = (readMembers fuel after).map fun r => ((name, v) :: r.1, r.2) := by
  obtain ⟨gap, hgap, hcolon⟩ := exists_colon_eq layout
  rw [quote_append, readMembers, skipBlank_cons rfl, hcolon]
  simp only [readText_flatMap_escape, List.cons_append, skipBlank_cons (c := ':') rfl,
    readValue_append hgap, hv, hnext]

/-- A member with the closing brace behind it. -/
theorem readMembers_last {name t after : Text} {v : Json} (hv : readValue fuel t = some (v, rest))
    (hnext : skipBlank rest = '}' :: after) :
    readMembers (fuel + 1) (quote name ++ (layout.colon ++ t)) = some ([(name, v)], after) := by
  obtain ⟨gap, hgap, hcolon⟩ := exists_colon_eq layout
  rw [quote_append, readMembers, skipBlank_cons rfl, hcolon]
  simp only [readText_flatMap_escape, List.cons_append, skipBlank_cons (c := ':') rfl,
    readValue_append hgap, hv, hnext]

/-- The members of an object are read one after the other, the last one before the brace. -/
theorem readMembers_write {name : Text} {v : Json} {ms : List (Text × Json)}
    (h : ∀ m ∈ (name, v) :: ms, ReadsBack layout m.2) (hgap : IsGap gap) (rest : Text)
    (hfuel : (write layout depth v).length + (writeMembers layout depth ms).length + 1 < fuel) :
    readMembers fuel
        (quote name ++ (layout.colon ++ (write layout depth v
          ++ (writeMembers layout depth ms ++ (gap ++ '}' :: rest)))))
      = some ((name, v) :: ms, rest) := by
  induction ms generalizing name v fuel with
  | nil =>
    obtain ⟨fuel, rfl⟩ := Nat.exists_eq_add_one_of_ne_zero (Nat.ne_zero_of_lt hfuel)
    have hread : ReadsBack layout v := h (name, v) List.mem_cons_self
    have hv := hread depth fuel (gap ++ '}' :: rest) (by omega)
      (head?_gap_append hgap (by decide) rest)
    have hnext : skipBlank (gap ++ '}' :: rest) = '}' :: rest := by
      rw [skipBlank_append hgap, skipBlank_cons rfl]
    rw [writeMembers_nil, List.nil_append, readMembers_last hv hnext]
  | cons m ms ih =>
    obtain ⟨other, w⟩ := m
    obtain ⟨fuel, rfl⟩ := Nat.exists_eq_add_one_of_ne_zero (Nat.ne_zero_of_lt hfuel)
    have hlength := congrArg List.length (writeMembers_append layout depth other w ms [])
    simp only [List.append_nil, List.length_cons, List.length_append] at hlength
    have hms : readMembers fuel (quote other ++ (layout.colon ++ (write layout depth w
        ++ (writeMembers layout depth ms ++ (gap ++ '}' :: rest)))))
        = some ((other, w) :: ms, rest) :=
      ih (fun u hu => h u (List.mem_cons_of_mem _ hu)) (by omega)
    have hread : ReadsBack layout v := h (name, v) List.mem_cons_self
    have hv := hread depth fuel
      (writeMembers layout depth ((other, w) :: ms) ++ (gap ++ '}' :: rest)) (by omega)
      (by simp [writeMembers_append])
    rw [writeMembers_append] at hv ⊢
    rw [readMembers_more hv (skipBlank_cons rfl _),
      readMembers_append (isGap_lineBreak layout depth), hms]
    rfl

theorem readsBack_object {members : List (Text × Json)}
    (h : ∀ m ∈ members, ReadsBack layout m.2) : ReadsBack layout (object members) := by
  refine readsBack_of_succ fun depth fuel rest hfuel _ => ?_
  cases members with
  | nil => rfl
  | cons m ms =>
    obtain ⟨name, v⟩ := m
    have hlength := congrArg List.length (write_object_append layout depth name v ms [])
    simp only [List.append_nil, List.length_cons, List.length_append] at hlength
    have hgap := isGap_lineBreak layout
    have hfirst : ∀ t, (skipBlank (layout.lineBreak (depth + 1) ++ (quote name ++ t))).head?
        ≠ some '}' := by
      intro t
      rw [skipBlank_append (hgap _), quote_append, skipBlank_cons rfl]
      simp
    rw [write_object_append, readValue_object (hfirst _), readMembers_append (hgap _),
      readMembers_write h (hgap _) rest (by omega)]
    rfl

/-! ## Whole texts -/

theorem readsBack (layout : Layout) (v : Json) : ReadsBack layout v := by
  match v with
  | null => exact readsBack_null
  | bool b => exact readsBack_bool b
  | integer n => exact readsBack_integer n
  | text t => exact readsBack_text t
  | list items => exact readsBack_list fun w _ => readsBack layout w
  | object members => exact readsBack_object fun m _ => readsBack layout m.2
termination_by sizeOf v
decreasing_by
  · have := List.sizeOf_lt_of_mem ‹_›
    simp only [list.sizeOf_spec]
    omega
  · have := List.sizeOf_lt_of_mem ‹_›
    cases m
    simp only [object.sizeOf_spec, Prod.mk.sizeOf_spec] at *
    omega

/-- Written JSON is read back, with blanks behind it or without. -/
theorem read?_write (layout : Layout) (depth : Nat) (v : Json) {gap : Text} (h : IsGap gap) :
    read? (write layout depth v ++ gap) = some v := by
  have hdigit : ∀ c ∈ gap.head?, c.isDigit = false :=
    fun c hc => isDigit_of_isBlank (h c (List.mem_of_mem_head? hc))
  have hlength : (write layout depth v).length < (write layout depth v ++ gap).length + 1 := by
    rw [List.length_append]
    omega
  have hskip : skipBlank gap = [] := by
    rw [← List.append_nil gap, skipBlank_append h]
    rfl
  simp only [read?, readsBack layout v depth _ gap hlength hdigit, hskip, if_true]

theorem read?_compact (v : Json) : read? v.compact = some v := by
  have hread := read?_write .compact 0 v (List.forall_mem_nil _)
  rwa [List.append_nil] at hread

/-- Values with the same text are the same. -/
theorem compact_injective {v w : Json} (h : v.compact = w.compact) : v = w := by
  have hread := read?_compact v
  rw [h, read?_compact w] at hread
  exact (Option.some.inj hread).symm

end LoxLexer.Json
