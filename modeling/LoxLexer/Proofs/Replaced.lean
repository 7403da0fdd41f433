/-
  Texts with characters replaced. A replacement keeps classes when it leaves ASCII as it is and
  makes, outside ASCII, letters of letters and other characters of others (`KeepsClasses`). All
  characters that the grammar names are ASCII, and all its other classes are letters or lie within
  ASCII. So a replacement makes matches of matches (`matches_map`), leaves them settled
  (`settled_map`), and makes items of items (`corresponds_map`); the scan of the text changes in
  nothing but how the tokens are spelled (`scan_map_of_keepsClasses`).
-/
import LoxLexer.Proofs.Alike

namespace LoxLexer

/-! ## Replacing characters -/

/-- Outside ASCII letters are replaced by letters and other characters by others, none of them
ASCII; two characters may be replaced by the same one. -/
structure KeepsClasses (f : Char → Char) : Prop where
  ascii : ∀ c, c.toNat < 0x80 → f c = c
  beyond : ∀ c, 0x80 ≤ c.toNat → 0x80 ≤ (f c).toNat
  letter : ∀ c, Text.isLetter (f c) = Text.isLetter c

namespace Operator

theorem ascii_of_mem_spelling (op : Operator) : ∀ c ∈ op.spelling, c.toNat < 0x80 := by
  have hall : op.spelling.all (fun c => c.toNat < 0x80) = true := by cases op <;> decide
  exact fun c hc => of_decide_eq_true (List.all_eq_true.mp hall c hc)

theorem ascii_of_isSome_ofChar? {c : Char} (h : (ofChar? c).isSome = true) : c.toNat < 0x80 := by
  obtain ⟨op, hop⟩ := Option.isSome_iff_exists.mp h
  refine ascii_of_mem_spelling op c ?_
  rw [ofChar?_eq_some_iff.mp hop]
  exact List.mem_singleton_self c

end Operator

theorem Keyword.ascii_of_mem_spelling (k : Keyword) : ∀ c ∈ k.spelling, c.toNat < 0x80 := by
  have hall : k.spelling.all (fun c => c.toNat < 0x80) = true := by cases k <;> decide
  exact fun c hc => of_decide_eq_true (List.all_eq_true.mp hall c hc)

namespace Item

theorem ascii_of_isDigit {c : Char} (h : c.isDigit = true) : c.toNat < 0x80 := by
  have hbounds := toNat_of_isDigit h
  omega

theorem ascii_of_isBlank {c : Char} (h : isBlank c = true) : c.toNat < 0x80 := by
  rcases eq_of_isBlank h with rfl | rfl | rfl | rfl <;> decide

end Item

namespace KeepsClasses

variable {f : Char → Char} {c d : Char} {t after text : Text} {shape : Shape}

/-! ## Characters -/

/-- A class of ASCII characters neither wins nor loses any. -/
theorem class_eq (h : KeepsClasses f) {p : Char → Bool} (hp : ∀ c, p c = true → c.toNat < 0x80)
    (c : Char) : p (f c) = p c := by
  by_cases hc : c.toNat < 0x80
  · rw [h.ascii c hc]
  · have hold : p c = false := Bool.eq_false_iff.mpr fun hin => hc (hp c hin)
    have hnew : p (f c) = false := Bool.eq_false_iff.mpr fun hin =>
      Nat.not_lt.mpr (h.beyond c (Nat.not_lt.mp hc)) (hp (f c) hin)
    rw [hold, hnew]

theorem eq_iff (h : KeepsClasses f) (hd : d.toNat < 0x80) : f c = d ↔ c = d := by
  have hclass : (f c == d) = (c == d) := by
    refine h.class_eq (p := (· == d)) (fun e he => ?_) c
    rw [eq_of_beq he]
    exact hd
  rw [← beq_iff_eq, hclass, beq_iff_eq]

theorem isDigit_eq (h : KeepsClasses f) (c : Char) : (f c).isDigit = c.isDigit :=
  h.class_eq (fun _ => Item.ascii_of_isDigit) c

theorem isBlank_eq (h : KeepsClasses f) (c : Char) : Item.isBlank (f c) = Item.isBlank c :=
  h.class_eq (fun _ => Item.ascii_of_isBlank) c

theorem isWordChar_eq (h : KeepsClasses f) (c : Char) :
    Item.isWordChar (f c) = Item.isWordChar c := by
  have hunderscore : (f c == '_') = (c == '_') := by
    rw [Bool.eq_iff_iff, beq_iff_eq, beq_iff_eq]
    exact h.eq_iff (by decide)
  rw [Item.isWordChar, Item.isWordChar, h.letter, h.isDigit_eq, hunderscore]

theorem isStray (h : KeepsClasses f) (hc : Item.IsStray c) : Item.IsStray (f c) := by
  obtain ⟨hop, hblank, hquote, hdigit, hletter⟩ := hc
  have hoperator := h.class_eq (p := fun c => (Operator.ofChar? c).isSome)
    (fun _ => Operator.ascii_of_isSome_ofChar?) c
  rw [hop, Option.isSome_none, Option.isSome_eq_false_iff, Option.isNone_iff_eq_none] at hoperator
  exact ⟨hoperator, (h.isBlank_eq c).trans hblank, mt (h.eq_iff (by decide)).mp hquote,
    (h.isDigit_eq c).trans hdigit, (h.letter c).trans hletter⟩

/-! ## Texts -/

theorem map_eq_iff (h : KeepsClasses f) {u : Text} (hu : ∀ d ∈ u, d.toNat < 0x80) :
    t.map f = u ↔ t = u := by
  induction u generalizing t with
  | nil => exact List.map_eq_nil_iff
  | cons d u ih =>
    obtain ⟨hd, hu⟩ := List.forall_mem_cons.mp hu
    cases t with
    | nil => simp
    | cons c t => rw [List.map_cons, List.cons.injEq, List.cons.injEq, h.eq_iff hd, ih hu]

theorem map_eq_self (h : KeepsClasses f) (ht : ∀ d ∈ t, d.toNat < 0x80) : t.map f = t :=
  (h.map_eq_iff ht).mpr rfl

theorem mem_map_iff (h : KeepsClasses f) (hd : d.toNat < 0x80) : d ∈ t.map f ↔ d ∈ t := by
  simp only [List.mem_map, h.eq_iff hd, exists_eq_right]

theorem newlines_map (h : KeepsClasses f) (t : Text) :
    Text.newlines (t.map f) = Text.newlines t := by
  have hnewline : ∀ c, f c = '\n' ↔ c = '\n' := fun _ => h.eq_iff (by decide)
  induction t with
  | nil => rfl
  | cons c t ih => simp only [List.map_cons, Text.newlines_cons, hnewline, ih]

theorem forall_head?_map {p : Char → Prop} (hp : ∀ c, p c → p (f c)) (ht : ∀ c ∈ t.head?, p c) :
    ∀ c ∈ (t.map f).head?, p c := by
  intro d hd
  rw [List.head?_map] at hd
  obtain ⟨c, hc, rfl⟩ := Option.map_eq_some_iff.mp hd
  exact hp c (ht c hc)

theorem head?_map_eq_iff (h : KeepsClasses f) (hd : d.toNat < 0x80) :
    (t.map f).head? = some d ↔ t.head? = some d := by
  cases t with
  | nil => rfl
  | cons c t => simp only [List.map_cons, List.head?_cons, Option.some.injEq, h.eq_iff hd]

/-! ## Matches -/

theorem isDigits_map (h : KeepsClasses f) (ht : Grammar.IsDigits t) :
    Grammar.IsDigits (t.map f) :=
  ⟨mt List.map_eq_nil_iff.mp ht.1,
    List.forall_mem_map.mpr fun c hc => (h.isDigit_eq c).trans (ht.2 c hc)⟩

theorem isNumber_map (h : KeepsClasses f) (ht : Grammar.IsNumber t) :
    Grammar.IsNumber (t.map f) := by
  cases ht with
  | whole ht => exact .whole (h.isDigits_map ht)
  | decimal hs ht =>
    rw [List.map_append, List.map_cons, h.ascii '.' (by decide)]
    exact .decimal (h.isDigits_map hs) (h.isDigits_map ht)

theorem isWord_map (h : KeepsClasses f) (ht : Grammar.IsWord t) : Grammar.IsWord (t.map f) := by
  obtain ⟨hc, ht⟩ := ht
  exact .intro ((h.letter _).trans hc)
    (List.forall_mem_map.mpr fun d hd => (h.isWordChar_eq d).trans (ht d hd))

/-- A replacement makes matches of matches. -/
theorem matches_map (h : KeepsClasses f) (hm : Grammar.Matches shape text) :
    Grammar.Matches shape (text.map f) := by
  cases hm with
  | operator op =>
    rw [h.map_eq_self op.ascii_of_mem_spelling]
    exact .operator op
  | number hn => exact .number (h.isNumber_map hn)
  | keyword k =>
    rw [h.map_eq_self k.ascii_of_mem_spelling]
    exact .keyword k
  | identifier hw hk =>
    -- a word that now is spelled as a keyword was so before
    exact .identifier (h.isWord_map hw) fun k hspelling =>
      hk k ((h.map_eq_iff k.ascii_of_mem_spelling).mp hspelling.symm).symm
  | string hs =>
    obtain ⟨hquote⟩ := hs
    rw [List.map_append, List.map_cons, List.map_singleton, h.ascii '"' (by decide)]
    exact .string (.intro (mt (h.mem_map_iff (by decide)).mp hquote))
  | comment hc =>
    obtain ⟨hnewline⟩ := hc
    rw [List.map_cons, List.map_cons, h.ascii '/' (by decide)]
    exact .comment (.intro (mt (h.mem_map_iff (by decide)).mp hnewline))
  | blank hb => exact .blank ((h.isBlank_eq _).trans hb)

/-- A replacement leaves settled what is settled. -/
theorem settled_map (h : KeepsClasses f) (hs : Grammar.Settled shape text after) :
    Grammar.Settled shape (text.map f) (after.map f) := by
  have hword : ∀ c, Item.isWordChar c = false → Item.isWordChar (f c) = false :=
    fun c hc => (h.isWordChar_eq c).trans hc
  have hdigit : ∀ c, c.isDigit = false → (f c).isDigit = false :=
    fun c hc => (h.isDigit_eq c).trans hc
  cases shape with
  | token kind =>
    cases kind with
    | operator op =>
      have hequal := h.head?_map_eq_iff (t := after) (d := '=') (by decide)
      have hslash := h.head?_map_eq_iff (t := after) (d := '/') (by decide)
      exact ⟨fun hop => mt hequal.mp (hs.1 hop), fun hop => mt hslash.mp (hs.2 hop)⟩
    | identifier => exact forall_head?_map hword hs
    | keyword k => exact forall_head?_map hword hs
    | number =>
      refine ⟨forall_head?_map hdigit hs.1, fun hdot d rest heq => ?_⟩
      obtain ⟨point, more, rfl, hpoint, hmore⟩ := List.map_eq_cons_iff.mp heq
      obtain ⟨e, rest, rfl, rfl, _⟩ := List.map_eq_cons_iff.mp hmore
      obtain rfl := (h.eq_iff (by decide)).mp hpoint
      exact hdigit e (hs.2 (mt (h.mem_map_iff (by decide)).mpr hdot) e rest rfl)
    | string => trivial
    | endOfInput => trivial
  | comment => exact forall_head?_map (fun _ => (h.eq_iff (by decide)).mpr) hs
  | blank => trivial
  | fault f => trivial

/-! ## Items -/

theorem like_map (h : KeepsClasses f) (shape : Shape) (text : Text) :
    Item.Like (List.map f) ⟨shape, text⟩ ⟨shape, text.map f⟩ :=
  ⟨rfl, h.newlines_map text, fun _ => rfl⟩

/-- A replacement makes items of items, one by one. -/
theorem corresponds_map (h : KeepsClasses f) (t : Text) :
    Item.Corresponds (List.map f) (Item.items t) (Item.items (t.map f)) := by
  induction t using Grammar.text_induction with
  | nil =>
    rw [List.map_nil, Item.items_nil]
    exact .nil
  | settled hm hs ih =>
    rw [List.map_append, Rendering.items_of_settled hm hs,
      Rendering.items_of_settled (h.matches_map hm) (h.settled_map hs)]
    exact .kept (h.like_map _ _) ih
  | @unclosed rest hopen =>
    have hlike := h.like_map (.fault .unterminatedString) ('"' :: rest)
    rw [List.map_cons, h.ascii '"' (by decide)] at hlike ⊢
    rw [Grammar.items_of_unclosed hopen,
      Grammar.items_of_unclosed (mt (h.mem_map_iff (by decide)).mp hopen)]
    exact .kept hlike .nil
  | @stray c rest hc ih =>
    rw [List.map_cons, Grammar.items_of_stray hc, Grammar.items_of_stray (h.isStray hc)]
    exact .kept (h.like_map _ [c]) ih

end KeepsClasses

/-! ## Scans -/

/-- Of a character outside ASCII scanning sees only whether it is a letter. When letters there are
replaced by letters and other characters by others, every token is found on its line, of its kind
and with the same characters replaced in it, and the diagnostics are the same. -/
theorem scan_map_of_keepsClasses {f : Char → Char} (h : KeepsClasses f) (source : Text) :
    scan (source.map f)
      = ⟨(scan source).tokens.map fun t => { t with lexeme := t.lexeme.map f },
        (scan source).diagnostics⟩ :=
  scan_of_corresponds List.map_nil (h.corresponds_map source)

/-- Every letter outside ASCII becomes `ß`, and every other character there `€`. -/
def blurred (c : Char) : Char :=
  if c.toNat < 0x80 then c else if Text.isLetter c then 'ß' else '€'

theorem keepsClasses_blurred : KeepsClasses blurred where
  ascii := fun _ hc => if_pos hc
  beyond := fun c hc => by
    rw [blurred, if_neg (Nat.not_lt.mpr hc)]
    split <;> decide
  letter := fun c => by
    unfold blurred
    split
    · rfl
    · split <;> rename_i hletter
      · rw [hletter]
        decide +kernel
      · rw [Bool.not_eq_true] at hletter
        rw [hletter]
        decide +kernel

/-- Among the characters replaced are a digit, a line separator and a letter behind a keyword. -/
theorem scan_map_blurred :
    KeepsClasses blurred
      ∧ scan "classß€class \"ß€\n€\" // ß€\nfunß 1€".toList
        = ⟨(scan "classé²class \"λ\u2028\n√\" // ж…\nfunч 1٣".toList).tokens.map
            fun t => { t with lexeme := t.lexeme.map blurred },
          (scan "classé²class \"λ\u2028\n√\" // ж…\nfunч 1٣".toList).diagnostics⟩ := by
  have hmap : "classé²class \"λ\u2028\n√\" // ж…\nfunч 1٣".toList.map blurred
      = "classß€class \"ß€\n€\" // ß€\nfunß 1€".toList := by decide +kernel
  refine ⟨keepsClasses_blurred, ?_⟩
  rw [← hmap]
  exact scan_map_of_keepsClasses keepsClasses_blurred _

end LoxLexer
