/-
  Items: the consecutive pieces into which a program text is cut. An item is a token, a blank, a
  comment, or a piece that no token can begin with. `cut` takes the first item off a text; it
  loses nothing (`cut_append`) and takes at least one character (`length_cut_lt`), so cutting
  again and again comes to the end of every text (`items`, `flatten_items`).
-/
import LoxLexer.Text.Letter
import LoxLexer.Token.Kind
import LoxLexer.Fault

namespace LoxLexer

/-- What a piece of a program text is. -/
inductive Shape
  | token (kind : TokenKind)
  | blank
  | comment
  | fault (f : Fault)
deriving DecidableEq, Repr

/-- A piece of a program text. -/
structure Item where
  shape : Shape
  text : Text
deriving DecidableEq, Repr

namespace Item

/-! ## Classes of characters -/

/-- The characters between items that mean nothing. -/
def isBlank (c : Char) : Bool := c == ' ' || c == '\t' || c == '\r' || c == '\n'

/-- The characters that may follow the first letter of a word. -/
def isWordChar (c : Char) : Bool := Text.isLetter c || c.isDigit || c == '_'

/-! ## Cutting -/

/-- The item at an operator's first character: the operator together with `=` if both make one,
else the operator alone. -/
def cutOperator (op : Operator) (c : Char) : Text → Item × Text
  | '=' :: rest =>
    match op.withEqual? with
    | some longer => (⟨.token (.operator longer), [c, '=']⟩, rest)
    | none => (⟨.token (.operator op), [c]⟩, '=' :: rest)
  | rest => (⟨.token (.operator op), [c]⟩, rest)

/-- The comment whose first slash has been read: all up to the end of the line. -/
def cutComment (rest : Text) : Item × Text :=
  (⟨.comment, '/' :: rest.takeWhile (· != '\n')⟩, rest.dropWhile (· != '\n'))

/-- The string whose opening quote has been read. Without a closing quote it takes the whole
rest. -/
def cutString (rest : Text) : Item × Text :=
  match rest.dropWhile (· != '"') with
  | [] => (⟨.fault .unterminatedString, '"' :: rest⟩, [])
  | quote :: after =>
    (⟨.token .string, '"' :: rest.takeWhile (· != '"') ++ [quote]⟩, after)

/-- The fraction of a number, if a point with a digit behind it comes next, and what follows. -/
def cutFraction : Text → Text × Text
  | '.' :: d :: rest =>
    if d.isDigit then ('.' :: d :: rest.takeWhile Char.isDigit, rest.dropWhile Char.isDigit)
    else ([], '.' :: d :: rest)
  | rest => ([], rest)

/-- The number whose first digit has been read. -/
def cutNumber (d : Char) (rest : Text) : Item × Text :=
  let fraction := cutFraction (rest.dropWhile Char.isDigit)
  (⟨.token .number, d :: rest.takeWhile Char.isDigit ++ fraction.1⟩, fraction.2)

/-- The word whose first letter has been read. -/
def cutWord (c : Char) (rest : Text) : Item × Text :=
  let word := c :: rest.takeWhile isWordChar
  (⟨.token (.ofWord word), word⟩, rest.dropWhile isWordChar)

/-- The first item of the text `c :: rest`, and what follows it. -/
def cut (c : Char) (rest : Text) : Item × Text :=
  if c = '/' ∧ rest.head? = some '/' then cutComment rest
  else
    match Operator.ofChar? c with
    | some op => cutOperator op c rest
    | none =>
      if isBlank c then (⟨.blank, [c]⟩, rest)
      else if c = '"' then cutString rest
      else if c.isDigit then cutNumber c rest
      else if Text.isLetter c then cutWord c rest
      else (⟨.fault .unexpectedCharacter, [c]⟩, rest)

/-! ## Nothing is lost -/

theorem cutOperator_append (op : Operator) (c : Char) (rest : Text) :
    (cutOperator op c rest).1.text ++ (cutOperator op c rest).2 = c :: rest := by
  unfold cutOperator
  split
  · split <;> rfl
  · rfl

theorem cutComment_append (rest : Text) :
    (cutComment rest).1.text ++ (cutComment rest).2 = '/' :: rest := by
  simp [cutComment]

theorem cutString_append (rest : Text) :
    (cutString rest).1.text ++ (cutString rest).2 = '"' :: rest := by
  unfold cutString
  split
  · simp
  · rename_i quote after h
    simp only [List.cons_append, List.append_assoc, List.cons.injEq, true_and]
    rw [List.nil_append, ← h, List.takeWhile_append_dropWhile]

theorem cutFraction_append (t : Text) : (cutFraction t).1 ++ (cutFraction t).2 = t := by
  unfold cutFraction
  split
  · split <;> simp
  · rfl

theorem cutNumber_append (d : Char) (rest : Text) :
    (cutNumber d rest).1.text ++ (cutNumber d rest).2 = d :: rest := by
  simp only [cutNumber, List.cons_append, List.append_assoc, cutFraction_append,
    List.takeWhile_append_dropWhile]

theorem cutWord_append (c : Char) (rest : Text) :
    (cutWord c rest).1.text ++ (cutWord c rest).2 = c :: rest := by
  simp [cutWord]

theorem cut_append (c : Char) (rest : Text) :
    (cut c rest).1.text ++ (cut c rest).2 = c :: rest := by
  unfold cut
  split
  · rename_i h
    rw [cutComment_append, h.1]
  · split
    · exact cutOperator_append _ c rest
    · split
      · rfl
      · split
        · rename_i h
          rw [cutString_append, h]
        · split
          · exact cutNumber_append c rest
          · split
            · exact cutWord_append c rest
            · rfl

/-! ## Something is taken -/

theorem cut_text_ne_nil (c : Char) (rest : Text) : (cut c rest).1.text ≠ [] := by
  unfold cut cutOperator cutComment cutString cutNumber cutWord
  repeat' split
  all_goals simp

theorem length_cut_lt (c : Char) (rest : Text) : (cut c rest).2.length < (c :: rest).length := by
  have h := congrArg List.length (cut_append c rest)
  have hpos := List.length_pos_iff.mpr (cut_text_ne_nil c rest)
  rw [List.length_append] at h
  omega

/-! ## Faults -/

/-- A character that is not expected stands alone and is no blank. -/
theorem cut_of_unexpected {c : Char} {rest : Text}
    (h : (cut c rest).1.shape = .fault .unexpectedCharacter) :
    cut c rest = (⟨.fault .unexpectedCharacter, [c]⟩, rest) ∧ isBlank c = false := by
  unfold cut cutOperator cutComment cutString cutNumber cutWord at h ⊢
  split at h
  · simp at h
  split at h
  · split at h
    · split at h <;> simp at h
    · simp at h
  split at h
  · simp at h
  split at h
  · split at h <;> simp at h
  split at h
  · simp at h
  split at h
  · simp at h
  · simp_all

theorem newlines_of_unexpected {c : Char} {rest : Text}
    (h : (cut c rest).1.shape = .fault .unexpectedCharacter) :
    Text.newlines (cut c rest).1.text = 0 := by
  obtain ⟨hcut, hblank⟩ := cut_of_unexpected h
  rw [hcut]
  refine Text.newlines_eq_zero fun d hd => ?_
  obtain rfl := List.mem_singleton.mp hd
  rintro rfl
  simp [isBlank] at hblank

/-! ## All items of a text -/

/-- The items of a text, in order. -/
def items : Text → List Item
  | [] => []
  | c :: rest => (cut c rest).1 :: items (cut c rest).2
termination_by t => t.length
decreasing_by exact length_cut_lt c rest

theorem items_nil : items [] = [] := by rw [items]

theorem items_cons (c : Char) (rest : Text) :
    items (c :: rest) = (cut c rest).1 :: items (cut c rest).2 := by rw [items]

/-- The items of a text make up the text. -/
theorem flatten_items (t : Text) : ((items t).map Item.text).flatten = t := by
  fun_induction items t with
  | case1 => rfl
  | case2 c rest ih => rw [List.map_cons, List.flatten_cons, ih, cut_append]

theorem text_ne_nil_of_mem_items {t : Text} {item : Item} (h : item ∈ items t) :
    item.text ≠ [] := by
  fun_induction items t with
  | case1 => simp at h
  | case2 c rest ih =>
    rcases List.mem_cons.mp h with rfl | h
    · exact cut_text_ne_nil c rest
    · exact ih h

end Item

end LoxLexer
