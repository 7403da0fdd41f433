/-
  Settled matches: a match is settled when the text behind it leaves it as it is. Three facts tie
  this to cutting and to longest match. Cutting takes off a settled match whole and nothing behind
  it (`cut_of_settled`); every text begins with a settled match, an open quote or a stray
  character (`first_cases_settled`); and a match that is not settled is not the longest
  (`outgrown_of_not_settled`), so the conditions on the text behind are exactly those under which
  it runs together with the match.
-/
import LoxLexer.Proofs.Cut

namespace LoxLexer.Grammar

open Item

variable {shape : Shape} {text after t : Text}

/-- Whether a text, written directly behind an item, leaves the item as it is. -/
def Settled (shape : Shape) (text after : Text) : Prop :=
  match shape with
  | .token kind => Rendering.MayFollow kind text after
  | .comment => ∀ c ∈ after.head?, c = '\n'
  | .blank | .fault _ => True

/-! ## Words -/

theorem isWord_spelling (k : Keyword) : IsWord k.spelling := by
  cases k <;> exact .intro (by decide) (List.all_eq_true.mp (by decide))

theorem matches_ofWord (h : IsWord t) : Matches (.token (.ofWord t)) t := by
  cases hk : Keyword.ofSpelling? t with
  | some k =>
    obtain rfl := Keyword.ofSpelling?_eq_some_iff.mp hk
    rw [TokenKind.ofWord_eq_keyword_iff.mpr rfl]
    exact .keyword k
  | none =>
    have hi : TokenKind.ofWord t = .identifier := by rw [TokenKind.ofWord, hk]
    rw [hi]
    exact .identifier h (TokenKind.ofWord_eq_identifier_iff.mp hi)

theorem settled_ofWord (h : ∀ c ∈ after.head?, isWordChar c = false) :
    Settled (.token (.ofWord t)) t after := by
  unfold TokenKind.ofWord
  split <;> exact h

theorem isWord_append {s : Text} (ht : IsWord t) (hs : ∀ c ∈ s, isWordChar c = true) :
    IsWord (t ++ s) := by
  obtain ⟨hc, hrest⟩ := ht
  exact .intro hc (List.forall_mem_append.mpr ⟨hrest, hs⟩)

/-! ## Numbers -/

theorem dot_notMem_of_isDigits (h : IsDigits t) : '.' ∉ t := by
  intro hdot
  have hd := h.2 '.' hdot
  revert hd
  decide

theorem isDigits_append {s : Text} (ht : IsDigits t) (hs : ∀ c ∈ s, c.isDigit = true) :
    IsDigits (t ++ s) :=
  ⟨List.append_ne_nil_of_left_ne_nil ht.1 s, List.forall_mem_append.mpr ⟨ht.2, hs⟩⟩

/-! ## Cutting takes off settled matches -/

theorem cut_of_operator_settled {c : Char} {op : Operator} (hop : op.spelling = c :: t)
    (hs : Rendering.MayFollow (.operator op) (c :: t) after) :
    cut c (t ++ after) = (⟨.token (.operator op), c :: t⟩, after) := by
  obtain ⟨hequal, hslash⟩ := hs
  cases t with
  | nil =>
    have hc := Operator.ofChar?_eq_some_iff.mpr hop
    have hcomment : c = '/' → after.head? ≠ some '/' := by
      rintro rfl
      exact hslash (Option.some.inj hc).symm
    rw [List.nil_append, cut_of_operator hc hcomment, cutOperator_alone hequal]
  | cons e t =>
    -- the two-character operators are those that arise from a shorter one
    obtain ⟨short, hshort, hlong, rfl, rfl⟩ : ∃ short, Operator.ofChar? c = some short
        ∧ short.withEqual? = some op ∧ e = '=' ∧ t = [] := by
      cases op <;>
        simp only [Operator.spelling, List.cons.injEq, reduceCtorEq, and_false] at hop <;>
        obtain ⟨rfl, rfl, rfl⟩ := hop <;> exact ⟨_, rfl, rfl, rfl, rfl⟩
    rw [List.cons_append, List.nil_append, cut_of_operator hshort (by simp),
      cutOperator_withEqual hlong]

theorem cut_of_number_settled {c : Char} (hn : IsNumber (c :: t))
    (hs : Rendering.MayFollow .number (c :: t) after) :
    cut c (t ++ after) = (⟨.token .number, c :: t⟩, after) := by
  obtain ⟨hdigit, hdot⟩ := hs
  generalize htext : c :: t = text at hn
  cases hn with
  | whole h =>
    subst htext
    have hc : c.isDigit = true := h.2 c List.mem_cons_self
    rw [cut_of_digit hc]
    exact cutNumber_whole (fun d hd => h.2 d (List.mem_cons_of_mem c hd)) hdigit
      (hdot (dot_notMem_of_isDigits h))
  | @decimal u v hu hv =>
    obtain ⟨d, u, rfl⟩ := List.exists_cons_of_ne_nil hu.1
    obtain ⟨rfl, rfl⟩ := List.cons.inj htext
    have hc : c.isDigit = true := hu.2 c List.mem_cons_self
    rw [cut_of_digit hc]
    exact cutNumber_decimal (fun d hd => hu.2 d (List.mem_cons_of_mem c hd)) hv hdigit

theorem cut_of_word_settled {c : Char} (hw : IsWord (c :: t))
    (hs : ∀ d ∈ after.head?, isWordChar d = false) :
    cut c (t ++ after) = (⟨.token (.ofWord (c :: t)), c :: t⟩, after) := by
  cases hw with
  | intro hc ht => rw [cut_of_letter hc, cutWord_run ht hs]

/-- Cutting takes off a settled match whole, and nothing behind it. -/
theorem cut_of_settled {c : Char} (hm : Matches shape (c :: t))
    (hs : Settled shape (c :: t) after) : cut c (t ++ after) = (⟨shape, c :: t⟩, after) := by
  generalize htext : c :: t = text at hm
  cases hm with
  | operator op =>
    rw [← htext]
    exact cut_of_operator_settled htext.symm hs
  | number h =>
    subst htext
    exact cut_of_number_settled h hs
  | keyword k =>
    have hword : TokenKind.ofWord (c :: t) = .keyword k :=
      TokenKind.ofWord_eq_keyword_iff.mpr htext.symm
    rw [cut_of_word_settled (htext ▸ isWord_spelling k) hs, hword, htext]
  | identifier h hk =>
    subst htext
    rw [cut_of_word_settled h hs, TokenKind.ofWord_eq_identifier_iff.mpr hk]
  | string h =>
    obtain @⟨u, hquote⟩ := h
    obtain rfl : c = '"' := (List.cons.inj htext).1
    obtain rfl : t = u ++ ['"'] := (List.cons.inj htext).2
    rw [cut_of_quote, List.append_assoc]
    exact cutString_closed hquote
  | comment h =>
    obtain ⟨hline⟩ := h
    obtain ⟨rfl, rfl⟩ := List.cons.inj htext
    rw [List.cons_append, cut_of_comment]
    exact cutComment_run hline hs
  | blank h =>
    obtain ⟨rfl, rfl⟩ := List.cons.inj htext
    exact cut_of_blank h after

/-! ## What a text begins with -/

theorem settled_of_withEqual? {op longer : Operator} (h : op.withEqual? = some longer) :
    Settled (.token (.operator longer)) text after := by
  cases op <;> simp only [Operator.withEqual?, Option.some.injEq, reduceCtorEq] at h <;> subst h <;>
    simp [Settled, Rendering.MayFollow, Operator.withEqual?]

theorem settled_of_operator {c : Char} {rest : Text} {op : Operator}
    (h : Operator.ofChar? c = some op) :
    ∃ shape text after, c :: rest = text ++ after ∧ Matches shape text
      ∧ Settled shape text after := by
  have hspelling := Operator.ofChar?_eq_some_iff.mp h
  by_cases hcomment : op = .slash ∧ rest.head? = some '/'
  · obtain ⟨rfl, hhead⟩ := hcomment
    obtain ⟨more, rfl⟩ := List.head?_eq_some_iff.mp hhead
    obtain ⟨line, after, rfl, hline, hafter⟩ := Text.exists_run (· != '\n') more
    obtain rfl : '/' = c := (List.cons.inj hspelling).1
    refine ⟨.comment, '/' :: '/' :: line, after, rfl, .comment (.intro fun hmem => ?_), ?_⟩
    · simpa using hline _ hmem
    · intro d hd
      simpa using hafter d hd
  by_cases hequal : op.withEqual? ≠ none ∧ rest.head? = some '='
  · obtain ⟨hlonger, hhead⟩ := hequal
    obtain ⟨longer, hlonger⟩ := Option.ne_none_iff_exists'.mp hlonger
    obtain ⟨more, rfl⟩ := List.head?_eq_some_iff.mp hhead
    have hs := Operator.spelling_withEqual? hlonger
    rw [hspelling] at hs
    exact ⟨_, _, more, by rw [hs]; rfl, .operator longer, settled_of_withEqual? hlonger⟩
  · refine ⟨_, _, rest, by rw [hspelling]; rfl, .operator op, ?_, ?_⟩
    · exact fun hw hhead => hequal ⟨hw, hhead⟩
    · exact fun hop hhead => hcomment ⟨hop, hhead⟩

theorem settled_of_digit {c : Char} (rest : Text) (h : c.isDigit = true) :
    ∃ text after, c :: rest = text ++ after ∧ IsNumber text
      ∧ Settled (.token .number) text after := by
  obtain ⟨s, more, rfl, hs, hmore⟩ := Text.exists_run Char.isDigit rest
  have hdigits : IsDigits (c :: s) := isDigits_append ⟨List.cons_ne_nil c [], by simpa using h⟩ hs
  by_cases hpoint : ∃ d r, more = '.' :: d :: r ∧ d.isDigit = true
  · obtain ⟨d, r, rfl, hd⟩ := hpoint
    obtain ⟨u, after, rfl, hu, hafter⟩ := Text.exists_run Char.isDigit r
    have hfraction : IsDigits (d :: u) :=
      isDigits_append ⟨List.cons_ne_nil d [], by simpa using hd⟩ hu
    refine ⟨(c :: s) ++ '.' :: (d :: u), after, by simp, .decimal hdigits hfraction, hafter, ?_⟩
    exact fun hdot => absurd (by simp) hdot
  · refine ⟨c :: s, more, rfl, .whole hdigits, hmore, fun _ d r hmore => ?_⟩
    rw [Bool.eq_false_iff]
    exact fun hd => hpoint ⟨d, r, hmore, hd⟩

/-- What a text begins with: a settled match, a quote that nothing closes, or a stray character. -/
theorem first_cases_settled (c : Char) (rest : Text) :
    (∃ shape text after, c :: rest = text ++ after ∧ Matches shape text ∧ Settled shape text after)
      ∨ (c = '"' ∧ '"' ∉ rest) ∨ IsStray c := by
  rcases first_cases c with ⟨op, h⟩ | h | rfl | h | h | h
  · exact Or.inl (settled_of_operator h)
  · exact Or.inl ⟨.blank, [c], rest, rfl, .blank h, trivial⟩
  · by_cases hclosed : '"' ∈ rest
    · obtain ⟨s, after, rfl, hs⟩ := List.eq_append_cons_of_mem hclosed
      exact Or.inl ⟨_, '"' :: s ++ ['"'], after, by simp, .string (.intro hs), trivial⟩
    · exact Or.inr (Or.inl ⟨rfl, hclosed⟩)
  · obtain ⟨text, after, heq, hn, hs⟩ := settled_of_digit rest h
    exact Or.inl ⟨_, text, after, heq, .number hn, hs⟩
  · obtain ⟨s, after, rfl, hs, hafter⟩ := Text.exists_run isWordChar rest
    exact Or.inl ⟨_, c :: s, after, rfl, matches_ofWord (.intro h hs), settled_ofWord hafter⟩
  · exact Or.inr (Or.inr h)

/-! ## Matches that are not settled -/

/-- A longer match begins where the first one does. -/
def Outgrown (text after : Text) : Prop :=
  ∃ shape' text', Matches shape' text' ∧ text' <+: text ++ after ∧ text.length < text'.length

theorem outgrown_of_append {s : Text} (hm : Matches shape (text ++ s)) (hs : s ≠ [])
    (hp : s <+: after) : Outgrown text after := by
  refine ⟨shape, text ++ s, hm, (List.prefix_append_right_inj text).mpr hp, ?_⟩
  have hpos := List.length_pos_iff.mpr hs
  rw [List.length_append]
  omega

/-- The next character makes a match longer if both together are a match. -/
theorem outgrown_of_head? {c : Char} (hm : Matches shape (text ++ [c])) (hc : c ∈ after.head?) :
    Outgrown text after := by
  obtain ⟨more, rfl⟩ := List.head?_eq_some_iff.mp hc
  exact outgrown_of_append hm (List.cons_ne_nil c []) ⟨more, rfl⟩

theorem outgrown_of_operator {op : Operator}
    (hs : ¬ Rendering.MayFollow (.operator op) op.spelling after) : Outgrown op.spelling after := by
  simp only [Rendering.MayFollow, Classical.not_and_iff_not_or_not, Classical.not_imp,
    ne_eq, Decidable.not_not] at hs
  rcases hs with ⟨hequal, hhead⟩ | ⟨rfl, hhead⟩
  · obtain ⟨longer, hlonger⟩ := Option.ne_none_iff_exists'.mp hequal
    have hm : Matches (.token (.operator longer)) (op.spelling ++ ['=']) :=
      Operator.spelling_withEqual? hlonger ▸ .operator longer
    exact outgrown_of_head? hm hhead
  · have hm : Matches .comment (Operator.slash.spelling ++ ['/']) := .comment (.intro (by simp))
    exact outgrown_of_head? hm hhead

theorem isNumber_append {c : Char} (hn : IsNumber t) (hc : c.isDigit = true) :
    IsNumber (t ++ [c]) := by
  have hlast : ∀ d ∈ [c], d.isDigit = true := by simpa using hc
  cases hn with
  | whole h => exact .whole (isDigits_append h hlast)
  | decimal hu hv =>
    rw [List.append_assoc, List.cons_append]
    exact .decimal hu (isDigits_append hv hlast)

theorem outgrown_of_number (hn : IsNumber text)
    (hs : ¬ Rendering.MayFollow .number text after) : Outgrown text after := by
  by_cases hdigit : ∀ c ∈ after.head?, c.isDigit = false
  · have hpoint : ¬ ('.' ∉ text → ∀ d rest, after = '.' :: d :: rest → d.isDigit = false) :=
      fun hpoint => hs ⟨hdigit, hpoint⟩
    simp only [Classical.not_imp, Classical.not_forall, Bool.not_eq_false] at hpoint
    obtain ⟨hdot, d, rest, rfl, hd⟩ := hpoint
    cases hn with
    | whole h =>
      have hlast : IsDigits [d] := ⟨List.cons_ne_nil d [], by simpa using hd⟩
      exact outgrown_of_append (.number (.decimal h hlast)) (List.cons_ne_nil _ _) ⟨rest, rfl⟩
    | decimal hu hv => simp at hdot
  · simp only [Classical.not_forall, Bool.not_eq_false] at hdigit
    obtain ⟨c, hc, hd⟩ := hdigit
    exact outgrown_of_head? (.number (isNumber_append hn hd)) hc

theorem outgrown_of_word (hw : IsWord text)
    (hs : ¬ ∀ c ∈ after.head?, isWordChar c = false) : Outgrown text after := by
  simp only [Classical.not_forall, Bool.not_eq_false] at hs
  obtain ⟨c, hc, hchar⟩ := hs
  have hlonger : IsWord (text ++ [c]) := isWord_append hw (by simpa using hchar)
  exact outgrown_of_head? (matches_ofWord hlonger) hc

theorem outgrown_of_comment (h : IsComment text)
    (hs : ¬ ∀ c ∈ after.head?, c = '\n') : Outgrown text after := by
  simp only [Classical.not_forall] at hs
  obtain ⟨c, hc, hne⟩ := hs
  obtain @⟨line, hline⟩ := h
  have hlonger : Matches .comment (('/' :: '/' :: line) ++ [c]) :=
    .comment (.intro (by simp [hline, Ne.symm hne]))
  exact outgrown_of_head? hlonger hc

/-- The text behind a match that is not settled makes it longer. -/
theorem outgrown_of_not_settled (hm : Matches shape text) (hs : ¬ Settled shape text after) :
    Outgrown text after := by
  cases hm with
  | operator op => exact outgrown_of_operator hs
  | number h => exact outgrown_of_number h hs
  | keyword k => exact outgrown_of_word (isWord_spelling k) hs
  | identifier h _ => exact outgrown_of_word h hs
  | string _ => exact absurd trivial hs
  | comment h => exact outgrown_of_comment h hs
  | blank _ => exact absurd trivial hs

end LoxLexer.Grammar
