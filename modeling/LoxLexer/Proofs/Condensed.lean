/-
  Condensing a program text does not change its scan. What condensing is, is said without a pass
  over the characters by `Condenses`: strings stay, a comment is left out up to the end of its line,
  a longest run of gap characters becomes one space; every text is condensed in one way
  (`condenses_iff`). Tokens are kept as they are (`condenseFrom_token`), and what is left of the
  text behind a token begins as it did, or with a blank (`looksLike_condense`), so no two neighbours
  become one. Hence the items of a text and of its condensed form correspond
  (`corresponds_condense`), and their scans are the same (`scan_condense`).
-/
import LoxLexer.Condensed
import LoxLexer.Proofs.Alike
import LoxLexer.Proofs.Listed

namespace LoxLexer.Condensed

/-- The second text is the first in condensed form. -/
inductive Condenses : Text → Text → Prop
  | nil : Condenses [] []
  | string {body rest out : Text} (h : '"' ∉ body) (hr : Condenses rest out) :
      Condenses ('"' :: body ++ '"' :: rest) ('"' :: body ++ '"' :: out)
  | unclosed {body : Text} (h : '"' ∉ body) : Condenses ('"' :: body) ('"' :: body)
  | comment {line rest out : Text} (h : '\n' ∉ line) (hend : ∀ c ∈ rest.head?, c = '\n')
      (hr : Condenses rest out) : Condenses ('/' :: '/' :: line ++ rest) out
  | gap {run rest out : Text} (hne : run ≠ []) (h : ∀ c ∈ run, isGapChar c = true)
      (hend : ∀ c ∈ rest.head?, isGapChar c = false) (hr : Condenses rest out) :
      Condenses (run ++ rest) (' ' :: out)
  | other {c : Char} {rest out : Text} (hquote : c ≠ '"') (hgap : isGapChar c = false)
      (hslash : c = '/' → rest.head? ≠ some '/') (hr : Condenses rest out) :
      Condenses (c :: rest) (c :: out)

/-! ## One character -/

/-- Whether a region is outside strings and comments. -/
def Region.IsCode (region : Region) : Prop := region = .code ∨ region = .gap

theorem isCode_code : Region.code.IsCode := Or.inl rfl

theorem isCode_gap : Region.gap.IsCode := Or.inr rfl

variable {region : Region} {c : Char} {body line run rest : Text}

theorem condenseFrom_nil (region : Region) : condenseFrom region [] = [] := by
  cases region <;> rfl

theorem condenseFrom_cons (hr : region.IsCode) (c : Char) (rest : Text) :
    condenseFrom region (c :: rest)
      = if c = '"' then '"' :: condenseFrom .string rest
        else if c = '/' ∧ rest.head? = some '/' then condenseFrom .comment rest
        else if isGapChar c then
          (if region = .gap then [] else [' ']) ++ condenseFrom .gap rest
        else c :: condenseFrom .code rest := by
  rcases hr with rfl | rfl <;> rfl

theorem condenseFrom_quote (hr : region.IsCode) (rest : Text) :
    condenseFrom region ('"' :: rest) = '"' :: condenseFrom .string rest := by
  rw [condenseFrom_cons hr, if_pos rfl]

theorem condenseFrom_slashes (hr : region.IsCode) (rest : Text) :
    condenseFrom region ('/' :: '/' :: rest) = condenseFrom .comment ('/' :: rest) := by
  rw [condenseFrom_cons hr, if_neg (by decide), if_pos ⟨rfl, rfl⟩]

theorem ne_of_isGapChar (h : isGapChar c = true) : c ≠ '"' ∧ c ≠ '/' := by
  constructor <;> rintro rfl <;> cases h

theorem condenseFrom_gapChar (hr : region.IsCode) (hc : isGapChar c = true) (rest : Text) :
    condenseFrom region (c :: rest)
      = (if region = .gap then [] else [' ']) ++ condenseFrom .gap rest := by
  obtain ⟨hquote, hslash⟩ := ne_of_isGapChar hc
  rw [condenseFrom_cons hr, if_neg hquote, if_neg (fun h => hslash h.1), if_pos hc]

theorem condenseFrom_other (hr : region.IsCode) (hquote : c ≠ '"') (hgap : isGapChar c = false)
    (hslash : c = '/' → rest.head? ≠ some '/') :
    condenseFrom region (c :: rest) = c :: condenseFrom .code rest := by
  rw [condenseFrom_cons hr, if_neg hquote, if_neg (fun h => hslash h.1 h.2), hgap]
  rfl

/-! ## Stretches of text -/

theorem condenseFrom_string_append (h : '"' ∉ body) (rest : Text) :
    condenseFrom .string (body ++ '"' :: rest) = body ++ '"' :: condenseFrom .code rest := by
  induction body with
  | nil => rfl
  | cons c body ih =>
    rw [List.mem_cons, not_or] at h
    rw [List.cons_append, condenseFrom, if_neg (Ne.symm h.1), ih h.2, List.cons_append]

theorem condenseFrom_string_unclosed (h : '"' ∉ body) : condenseFrom .string body = body := by
  induction body with
  | nil => rfl
  | cons c body ih =>
    rw [List.mem_cons, not_or] at h
    rw [condenseFrom, if_neg (Ne.symm h.1), ih h.2]

theorem condenseFrom_comment_append (h : '\n' ∉ line) (hend : ∀ c ∈ rest.head?, c = '\n') :
    condenseFrom .comment (line ++ rest) = condenseFrom .code rest := by
  induction line with
  | nil =>
    cases rest with
    | nil => rfl
    | cons c rest =>
      obtain rfl : c = '\n' := hend c rfl
      rfl
  | cons c line ih =>
    rw [List.mem_cons, not_or] at h
    rw [List.cons_append, condenseFrom, if_neg (Ne.symm h.1), ih h.2]

theorem condenseFrom_gap_append (h : ∀ c ∈ run, isGapChar c = true) (rest : Text) :
    condenseFrom .gap (run ++ rest) = condenseFrom .gap rest := by
  induction run with
  | nil => rfl
  | cons c run ih =>
    obtain ⟨hc, hrun⟩ := List.forall_mem_cons.mp h
    rw [List.cons_append, condenseFrom_gapChar isCode_gap hc, if_pos rfl, ih hrun]
    rfl

/-- Where no gap goes on, it makes no difference that one stands before. -/
theorem condenseFrom_gap_eq (h : ∀ c ∈ rest.head?, isGapChar c = false) :
    condenseFrom .gap rest = condenseFrom .code rest := by
  cases rest with
  | nil => rfl
  | cons c rest =>
    rw [condenseFrom_cons isCode_gap, condenseFrom_cons isCode_code]
    simp only [h c rfl, Bool.false_eq_true, if_false]

/-- Outside strings and comments, characters that are no gap stay. -/
theorem condenseFrom_plain (hr : region.IsCode) (hne : body ≠ [])
    (h : ∀ c ∈ body, c ≠ '"' ∧ isGapChar c = false ∧ c ≠ '/') (rest : Text) :
    condenseFrom region (body ++ rest) = body ++ condenseFrom .code rest := by
  induction body generalizing region with
  | nil => exact absurd rfl hne
  | cons c body ih =>
    obtain ⟨⟨hquote, hgap, hslash⟩, hbody⟩ := List.forall_mem_cons.mp h
    rw [List.cons_append, condenseFrom_other hr hquote hgap (fun he => absurd he hslash)]
    by_cases hempty : body = []
    · rw [hempty]
      rfl
    · rw [ih isCode_code hempty hbody, List.cons_append]

/-! ## One condensed form -/

theorem eq_condense_of_condenses {s t : Text} (h : Condenses s t) : t = condense s := by
  unfold condense
  induction h with
  | nil => rfl
  | string h _ ih =>
    rw [List.cons_append, List.cons_append, condenseFrom_quote isCode_code,
      condenseFrom_string_append h, ← ih]
  | unclosed h => rw [condenseFrom_quote isCode_code, condenseFrom_string_unclosed h]
  | @comment line rest out h hend _ ih =>
    have hline : '\n' ∉ '/' :: line := by simp [h]
    rw [List.cons_append, List.cons_append, condenseFrom_slashes isCode_code, ← List.cons_append,
      condenseFrom_comment_append hline hend, ih]
  | @gap run rest out hne h hend _ ih =>
    obtain ⟨c, run, rfl⟩ := List.exists_cons_of_ne_nil hne
    obtain ⟨hc, hrun⟩ := List.forall_mem_cons.mp h
    rw [List.cons_append, condenseFrom_gapChar isCode_code hc, condenseFrom_gap_append hrun,
      condenseFrom_gap_eq hend, ← ih]
    rfl
  | other hquote hgap hslash _ ih => rw [condenseFrom_other isCode_code hquote hgap hslash, ih]

/-- Every text has a condensed form. -/
theorem exists_condenses (s : Text) : ∃ t, Condenses s t := by
  induction hn : s.length using Nat.strongRecOn generalizing s with
  | ind n ih =>
    subst hn
    cases s with
    | nil => exact ⟨[], .nil⟩
    | cons c rest =>
      have shorter : ∀ {u v : Text}, rest = u ++ v → ∃ t, Condenses v t := by
        intro u v heq
        refine ih v.length ?_ v rfl
        rw [heq, List.length_cons, List.length_append]
        omega
      by_cases hquote : c = '"'
      · subst hquote
        by_cases hclosed : '"' ∈ rest
        · obtain ⟨body, after, rfl, hbody⟩ := List.eq_append_cons_of_mem hclosed
          obtain ⟨t, ht⟩ := shorter (List.append_cons body '"' after)
          exact ⟨_, .string hbody ht⟩
        · exact ⟨_, .unclosed hclosed⟩
      by_cases hslash : c = '/' ∧ rest.head? = some '/'
      · obtain ⟨rfl, hhead⟩ := hslash
        obtain ⟨more, rfl⟩ := List.head?_eq_some_iff.mp hhead
        obtain ⟨line, after, rfl, hline, hafter⟩ := Text.exists_run (· != '\n') more
        obtain ⟨t, ht⟩ := shorter (List.cons_append (a := '/')).symm
        refine ⟨t, .comment (fun hmem => ?_) (fun d hd => ?_) ht⟩
        · simpa using hline _ hmem
        · simpa using hafter d hd
      by_cases hgap : isGapChar c = true
      · obtain ⟨run, after, rfl, hrun, hafter⟩ := Text.exists_run isGapChar rest
        obtain ⟨t, ht⟩ := shorter rfl
        exact ⟨_, .gap (List.cons_ne_nil c run) (List.forall_mem_cons.mpr ⟨hgap, hrun⟩) hafter ht⟩
      · obtain ⟨t, ht⟩ := shorter (List.nil_append rest).symm
        exact ⟨_, .other hquote (Bool.eq_false_iff.mpr hgap) (fun h hhead => hslash ⟨h, hhead⟩) ht⟩

/-- Every text is condensed in one way. -/
theorem condenses_iff {s t : Text} : Condenses s t ↔ t = condense s := by
  refine ⟨eq_condense_of_condenses, ?_⟩
  rintro rfl
  obtain ⟨t, ht⟩ := exists_condenses s
  rwa [← eq_condense_of_condenses ht]

/-! ## Items of condensed texts -/

section

variable {kind : TokenKind} {text after : Text}

open Grammar (Matches Settled)

theorem isBlank_of_isGapChar (h : isGapChar c = true) : Item.isBlank c = true := by
  unfold isGapChar at h
  rw [Item.isBlank, h, Bool.true_or]

theorem isGapChar_of_not_isBlank (h : Item.isBlank c = false) : isGapChar c = false := by
  rw [Bool.eq_false_iff]
  intro hgap
  rw [isBlank_of_isGapChar hgap] at h
  cases h

theorem newlines_of_isGapChar (h : isGapChar c = true) : Text.newlines [c] = 0 := by
  refine Text.newlines_eq_zero fun d hd => ?_
  rw [List.mem_singleton.mp hd]
  rintro rfl
  cases h

theorem newlines_of_isComment (h : Grammar.IsComment text) : Text.newlines text = 0 := by
  obtain @⟨line, hline⟩ := h
  refine Text.newlines_eq_zero fun c hc => ?_
  rintro rfl
  exact hline (by simpa using hc)

/-- Outside strings, no token but the slash holds slashes. -/
theorem slash_notMem_of_matches (hm : Matches (.token kind) text) (hstring : kind ≠ .string)
    (hslash : kind ≠ .operator .slash) : '/' ∉ text := by
  intro hmem
  rcases Grammar.characters_of_matches hm hstring _ hmem with hword | hpoint | ⟨op, rfl, hop⟩
  · exact absurd hword (by decide)
  · exact absurd hpoint (by decide)
  · revert hop hslash
    cases op <;> decide

/-- A token that stands in a text is in its condensed form too, and code follows it. -/
theorem condenseFrom_token (hr : region.IsCode) (hm : Matches (.token kind) text)
    (hs : Settled (.token kind) text after) :
    condenseFrom region (text ++ after) = text ++ condenseFrom .code after := by
  by_cases hstring : kind = .string
  · subst hstring
    obtain @⟨body, hbody⟩ := Grammar.isString_of_matches hm
    rw [List.append_assoc, List.cons_append, condenseFrom_quote hr, List.singleton_append,
      condenseFrom_string_append hbody, List.append_assoc]
    rfl
  by_cases hslash : kind = .operator .slash
  · subst hslash
    cases hm with
    | operator op => exact condenseFrom_other hr (by decide) (by decide) fun _ => hs.2 rfl
  · have hbare := Grammar.isBare_of_matches hm hstring
    have hnone := slash_notMem_of_matches hm hstring hslash
    refine condenseFrom_plain hr (Grammar.ne_nil_of_matches hm) (fun c hc => ?_) after
    exact ⟨(hbare c hc).1, isGapChar_of_not_isBlank (hbare c hc).2, fun he => hnone (he ▸ hc)⟩

theorem condenseFrom_of_isComment (hr : region.IsCode) (h : Grammar.IsComment text)
    (hend : ∀ c ∈ after.head?, c = '\n') :
    condenseFrom region (text ++ after) = condenseFrom .code after := by
  obtain @⟨line, hline⟩ := h
  have hslash : '\n' ∉ '/' :: line := by simp [hline]
  rw [List.cons_append, List.cons_append, condenseFrom_slashes hr, ← List.cons_append,
    condenseFrom_comment_append hslash hend]

/-- A blank stays as it is, or becomes a space or nothing. -/
theorem corresponds_blank (hr : region.IsCode) (hc : Item.isBlank c = true)
    (ih : ∀ {region : Region}, region.IsCode →
      Item.Corresponds id (Item.items after) (Item.items (condenseFrom region after))) :
    Item.Corresponds id (⟨.blank, [c]⟩ :: Item.items after)
      (Item.items (condenseFrom region ([c] ++ after))) := by
  rw [List.singleton_append]
  by_cases hgap : isGapChar c = true
  · have hline := newlines_of_isGapChar hgap
    rw [condenseFrom_gapChar hr hgap]
    by_cases hregion : region = .gap
    · rw [if_pos hregion]
      exact .dropped (Or.inl rfl) hline (ih isCode_gap)
    · rw [if_neg hregion, List.singleton_append, Rendering.items_of_blank (by decide)]
      exact .kept ⟨rfl, hline.symm, fun ⟨_, hx⟩ => nomatch hx⟩ (ih isCode_gap)
  · obtain ⟨_, hquote, _, _⟩ := Item.classes_of_isBlank hc
    have hslash : c = '/' → after.head? ≠ some '/' :=
      fun he => absurd he (Item.ne_slash_of_ofChar?_eq_none (Item.classes_of_isBlank hc).1)
    rw [condenseFrom_other hr hquote (Bool.eq_false_iff.mpr hgap) hslash,
      Rendering.items_of_blank hc]
    exact .kept (Item.like_self fun _ => rfl) (ih isCode_code)

theorem beginsBlank_condenseFrom_comment (t : Text) :
    (condenseFrom .comment t).BeginsBlank := by
  induction t with
  | nil => exact Text.beginsBlank_nil
  | cons c t ih =>
    by_cases hc : c = '\n'
    · rw [condenseFrom, if_pos hc]
      exact Text.beginsBlank_cons (by decide) _
    · rw [condenseFrom, if_neg hc]
      exact ih

/-- A condensed text begins with a blank or not at all, or as it did. -/
theorem condenseFrom_cons_cases (c : Char) (rest : Text) :
    (condenseFrom .code (c :: rest)).BeginsBlank
      ∨ ∃ next : Region, (next = .code ∨ next = .string)
        ∧ condenseFrom .code (c :: rest) = c :: condenseFrom next rest := by
  by_cases hquote : c = '"'
  · subst hquote
    exact Or.inr ⟨.string, Or.inr rfl, condenseFrom_quote isCode_code rest⟩
  by_cases hslash : c = '/' ∧ rest.head? = some '/'
  · obtain ⟨rfl, hhead⟩ := hslash
    obtain ⟨more, rfl⟩ := List.head?_eq_some_iff.mp hhead
    rw [condenseFrom_slashes isCode_code]
    exact Or.inl (beginsBlank_condenseFrom_comment _)
  by_cases hgap : isGapChar c = true
  · rw [condenseFrom_gapChar isCode_code hgap]
    exact Or.inl (Text.beginsBlank_cons (by decide) _)
  · exact Or.inr ⟨.code, Or.inl rfl, condenseFrom_other isCode_code hquote
      (Bool.eq_false_iff.mpr hgap) fun h hhead => hslash ⟨h, hhead⟩⟩

theorem nextLike_condense {next : Region} (h : next = .code ∨ next = .string) (t : Text) :
    Text.NextLike t (condenseFrom next t) := by
  cases t with
  | nil =>
    rw [condenseFrom_nil]
    exact Or.inl Text.beginsBlank_nil
  | cons c rest =>
    rcases h with rfl | rfl
    · refine (condenseFrom_cons_cases c rest).imp_right ?_
      rintro ⟨next, _, heq⟩
      rw [heq]
      rfl
    · exact Or.inr rfl

theorem looksLike_condense (t : Text) : Text.LooksLike t (condenseFrom .code t) := by
  cases t with
  | nil => exact .blank Text.beginsBlank_nil
  | cons c rest =>
    rcases condenseFrom_cons_cases c rest with hblank | ⟨next, hnext, heq⟩
    · exact .blank hblank
    · rw [heq]
      exact .cons c (nextLike_condense hnext rest)

/-- The items of a text correspond to those of its condensed form. -/
theorem corresponds_condense (hr : region.IsCode) (t : Text) :
    Item.Corresponds id (Item.items t) (Item.items (condenseFrom region t)) := by
  induction t using Grammar.text_induction generalizing region with
  | nil =>
    rw [condenseFrom_nil, Item.items_nil]
    exact .nil
  | @settled shape text after hm hs ih =>
    rw [Rendering.items_of_settled hm hs]
    cases shape with
    | token kind =>
      have hs' := Grammar.settled_of_looksLike hs (looksLike_condense after) id
      rw [condenseFrom_token hr hm hs, Rendering.items_of_settled hm hs']
      exact .kept (Item.like_self fun _ => rfl) (ih isCode_code)
    | comment =>
      cases hm with
      | comment h =>
        rw [condenseFrom_of_isComment hr h hs]
        exact .dropped (Or.inr rfl) (newlines_of_isComment h) (ih isCode_code)
    | blank =>
      cases hm with
      | @blank c hc => exact corresponds_blank hr hc ih
    | fault f => cases hm
  | @unclosed rest hopen =>
    rw [condenseFrom_quote hr, condenseFrom_string_unclosed hopen,
      Grammar.items_of_unclosed hopen]
    exact .kept (Item.like_self fun _ => rfl) .nil
  | @stray c rest hstray ih =>
    have hslash : c = '/' → rest.head? ≠ some '/' :=
      fun he => absurd he (Item.ne_slash_of_ofChar?_eq_none hstray.1)
    rw [condenseFrom_other hr hstray.2.2.1 (isGapChar_of_not_isBlank hstray.2.1) hslash,
      Grammar.items_of_stray hstray, Grammar.items_of_stray hstray]
    exact .kept (Item.like_self fun _ => rfl) (ih isCode_code)

end

/-- A text has one condensed form, in which strings are as they were, comments are left out and
each longest run of spaces, tabs and carriage returns is one space; and its scan is that of the
text: the same tokens, each with its text and its line, and the same diagnostics. -/
theorem scan_condense (source : Text) :
    (∀ t, Condenses source t ↔ t = condense source) ∧ scan (condense source) = scan source := by
  have hscan := scan_of_corresponds rfl (corresponds_condense isCode_code source)
  have htokens : (scan source).tokens.map (Token.respelled id) = (scan source).tokens :=
    List.map_id _
  rw [htokens] at hscan
  exact ⟨fun _ => condenses_iff, hscan⟩

/-- Slashes and blanks in a string stay; a comment leaves two divisions apart, and a quote in it
begins no string. -/
example : condense "/ \t/ //\" \n\"//  \" 1\r".toList = "/ / \n\"//  \" 1 ".toList := by decide

end LoxLexer.Condensed
