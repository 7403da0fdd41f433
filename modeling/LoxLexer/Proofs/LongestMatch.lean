/-
  Cutting is longest match. A longest match is settled, for otherwise the text behind it would
  make it longer; so cutting takes off exactly what stands first in a text (`first_iff`), and the
  items of a text are the only list of items that the grammar allows for it (`itemised_iff`).
  With `scan_eq_ofItems` a scan is then read off the one itemisation of its text
  (`scan_longest_match`).
-/
import LoxLexer.Proofs.Settled
import LoxLexer.Scan.Items

namespace LoxLexer

namespace Grammar

open Item

variable {shape : Shape} {text t : Text}

/-! ## Longest matches -/

/-- Among the matches at the beginning of a text is a longest one. -/
theorem exists_longest (hm : Matches shape text) (hb : text <+: t) :
    ∃ shape' text', Matches shape' text' ∧ text' <+: t
      ∧ ∀ shape'' text'', Matches shape'' text'' → text'' <+: t → text''.length ≤ text'.length := by
  -- on what a match leaves of the text
  induction hn : t.length - text.length using Nat.strongRecOn generalizing shape text with
  | ind n ih =>
    subst hn
    by_cases hl : ∀ shape' text', Matches shape' text' → text' <+: t → text'.length ≤ text.length
    · exact ⟨shape, text, hm, hb, hl⟩
    · simp only [Classical.not_forall, Nat.not_le] at hl
      obtain ⟨shape', text', hm', hb', hlt⟩ := hl
      have hle := hb'.length_le
      exact ih _ (by omega) hm' hb' rfl

theorem settled_of_longest {after : Text} (hm : Matches shape text)
    (hl : ∀ shape' text', Matches shape' text' → text' <+: text ++ after →
      text'.length ≤ text.length) : Settled shape text after := by
  apply Classical.byContradiction
  intro hs
  obtain ⟨shape', text', hm', hb', hlt⟩ := outgrown_of_not_settled hm hs
  exact Nat.not_le.mpr hlt (hl shape' text' hm' hb')

/-- Cutting takes off a longest match. -/
theorem cut_of_longest {c : Char} {rest : Text} (hm : Matches shape text) (hb : text <+: c :: rest)
    (hl : ∀ shape' text', Matches shape' text' → text' <+: c :: rest →
      text'.length ≤ text.length) : (cut c rest).1 = ⟨shape, text⟩ := by
  obtain ⟨after, heq⟩ := hb
  have hs : Settled shape text after := settled_of_longest hm (heq ▸ hl)
  obtain ⟨d, text, rfl⟩ := List.exists_cons_of_ne_nil (ne_nil_of_matches hm)
  obtain ⟨rfl, rfl⟩ := List.cons.inj heq
  rw [List.append_eq, cut_of_settled hm hs]

theorem shape_ne_fault_of_matches (hm : Matches shape text) (f : Fault) : shape ≠ .fault f := by
  cases hm <;> simp

/-- No match begins a text whose first item is a fault. -/
theorem unmatched_of_fault {c : Char} {rest : Text} {f : Fault}
    (h : (cut c rest).1.shape = .fault f) : Unmatched (c :: rest) := by
  intro shape text hm hb
  obtain ⟨shape', text', hm', hb', hl⟩ := exists_longest hm hb
  rw [cut_of_longest hm' hb' hl] at h
  exact shape_ne_fault_of_matches hm' f h

/-- A text that no rule matches begins with a quote that nothing closes or a stray character. -/
theorem first_cases_of_unmatched {c : Char} {rest : Text} (hu : Unmatched (c :: rest)) :
    (c = '"' ∧ '"' ∉ rest) ∨ IsStray c := by
  rcases first_cases_settled c rest with ⟨shape, text, after, heq, hm, _⟩ | h
  · exact absurd ⟨after, heq.symm⟩ (hu shape text hm)
  · exact h

/-! ## What stands first -/

theorem eq_cut_of_first {c : Char} {rest : Text} {item : Item} (h : First (c :: rest) item) :
    item = (cut c rest).1 := by
  cases h with
  | rule hm hb hl => exact (cut_of_longest hm hb hl).symm
  | unterminated hu =>
    rcases first_cases_of_unmatched hu with ⟨_, hopen⟩ | hstray
    · rw [cut_of_quote, cutString_open hopen]
    · exact absurd rfl hstray.2.2.1
  | unexpected hc hu =>
    rcases first_cases_of_unmatched hu with ⟨hq, _⟩ | hstray
    · exact absurd hq hc
    · rw [cut_of_stray hstray]

theorem first_cut (c : Char) (rest : Text) : First (c :: rest) (cut c rest).1 := by
  rcases first_cases_settled c rest with ⟨shape, text, after, heq, hm, _⟩ | ⟨rfl, hopen⟩ | hstray
  · obtain ⟨shape', text', hm', hb', hl⟩ := exists_longest hm ⟨after, heq.symm⟩
    rw [cut_of_longest hm' hb' hl]
    exact .rule hm' hb' hl
  · have hcut : (cut '"' rest).1 = ⟨.fault .unterminatedString, '"' :: rest⟩ := by
      rw [cut_of_quote, cutString_open hopen]
    rw [hcut]
    exact .unterminated (unmatched_of_fault (congrArg Item.shape hcut))
  · have hcut : (cut c rest).1 = ⟨.fault .unexpectedCharacter, [c]⟩ := by rw [cut_of_stray hstray]
    rw [hcut]
    exact .unexpected hstray.2.2.1 (unmatched_of_fault (congrArg Item.shape hcut))

/-- Cutting takes off what stands first. -/
theorem first_iff {c : Char} {rest : Text} {item : Item} :
    First (c :: rest) item ↔ item = (cut c rest).1 :=
  ⟨eq_cut_of_first, fun h => h ▸ first_cut c rest⟩

theorem matches_or_fault_of_first {item : Item} (h : First t item) :
    Matches item.shape item.text ∨ ∃ f, item.shape = .fault f := by
  cases h with
  | rule hm _ _ => exact Or.inl hm
  | unterminated _ => exact Or.inr ⟨_, rfl⟩
  | unexpected _ _ => exact Or.inr ⟨_, rfl⟩

/-- An item of a text is a match or a fault. -/
theorem matches_or_fault_of_mem_items {item : Item} (h : item ∈ items t) :
    Matches item.shape item.text ∨ ∃ f, item.shape = .fault f := by
  fun_induction items t with
  | case1 => cases h
  | case2 c rest ih =>
    rcases List.mem_cons.mp h with rfl | h
    · exact matches_or_fault_of_first (first_cut c rest)
    · exact ih h

/-! ## Itemisations -/

theorem itemised_items (t : Text) : Itemised t (items t) := by
  fun_induction items t with
  | case1 => exact .nil
  | case2 c rest ih =>
    have hcut := cut_append c rest
    have hfirst : First ((cut c rest).1.text ++ (cut c rest).2) (cut c rest).1 := by
      rw [hcut]
      exact first_cut c rest
    have h := Itemised.cons hfirst ih
    rwa [hcut] at h

theorem eq_items_of_itemised {list : List Item} (h : Itemised t list) : list = items t := by
  induction h with
  | nil => rw [items_nil]
  | @cons item rest list hf _ ih =>
    obtain ⟨c, more, hne⟩ := List.exists_cons_of_ne_nil (text_ne_nil_of_first hf)
    have hsplit : item.text ++ rest = c :: (more ++ rest) := by rw [hne, List.cons_append]
    have hitem : item = (cut c (more ++ rest)).1 := eq_cut_of_first (hsplit ▸ hf)
    have hrest : rest = (cut c (more ++ rest)).2 := by
      have hcut := cut_append c (more ++ rest)
      rw [← hitem, ← hsplit] at hcut
      exact (List.append_cancel_left hcut).symm
    rw [hsplit, items_cons, ← hitem, ← hrest, ih]

/-- A text has one itemisation, the items that are cut off it. -/
theorem itemised_iff {list : List Item} : Itemised t list ↔ list = items t :=
  ⟨eq_items_of_itemised, fun h => h ▸ itemised_items t⟩

end Grammar

/-- Scanning is longest match. The grammar cuts a text into items in exactly one way; the items
are not empty and make up the text, and the scan is read off them. -/
theorem scan_longest_match (source : Text) :
    ∃ items, (∀ list, Grammar.Itemised source list ↔ list = items)
      ∧ (∀ item ∈ items, item.text ≠ []) ∧ (items.map Item.text).flatten = source
      ∧ scan source = .ofItems items := by
  refine ⟨Item.items source, fun _ => Grammar.itemised_iff, ?_, ?_, ?_⟩
  · exact fun _ hitem => Item.text_ne_nil_of_mem_items hitem
  · exact Item.flatten_items source
  · exact scan_eq_ofItems source

end LoxLexer
