/-
  Taking tokens lazily refines the whole scan. A session with one scanner and a log of its own
  answers any requests in any order from the one list of steps of its text (`performAll_pulls`),
  so what it has given out, where it stands and what is in the log are those of a cursor that has
  been reached (`Cursor.Reached`). The end of the input comes last among the tokens of a scan and
  nowhere else (`scan_ending`), so it is given out once, and nothing happens after it.
-/
import LoxLexer.Proofs.Passed
import LoxLexer.Session.Named

namespace LoxLexer

/-! ## Ends of tokens -/

namespace Placed

/-- The offsets behind the tokens among the items of a text, and the end of the text. -/
def tokenEnds (items : List Item) : List Nat :=
  ((ofItems [] items).filter (·.token?.isSome)).map endOffset ++ [(Item.textOf items).length]

theorem length_map_endOffset (before : Text) (items : List Item) :
    (((ofItems before items).filter (·.token?.isSome)).map endOffset).length
      = (tokens before items).length := by
  rw [List.length_map, tokens, List.length_filterMap_eq_countP, List.countP_eq_length_filter]

/-- Behind items of which the last is a token, one stands at the end of that token. -/
theorem tokenEnds_getElem?_of_token {front later : List Item} {item : Item}
    (h : item.IsToken) :
    (tokenEnds (front ++ [item] ++ later))[(tokens [] front).length]?
      = some (Item.textOf (front ++ [item])).length := by
  obtain ⟨kind, hshape⟩ := h
  have htoken : (token? ⟨Item.textOf front, item⟩).isSome = true := by simp [token?, hshape]
  have hends : tokenEnds (front ++ [item] ++ later)
      = ((ofItems [] front).filter (·.token?.isSome)).map endOffset
        ++ endOffset ⟨Item.textOf front, item⟩
          :: (((ofItems (Item.textOf (front ++ [item])) later).filter (·.token?.isSome)).map
              endOffset
            ++ [(Item.textOf (front ++ [item] ++ later)).length]) := by
    rw [tokenEnds, ofItems_append_textOf, ofItems_append_textOf, List.filter_append,
      List.filter_append]
    simp [ofItems, htoken]
  rw [hends, ← length_map_endOffset, List.getElem?_append_right (Nat.le_refl _), Nat.sub_self]
  simp [endOffset, Item.textOf_append]

theorem tokenEnds_getElem?_of_end (items : List Item) :
    (tokenEnds items)[(tokens [] items).length]? = some (Item.textOf items).length := by
  rw [tokenEnds, ← length_map_endOffset, List.getElem?_append_right (Nat.le_refl _), Nat.sub_self]
  rfl

end Placed

namespace Cursor

variable {source : Text} {passed : List Item} {steps : List Step} {c : Cursor}

/-- Once tokens have been given out, the cursor stands at the end of the last of them. -/
theorem tokenEnds_of_reached (h : Reached source passed steps c) {k : Nat}
    (hk : steps.length = k + 1) :
    (Placed.tokenEnds (Item.items source))[k]? = some c.offset := by
  have hlength : (Scan.ofSteps steps).tokens.length = k + 1 := by rw [← hk]; exact List.length_map _
  rw [h.tokens_eq, List.length_append] at hlength
  cases hf : c.finished with
  | true =>
    obtain ⟨hpassed, hoffset, hending⟩ := passed_eq_of_finished h.toPassed hf
    rw [hpassed, hending, List.length_singleton] at hlength
    obtain rfl := Nat.succ.inj hlength
    rw [Placed.tokenEnds_getElem?_of_end, Item.textOf_items, hoffset]
  | false =>
    rw [ending_of_not_finished hf, List.length_nil, Nat.add_zero] at hlength
    rcases h.stops hf with rfl | ⟨front, item, rfl, hitem⟩
    · cases hlength
    · have hone : (Placed.tokens (Item.textOf front) [item]).length = 1 := by
        obtain ⟨kind, hshape⟩ := hitem
        rw [Placed.tokens_cons]
        simp [Placed.token?, hshape]
      rw [Placed.tokens_append, List.length_append, List.nil_append, hone] at hlength
      obtain rfl := Nat.succ.inj hlength
      rw [h.items_eq, Placed.tokenEnds_getElem?_of_token hitem, h.offset_eq]

/-- The diagnostics brought to light are those of the items that begin before the cursor. -/
theorem diagnostics_of_reached (h : Reached source passed steps c) :
    (Scan.ofSteps steps).diagnostics
        = ((Placed.ofItems [] (Item.items source)).filter (·.start < c.offset)).filterMap
            Placed.diagnostic?
      ∧ (scan source).diagnostics = (Scan.ofSteps steps).diagnostics
          ++ ((Placed.ofItems [] (Item.items source)).filter (¬ ·.start < c.offset)).filterMap
            Placed.diagnostic? := by
  have hne : ∀ item ∈ passed, item.text ≠ [] := by
    intro item hitem
    have hmem : item ∈ Item.items source := h.items_eq ▸ List.mem_append_left _ hitem
    exact Item.text_ne_nil_of_mem_items hmem
  obtain ⟨hbefore, hbehind⟩ := Placed.filter_start_ofItems [] (Item.items c.rest) hne
  rw [List.nil_append] at hbefore hbehind
  rw [scan_diagnostics, h.diagnostics_eq, h.offset_eq, h.items_eq, hbefore, hbehind,
    Placed.diagnostics_append]
  exact ⟨rfl, rfl⟩

end Cursor

/-! ## The end of the input -/

/-- The end of the input comes last among the tokens of a scan, and nowhere else. -/
theorem scan_ending (source : Text) :
    ∃ front last, (scan source).tokens = front ++ [last] ∧ last.kind = .endOfInput
      ∧ ∀ t ∈ front, t.kind ≠ .endOfInput := by
  refine ⟨_, _, scan_tokens source, rfl, fun t ht hkind => ?_⟩
  obtain ⟨p, hp, htoken⟩ := List.mem_filterMap.mp ht
  have hshape : p.item.shape = .token .endOfInput := by
    unfold Placed.token? at htoken
    split at htoken
    · rename_i kind hs
      obtain rfl := Option.some.inj htoken
      rw [hs, ← hkind]
    · cases htoken
  rcases Grammar.matches_or_fault_of_mem_items (Placed.item_mem_of_mem_ofItems hp) with hm | ⟨f, hf⟩
  · rw [hshape] at hm
    cases hm
  · rw [hshape] at hf
    cases hf

/-! ## What is seen of a scanner -/

/-- A scanner at the cursor `c` that has given out the tokens `returned` and reported the
diagnostics `reported` is on its way through the scan of the text `source`, whose items are
`items`. -/
structure Cursor.Shows (source : Text) (items : List Item) (c : Cursor) (returned : List Token)
    (reported : List Diagnostic) : Prop where
  returned_prefix : returned <+: (scan source).tokens
  offset_eq : ∀ k, returned.length = k + 1 → (Placed.tokenEnds items)[k]? = some c.offset
  reported_eq : reported
    = ((Placed.ofItems [] items).filter (·.start < c.offset)).filterMap Placed.diagnostic?
  reported_prefix : (scan source).diagnostics = reported
    ++ ((Placed.ofItems [] items).filter (¬ ·.start < c.offset)).filterMap Placed.diagnostic?
  ending_iff : (∃ t ∈ returned, t.kind = .endOfInput) ↔ returned = (scan source).tokens
  ending_once : returned.countP (·.kind = .endOfInput) ≤ 1

namespace Cursor

variable {source : Text} {passed : List Item} {steps : List Step} {c : Cursor}

theorem shows_of_reached (h : Reached source passed steps c) :
    Shows source (Item.items source) c (Scan.ofSteps steps).tokens
      (Scan.ofSteps steps).diagnostics := by
  obtain ⟨htokens, _⟩ := ofSteps_drain_of_reached h
  obtain ⟨hreported, hlater⟩ := diagnostics_of_reached h
  obtain ⟨front, last, hscan, hlast, hfront⟩ := scan_ending source
  have hbegins : (Scan.ofSteps steps).tokens <+: (scan source).tokens := ⟨_, htokens⟩
  have hnone : front.countP (·.kind = .endOfInput) = 0 := by
    rw [List.countP_eq_zero]
    simpa using hfront
  refine ⟨hbegins, ?_, hreported, hlater, ?_, ?_⟩
  · intro k hk
    rw [Scan.ofSteps, List.length_map] at hk
    exact tokenEnds_of_reached h hk
  · constructor
    · rintro ⟨t, ht, hkind⟩
      rw [hscan] at hbegins ⊢
      -- a beginning that is not all of the tokens ends before the last of them
      rcases List.prefix_concat_iff.mp hbegins with hall | hshort
      · exact hall
      · exact absurd hkind (hfront t (hshort.subset ht))
    · intro hall
      rw [hall, hscan]
      exact ⟨last, by simp, hlast⟩
  · calc (Scan.ofSteps steps).tokens.countP (·.kind = .endOfInput)
        ≤ (scan source).tokens.countP (·.kind = .endOfInput) := hbegins.sublist.countP_le
      _ = 1 := by rw [hscan, List.countP_append, hnone]; simp [hlast]

end Cursor

/-! ## Requests to a scanner -/

theorem Log.recordAll_append (log : Log) (ds es : List Diagnostic) :
    log.recordAll (ds ++ es) = (log.recordAll ds).recordAll es := by
  simp [recordAll]

theorem Cursor.Pull.of_map {α β : Type} (f : α → β) (p : Pull) (list : List α) :
    (p.of list).map f = p.of (list.map f) := by
  cases p <;> simp [of]

namespace Session

/-- A session with a scanner at the beginning of a text and a log of its own. -/
def solo (source : Text) (echoes : Bool) : Session :=
  ((empty.openLog echoes).1.openScanner source 0).1

/-- The tokens that an action gives. -/
def Outcome.tokens (o : Outcome) : List Token :=
  match o.answer with
  | .ok tokens => tokens
  | .error _ => []

theorem perform_pull (log : Log) (c : Cursor) (p : Cursor.Pull) :
    perform ⟨[log], [⟨c, 0⟩]⟩ (.pull 0 p)
      = (⟨[log.recordAll (Scan.ofSteps (c.pull p)).diagnostics], [⟨c.after (c.pull p), 0⟩]⟩,
          ⟨.ok (Scan.ofSteps (c.pull p)).tokens,
            (Scan.ofSteps (c.pull p)).diagnostics.flatMap log.line, none⟩) := rfl

/-- Requests are answered from the steps of the cursor, which are made once. -/
theorem performAll_pulls (log : Log) (c : Cursor) (pulls : List Cursor.Pull) :
    ∃ outcomes, performAll ⟨[log], [⟨c, 0⟩]⟩ (pulls.map (.pull 0))
        = (⟨[log.recordAll (Scan.ofSteps (c.pullAll pulls)).diagnostics],
            [⟨c.after (c.pullAll pulls), 0⟩]⟩, outcomes)
      ∧ outcomes.flatMap Outcome.tokens = (Scan.ofSteps (c.pullAll pulls)).tokens := by
  induction pulls generalizing log c with
  | nil =>
    rw [Cursor.pullAll, Scan.ofSteps_nil, Log.recordAll_nil]
    exact ⟨[], rfl, rfl⟩
  | cons p ps ih =>
    obtain ⟨outcomes, hrun, htokens⟩ :=
      ih (log.recordAll (Scan.ofSteps (c.pull p)).diagnostics) (c.after (c.pull p))
    rw [List.map_cons, performAll, perform_pull, Cursor.pullAll, Cursor.after_append,
      Scan.diagnostics_ofSteps_append, Scan.tokens_ofSteps_append, Log.recordAll_append]
    dsimp only
    rw [hrun, ← htokens]
    exact ⟨_, rfl, List.flatMap_cons⟩

variable {source : Text} {passed : List Item} {steps : List Step} {c : Cursor}

/-- A request is answered with the next tokens of the scan, as many as are asked for. -/
theorem answer_of_reached (h : Cursor.Reached source passed steps c) (log : Log)
    (p : Cursor.Pull) :
    (perform ⟨[log], [⟨c, 0⟩]⟩ (.pull 0 p)).2.answer
      = .ok (p.of ((scan source).tokens.drop (Scan.ofSteps steps).tokens.length)) := by
  obtain ⟨hscan, _⟩ := Cursor.ofSteps_drain_of_reached h
  have hdrop : (scan source).tokens.drop (Scan.ofSteps steps).tokens.length
      = c.drain.map Step.token := by
    rw [← hscan, List.drop_left]
    rfl
  rw [perform_pull, hdrop, ← Cursor.Pull.of_map, ← Cursor.pull_eq_of_drain]
  rfl

/-- A request that is answered without a step changes nothing. -/
theorem perform_of_pull_eq_nil {p : Cursor.Pull} (h : c.pull p = []) (log : Log) :
    perform ⟨[log], [⟨c, 0⟩]⟩ (.pull 0 p) = (⟨[log], [⟨c, 0⟩]⟩, .silent) := by
  rw [perform_pull, h, Scan.ofSteps_nil, Log.recordAll_nil]
  rfl

theorem pull_eq_nil_of_drain (h : c.drain = []) (p : Cursor.Pull) : c.pull p = [] := by
  rw [Cursor.pull_eq_of_drain, h]
  cases p <;> simp [Cursor.Pull.of]

/-- A named scanner that gives nothing for the next token says that there is none. -/
theorem perform_next_of_silent {named : Named} {name : Text} {scanner : Scanner}
    (hname : named.object? name = some (.scanner 0)) (hscanner : named.scanner? 0 = some scanner)
    (h : named.session.perform (.pull 0 .next) = (named.session, .silent)) :
    named.perform name (.pull .next) = some (named, .exhausted, []) := by
  have hlog : named.logNumber (.scanner 0) = some scanner.log := by
    rw [Named.logNumber, hscanner]
    rfl
  simp only [Named.perform, Named.opened, hname, Named.act, h, bind, Option.bind, hlog]
  rfl

/-- Lazy scanning refines scanning as a whole. After any requests to a scanner with a log of its
own, what it has given out, where it stands and what is in the log are as `Cursor.Shows` says; a
further request is answered with the next tokens of the scan, as many as are asked for; a request
for no token changes nothing; and once all tokens have been given out, no request changes or gives
anything, and a request for the next token is answered that there is none. -/
theorem lazy_refines_scan (source : Text) (echoes : Bool) (pulls : List Cursor.Pull) :
    ∃ items session outcomes cursor entries, Grammar.Itemised source items
      ∧ (solo source echoes).performAll (pulls.map (.pull 0)) = (session, outcomes)
      ∧ session = ⟨[⟨echoes, entries⟩], [⟨cursor, 0⟩]⟩
      ∧ cursor.Shows source items (outcomes.flatMap Outcome.tokens) entries
      ∧ (outcomes.flatMap Outcome.tokens = [] → session = solo source echoes)
      ∧ (∀ p, (session.perform (.pull 0 p)).2.answer
          = .ok (p.of ((scan source).tokens.drop (outcomes.flatMap Outcome.tokens).length)))
      ∧ session.perform (.pull 0 (.take 0)) = (session, .silent)
      ∧ (outcomes.flatMap Outcome.tokens = (scan source).tokens →
          (∀ p, session.perform (.pull 0 p) = (session, .silent))
          ∧ ∀ named : Named, ∀ name, named.session = session →
              named.object? name = some (.scanner 0) →
              named.perform name (.pull .next) = some (named, .exhausted, [])) := by
  obtain ⟨outcomes, hrun, htokens⟩ := performAll_pulls (.empty echoes) (.ofText source) pulls
  obtain ⟨passed, h⟩ := Cursor.reached_pullAll pulls (Cursor.reached_ofText source)
  generalize (Cursor.ofText source).pullAll pulls = steps at *
  have hreached : Cursor.Reached source passed steps ((Cursor.ofText source).after steps) := h
  refine ⟨Item.items source, _, outcomes, _, _, Grammar.itemised_items source, hrun, rfl, ?_⟩
  rw [htokens]
  refine ⟨Cursor.shows_of_reached hreached, ?_, answer_of_reached hreached _,
    perform_of_pull_eq_nil rfl _, ?_⟩
  · intro hnone
    obtain rfl : steps = [] := List.map_eq_nil_iff.mp hnone
    rfl
  · intro hall
    have hdrain : ((Cursor.ofText source).after steps).drain = [] := by
      obtain ⟨hscan, _⟩ := Cursor.ofSteps_drain_of_reached hreached
      rw [hall, List.append_right_eq_self] at hscan
      exact List.map_eq_nil_iff.mp hscan
    have hsilent := fun p => perform_of_pull_eq_nil (pull_eq_nil_of_drain hdrain p)
    refine ⟨fun p => hsilent p _, fun named name hsame hname => ?_⟩
    have hscanner : named.scanner? 0 = some ⟨(Cursor.ofText source).after steps, 0⟩ := by
      rw [Named.scanner?, hsame]
      rfl
    refine perform_next_of_silent hname hscanner ?_
    rw [hsame]
    exact hsilent .next _

end Session

end LoxLexer
