/-
  Cursors stay within their text. `Visited` holds of the places that a scanner of a text comes to,
  item by item; behind each lie items of the text (`exists_passed_of_visited`), from which follow
  the bounds of its offsets, the line, and that passing one more item goes on and stays within the
  text (`bounded_of_visited`). A step ends at such a place, with the characters between the two
  offsets of its cursor as the token, and what it reports is of such places, too, so no report is
  refused (`sound_next?`), and none has too many digits to be printed (`Step.echo_of_sound`). This
  holds of all steps that answer requests (`sound_pullAll`). Every item takes a character and brings
  out one token or one diagnostic at most, so scanning comes to an end (`scanner_bounded`).
-/
import LoxLexer.Proofs.Lazy

namespace LoxLexer

/-! ## Places in a text -/

namespace Cursor

/-- The places that a scanner of the text `source` comes to. -/
inductive Visited (source : Text) : Cursor → Prop
  | beginning : Visited source (ofText source)
  | behind {c : Cursor} {first : Char} {rest : Text} (h : Visited source c)
      (hrest : c.rest = first :: rest) : Visited source (c.passFirst first rest)
  | ending {c : Cursor} (h : Visited source c) (hrest : c.rest = []) : Visited source c.finish

/-- What holds at every place that a scanner of the text `source` comes to. Where there is text
ahead, its first item is passed; that leads further on and not beyond the end. -/
structure Bounded (source : Text) (c : Cursor) : Prop where
  itemStart_le : c.itemStart ≤ c.offset
  offset_le : c.offset ≤ source.length
  line_eq : c.line = 1 + Text.newlines (source.take c.offset)
  one_le_line : 1 ≤ c.line
  report_eq : ∀ (log : Log) (f : Fault),
    log.report (.ofFault c.line f) = .ok (log.record (.ofFault c.line f))
  offset_of_finished : c.finished = true → c.offset = source.length
  advances : c.offset < source.length → ∃ first rest, c.rest = first :: rest
    ∧ c.offset < (c.passFirst first rest).offset
    ∧ (c.passFirst first rest).offset ≤ source.length

variable {source : Text} {c : Cursor}

theorem exists_passed_of_visited (h : Visited source c) : ∃ passed, Passed source passed c := by
  induction h with
  | beginning => exact ⟨[], passed_ofText source⟩
  | behind _ hrest ih =>
    obtain ⟨passed, hpassed⟩ := ih
    exact ⟨_, hpassed.passFirst hrest⟩
  | ending _ hrest ih =>
    obtain ⟨passed, hpassed⟩ := ih
    exact ⟨passed, hpassed.finish hrest⟩

theorem offset_lt_passFirst (c : Cursor) (first : Char) (rest : Text) :
    c.offset < (c.passFirst first rest).offset :=
  Nat.lt_add_of_pos_right (List.length_pos_iff.mpr (Item.cut_text_ne_nil first rest))

/-- A fault on a line that there is, is recorded. -/
theorem report_ofFault {line : Nat} (h : 1 ≤ line) (log : Log) (f : Fault) :
    log.report (.ofFault line f) = .ok (log.record (.ofFault line f)) := by
  have hvalid : (Diagnostic.ofFault line f).Valid := Int.ofNat_le.mpr h
  exact Log.report_eq_ok_iff.mpr ⟨hvalid, rfl⟩

theorem bounded_of_visited (h : Visited source c) : c.Bounded source := by
  obtain ⟨passed, hpassed⟩ := exists_passed_of_visited h
  refine ⟨hpassed.itemStart_le, hpassed.offset_le, hpassed.line_eq_lineAt, hpassed.one_le_line,
    report_ofFault hpassed.one_le_line, ?_, ?_⟩
  · exact fun hf => (passed_eq_of_finished hpassed hf).2.1
  · intro hlt
    cases hrest : c.rest with
    | nil =>
      have hlength := congrArg List.length hpassed.rest_eq_drop
      rw [hrest, List.length_nil, List.length_drop] at hlength
      omega
    | cons first rest =>
      have hnext := (hpassed.passFirst hrest).offset_le
      exact ⟨first, rest, rfl, offset_lt_passFirst c first rest, hnext⟩

end Cursor

/-! ## Steps -/

/-- What holds of every step of a scanner of the text `source`: it ends at a place of the text; a
token that is not the end of the input is made up of the characters from the beginning of the last
item up to there; and what is reported is reported at places of the text. -/
structure Step.Sound (source : Text) (s : Step) : Prop where
  visited : s.cursor.Visited source
  lexeme_eq : s.token.kind ≠ .endOfInput →
    s.token.lexeme ≠ [] ∧ s.token.lexeme = source.extract s.cursor.itemStart s.cursor.offset
  reported : ∀ d ∈ s.diagnostics, ∃ (place : Cursor) (f : Fault),
    place.Visited source ∧ d = .ofFault place.line f

namespace Cursor

variable {source : Text} {c : Cursor}

/-- Passing an item takes the characters between the two offsets. -/
theorem extract_passFirst {first : Char} {rest : Text} (h : Visited source c)
    (hrest : c.rest = first :: rest) :
    source.extract c.offset (c.passFirst first rest).offset = (Item.cut first rest).1.text := by
  obtain ⟨passed, hpassed⟩ := exists_passed_of_visited h
  have hlength : (c.passFirst first rest).offset - c.offset
      = (Item.cut first rest).1.text.length := Nat.add_sub_cancel_left _ _
  rw [List.extract_eq_take_drop, ← hpassed.rest_eq_drop, hrest, hlength,
    ← Item.cut_append first rest, List.take_left]

theorem sound_next? {s : Step} (h : Visited source c) (hs : c.next? = some s) :
    s.Sound source := by
  induction hn : c.rest.length using Nat.strongRecOn generalizing c s with
  | ind n ih =>
    subst hn
    cases hrest : c.rest with
    | nil =>
      rw [next?_of_nil hrest] at hs
      split at hs
      · cases hs
      · obtain rfl := Option.some.inj hs
        exact ⟨.ending h hrest, fun hkind => absurd rfl hkind, fun _ hd => nomatch hd⟩
    | cons first rest =>
      have hafter : Visited source (c.passFirst first rest) := .behind h hrest
      have hlt := length_rest_passFirst_lt hrest
      cases hshape : (Item.cut first rest).1.shape with
      | token kind =>
        rw [next?_of_token hrest hshape] at hs
        obtain rfl := Option.some.inj hs
        refine ⟨hafter, fun _ => ?_, fun _ hd => nomatch hd⟩
        exact ⟨Item.cut_text_ne_nil first rest, (extract_passFirst h hrest).symm⟩
      | blank =>
        rw [next?_of_skipped hrest (Or.inl hshape)] at hs
        exact ih _ hlt hafter hs rfl
      | comment =>
        rw [next?_of_skipped hrest (Or.inr hshape)] at hs
        exact ih _ hlt hafter hs rfl
      | fault f =>
        rw [next?_of_fault hrest hshape] at hs
        obtain ⟨t, ht, rfl⟩ := Option.map_eq_some_iff.mp hs
        obtain ⟨hvisited, hlexeme, hreported⟩ := ih _ hlt hafter ht rfl
        exact ⟨hvisited, hlexeme, List.forall_mem_cons.mpr ⟨⟨_, f, hafter, rfl⟩, hreported⟩⟩

/-! ## Requests -/

theorem visited_after {steps : List Step} (h : Visited source c)
    (hsteps : ∀ s ∈ steps, s.Sound source) : Visited source (c.after steps) := by
  unfold after
  cases hlast : steps.getLast? with
  | none => exact h
  | some s => exact (hsteps s (List.mem_of_getLast? hlast)).visited

theorem sound_take (n : Nat) (h : Visited source c) : ∀ s ∈ c.take n, s.Sound source := by
  induction n generalizing c with
  | zero => exact fun _ hs => nomatch hs
  | succ n ih =>
    cases hnext : c.next? with
    | none => simp [take, hnext]
    | some s =>
      have hsound := sound_next? h hnext
      simp only [take, hnext]
      exact List.forall_mem_cons.mpr ⟨hsound, ih hsound.visited⟩

theorem exists_pull_eq_take (c : Cursor) (p : Pull) : ∃ n, c.pull p = c.take n := by
  cases p with
  | next => exact ⟨1, rfl⟩
  | take n => exact ⟨n, rfl⟩
  | all => exact ⟨c.remaining, rfl⟩

theorem sound_pullAll (pulls : List Pull) (h : Visited source c) :
    ∀ s ∈ c.pullAll pulls, s.Sound source := by
  induction pulls generalizing c with
  | nil => exact fun _ hs => nomatch hs
  | cons p ps ih =>
    obtain ⟨n, hpull⟩ := exists_pull_eq_take c p
    have hfirst : ∀ s ∈ c.pull p, s.Sound source := hpull ▸ sound_take n h
    exact List.forall_mem_append.mpr ⟨hfirst, ih (visited_after h hfirst)⟩

/-! ## The end -/

theorem length_take_le (n : Nat) (c : Cursor) : (c.take n).length ≤ n := by
  induction n generalizing c with
  | zero => exact Nat.le_refl 0
  | succ n ih =>
    cases hnext : c.next? with
    | none => simp [take, hnext]
    | some s =>
      simp only [take, hnext, List.length_cons]
      exact Nat.succ_le_succ (ih s.cursor)

/-- After all steps the end of the input has been given out. -/
theorem finished_after_drain (c : Cursor) : (c.after c.drain).finished = true := by
  induction hn : c.remaining using Nat.strongRecOn generalizing c with
  | ind n ih =>
    subst hn
    cases hnext : c.next? with
    | none =>
      rw [drain_of_next?_eq_none hnext, after_nil]
      cases hf : c.finished with
      | true => rfl
      | false =>
        obtain ⟨s, hs⟩ := exists_next? hf
        rw [hnext] at hs
        cases hs
    | some s =>
      rw [drain_of_next?_eq_some hnext, after_cons]
      exact ih _ (remaining_lt_of_next? hnext) s.cursor rfl

end Cursor

/-! ## Logs -/

/-- Reports that are accepted one by one are recorded in order. -/
theorem Log.foldlM_report {ds : List Diagnostic}
    (h : ∀ d ∈ ds, ∀ log : Log, log.report d = .ok (log.record d)) (log : Log) :
    ds.foldlM Log.report log = .ok (log.recordAll ds) := by
  induction ds generalizing log with
  | nil =>
    rw [recordAll_nil]
    rfl
  | cons d ds ih =>
    obtain ⟨hfirst, hothers⟩ := List.forall_mem_cons.mp h
    rw [List.foldlM_cons, hfirst log, recordAll_cons]
    exact ih hothers (log.record d)

theorem Step.report_of_sound {source : Text} {s : Step} (h : s.Sound source) {d : Diagnostic}
    (hd : d ∈ s.diagnostics) (log : Log) : log.report d = .ok (log.record d) := by
  obtain ⟨place, f, hplace, rfl⟩ := h.reported d hd
  exact (Cursor.bounded_of_visited hplace).report_eq log f

/-- A text has no more lines than characters and one, so in a text of fewer than 10 to the 4300
characters what a scanner reports can be written out. -/
theorem Step.echo_of_sound {source : Text} {s : Step} (h : s.Sound source)
    (hlength : source.length + 1 < Text.leastUnwritten) {d : Diagnostic}
    (hd : d ∈ s.diagnostics) (log : Log) : log.echo d = .ok (log.line d) := by
  obtain ⟨place, f, hplace, rfl⟩ := h.reported d hd
  have hnewlines : Text.newlines (source.take place.offset) ≤ source.length :=
    Nat.le_trans List.count_le_length (List.length_take_le' _ _)
  have hline : place.line ≤ source.length + 1 := by
    rw [(Cursor.bounded_of_visited hplace).line_eq]
    omega
  exact Log.echo_of_fewDigits (Text.fewDigits_iff.mpr (Nat.lt_of_le_of_lt hline hlength)) log

/-! ## How much a text brings to light -/

namespace Placed

theorem length_token?_add_length_diagnostic?_le (p : Placed) :
    p.token?.toList.length + p.diagnostic?.toList.length ≤ 1 := by
  cases hs : p.item.shape with
  | fault f => cases f <;> simp [token?, diagnostic?, hs]
  | _ => simp [token?, diagnostic?, hs]

theorem length_tokens_add_length_diagnostics_le (before : Text) {items : List Item}
    (hne : ∀ item ∈ items, item.text ≠ []) :
    (tokens before items).length + (diagnostics before items).length
      ≤ (Item.textOf items).length := by
  induction items generalizing before with
  | nil => exact Nat.le_refl 0
  | cons item items ih =>
    obtain ⟨hitem, hitems⟩ := List.forall_mem_cons.mp hne
    have hone := length_token?_add_length_diagnostic?_le ⟨before, item⟩
    have hpos := List.length_pos_iff.mpr hitem
    have hothers := ih (before ++ item.text) hitems
    rw [tokens_cons, diagnostics_cons, Item.textOf_cons, List.length_append, List.length_append,
      List.length_append]
    omega

end Placed

theorem length_scan_le (source : Text) :
    (scan source).tokens.countP (·.kind ≠ .endOfInput) + (scan source).diagnostics.length
      ≤ source.length := by
  have hle := Placed.length_tokens_add_length_diagnostics_le []
    (fun _ => Item.text_ne_nil_of_mem_items (t := source))
  have hcount : (scan source).tokens.countP (·.kind ≠ .endOfInput)
      ≤ (Placed.tokens [] (Item.items source)).length := by
    rw [scan_tokens, List.countP_append]
    exact List.countP_le_length
  rw [Item.textOf_items] at hle
  rw [scan_diagnostics]
  omega

namespace Session

/-- A scanner that has made the steps `steps`, and stands at the cursor `c`, is within its text.
What it reported would be accepted by any log. Asked for all tokens, it gives out at most one for
each character ahead and the end of the input, and then there is nothing more to come. -/
structure WithinText (source : Text) (echoes : Bool) (steps : List Step) (c : Cursor)
    (session : Session) : Prop where
  session_eq : session = ⟨[⟨echoes, (Scan.ofSteps steps).diagnostics⟩], [⟨c, 0⟩]⟩
  cursor_eq : c = (Cursor.ofText source).after steps
  visited : c.Visited source
  bounded : c.Bounded source
  sound : ∀ s ∈ steps, s.Sound source
  accepted : ∀ log : Log, (Scan.ofSteps steps).diagnostics.foldlM Log.report log
    = .ok (log.recordAll (Scan.ofSteps steps).diagnostics)
  drained : ∃ tokens log last, (session.perform (.pull 0 .all)).2.answer = .ok tokens
    ∧ (session.perform (.pull 0 .all)).1 = ⟨[log], [⟨last, 0⟩]⟩
    ∧ tokens.length + c.offset ≤ source.length + 1
    ∧ last.finished = true ∧ last.offset = source.length ∧ last.next? = none

theorem withinText_of_sound {source : Text} {steps : List Step} (echoes : Bool)
    (hsteps : ∀ s ∈ steps, s.Sound source) :
    WithinText source echoes steps ((Cursor.ofText source).after steps)
      ⟨[⟨echoes, (Scan.ofSteps steps).diagnostics⟩],
        [⟨(Cursor.ofText source).after steps, 0⟩]⟩ := by
  have hvisited := Cursor.visited_after .beginning hsteps
  generalize hc : (Cursor.ofText source).after steps = c at *
  refine ⟨rfl, hc.symm, hvisited, Cursor.bounded_of_visited hvisited, hsteps,
    Log.foldlM_report fun d hd => ?_, ?_⟩
  · obtain ⟨s, hs, hd⟩ := List.mem_flatMap.mp hd
    exact Step.report_of_sound (hsteps s hs) hd
  · obtain ⟨passed, hpassed⟩ := Cursor.exists_passed_of_visited hvisited
    have hdrained : (c.after c.drain).Visited source :=
      Cursor.visited_after hvisited (Cursor.sound_take c.remaining hvisited)
    obtain ⟨_, hlast⟩ := Cursor.exists_passed_of_visited hdrained
    have hfinished := Cursor.finished_after_drain c
    refine ⟨_, _, c.after c.drain, rfl, rfl, ?_, hfinished,
      (Cursor.bounded_of_visited hdrained).offset_of_finished hfinished,
      Cursor.next?_eq_none_of_finished hlast hfinished⟩
    have hle : c.drain.length ≤ c.remaining := Cursor.length_take_le c.remaining c
    have hrest : c.rest.length = source.length - c.offset := by
      rw [hpassed.rest_eq_drop, List.length_drop]
    have hremaining : c.remaining ≤ c.rest.length + 1 := by
      unfold Cursor.remaining
      split <;> omega
    have hoffset := hpassed.offset_le
    calc (Scan.ofSteps c.drain).tokens.length + c.offset
        = c.drain.length + c.offset := congrArg (· + _) (List.length_map _)
      _ ≤ source.length + 1 := by omega

/-- Scanners stay within their text and come to its end. Every place that a scanner comes to is
within the bounds that `Cursor.Bounded` says, and passing an item there leads further on. After
any requests a scanner is at such a place, and each token given out was made up of the characters
between the two offsets of the place behind it. A whole scan gives out at most as many tokens,
besides the end of the input, and diagnostics as there are characters. -/
theorem scanner_bounded (source : Text) (echoes : Bool) (pulls : List Cursor.Pull) :
    (∀ c, Cursor.Visited source c → c.Bounded source)
      ∧ (∃ steps c session outcomes,
          (solo source echoes).performAll (pulls.map (.pull 0)) = (session, outcomes)
            ∧ outcomes.flatMap Outcome.tokens = steps.map Step.token
            ∧ WithinText source echoes steps c session)
      ∧ (scan source).tokens.countP (·.kind ≠ .endOfInput) + (scan source).diagnostics.length
        ≤ source.length := by
  obtain ⟨outcomes, hrun, htokens⟩ := performAll_pulls (.empty echoes) (.ofText source) pulls
  have hbeginning : Cursor.Visited source (.ofText source) := .beginning
  have hsteps := Cursor.sound_pullAll pulls hbeginning
  exact ⟨fun _ => Cursor.bounded_of_visited,
    ⟨_, _, _, outcomes, hrun, htokens, withinText_of_sound echoes hsteps⟩, length_scan_le source⟩

end Session

end LoxLexer
