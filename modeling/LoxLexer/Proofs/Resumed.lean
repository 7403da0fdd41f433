/-
  Scanning taken up again in the middle of a text. A cursor sees nothing of what lies behind it:
  of two cursors with the same text ahead, each gives out what the other does, only with other
  offsets and lines (`next?_of_resumes`), and so for any requests (`pullAll_of_resumes`). Where a
  scanner has not come to the end, it therefore goes on as a scanner of the text ahead would
  begin, further down (`scan_resumed`).
-/
import LoxLexer.Proofs.Interleaved
import LoxLexer.Proofs.Stacked

namespace LoxLexer

/-! ## The same text ahead -/

/-- The cursor with the text before its own put in front of it, `chars` characters and `lines` line
ends of the whole text `source`. -/
def Cursor.within (source : Text) (chars lines : Nat) (c : Cursor) : Cursor :=
  { c with
    source := source
    itemStart := c.itemStart + chars
    offset := c.offset + chars
    line := c.line + lines }

/-- The step with the text before its own put in front of it. -/
def Step.within (source : Text) (chars lines : Nat) (s : Step) : Step :=
  ⟨s.diagnostics.map (.below lines), s.token.below lines, s.cursor.within source chars lines⟩

namespace Cursor

/-- The cursor `c` stands in the text `source` where `d` stands in the end of it that begins behind
`chars` characters and `lines` line ends. Where the last items began may differ. -/
structure Resumes (source : Text) (chars lines : Nat) (d c : Cursor) : Prop where
  source_eq : c.source = source
  rest_eq : c.rest = d.rest
  offset_eq : c.offset = d.offset + chars
  line_eq : c.line = d.line + lines
  finished_eq : c.finished = d.finished

variable {source : Text} {chars lines : Nat} {c d : Cursor}

theorem resumes_within (source : Text) (chars lines : Nat) (d : Cursor) :
    Resumes source chars lines d (d.within source chars lines) :=
  ⟨rfl, rfl, rfl, rfl, rfl⟩

namespace Resumes

/-- Behind one more item, the beginnings of the last items agree too. -/
theorem passFirst (h : Resumes source chars lines d c) (first : Char) (rest : Text) :
    c.passFirst first rest = (d.passFirst first rest).within source chars lines := by
  simp only [Cursor.passFirst, pass, within, h.source_eq, h.offset_eq, h.line_eq, h.finished_eq,
    Nat.add_right_comm]

theorem finish (h : Resumes source chars lines d c) :
    c.finish = d.finish.within source chars lines := by
  simp only [Cursor.finish, within, h.source_eq, h.rest_eq, h.offset_eq, h.line_eq]

end Resumes

/-- A step of one cursor is a step of the other, further on and further down. -/
theorem next?_of_resumes (h : Resumes source chars lines d c) :
    c.next? = d.next?.map (Step.within source chars lines) := by
  induction hn : d.rest.length using Nat.strongRecOn generalizing c d with
  | ind n ih =>
    subst hn
    cases hrest : d.rest with
    | nil =>
      have hrest' : c.rest = [] := h.rest_eq.trans hrest
      rw [next?_of_nil hrest', next?_of_nil hrest, h.finished_eq]
      split
      · rfl
      · simp [Step.within, Token.below, Token.endOfInput, h.line_eq, h.finish]
    | cons first rest =>
      have hrest' : c.rest = first :: rest := h.rest_eq.trans hrest
      have hpass := h.passFirst first rest
      have hnext : (c.passFirst first rest).next?
          = (d.passFirst first rest).next?.map (Step.within source chars lines) := by
        rw [hpass]
        exact ih _ (length_rest_passFirst_lt hrest) (resumes_within source chars lines _) rfl
      have hskip : (Item.cut first rest).1.IsSkipped →
          c.next? = d.next?.map (Step.within source chars lines) := by
        intro hskipped
        rw [next?_of_skipped hrest' hskipped, next?_of_skipped hrest hskipped, hnext]
      cases hs : (Item.cut first rest).1.shape with
      | token kind =>
        rw [next?_of_token hrest' hs, next?_of_token hrest hs, hpass, h.line_eq]
        simp [Step.within, Token.below]
      | blank => exact hskip (Or.inl hs)
      | comment => exact hskip (Or.inr hs)
      | fault f =>
        rw [next?_of_fault hrest' hs, next?_of_fault hrest hs, hnext, hpass]
        cases (d.passFirst first rest).next? with
        | none => rfl
        | some s => simp [Step.within, Step.reporting, within, Diagnostic.below, Diagnostic.ofFault]

/-! ## The same requests -/

theorem after_of_resumes (h : Resumes source chars lines d c) (steps : List Step) :
    Resumes source chars lines (d.after steps)
      (c.after (steps.map (.within source chars lines))) := by
  induction steps generalizing c d with
  | nil => exact h
  | cons s steps ih =>
    rw [List.map_cons, after_cons, after_cons]
    exact ih (resumes_within source chars lines s.cursor)

theorem take_of_resumes (n : Nat) (h : Resumes source chars lines d c) :
    c.take n = (d.take n).map (.within source chars lines) := by
  induction n generalizing c d with
  | zero => rfl
  | succ n ih =>
    have hnext := next?_of_resumes h
    cases hs : d.next? with
    | none =>
      rw [hs] at hnext
      simp [take, hs, hnext]
    | some s =>
      have hmore := ih (resumes_within source chars lines s.cursor)
      rw [hs, Option.map_some] at hnext
      simp only [take, hs, hnext, List.map_cons, ← hmore]
      rfl

theorem pull_of_resumes (h : Resumes source chars lines d c) (p : Pull) :
    c.pull p = (d.pull p).map (.within source chars lines) := by
  have hremaining : c.remaining = d.remaining := by
    rw [remaining, remaining, h.rest_eq, h.finished_eq]
  cases p with
  | next => exact take_of_resumes 1 h
  | take n => exact take_of_resumes n h
  | all =>
    rw [pull, pull, drain, drain, hremaining]
    exact take_of_resumes d.remaining h

theorem pullAll_of_resumes (h : Resumes source chars lines d c) (pulls : List Pull) :
    c.pullAll pulls = (d.pullAll pulls).map (.within source chars lines) := by
  induction pulls generalizing c d with
  | nil => rfl
  | cons p ps ih =>
    have hpull := pull_of_resumes h p
    have hafter := ih (after_of_resumes h (d.pull p))
    rw [pullAll, pullAll, List.map_append, ← hafter, ← hpull]

/-- Short of the end, a cursor stands where the text ahead begins. -/
theorem resumes_of_passed {passed : List Item} (h : Passed source passed c)
    (hf : c.finished = false) :
    Resumes source c.offset (c.line - 1) (ofText (source.drop c.offset)) c where
  source_eq := h.source_eq
  rest_eq := h.rest_eq_drop
  offset_eq := (Nat.zero_add _).symm
  line_eq := (Nat.add_sub_of_le h.one_le_line).symm
  finished_eq := hf

/-- A cursor that has not given out the end of the input has not come to it. -/
theorem not_finished_of_forall_ne {passed : List Item} {steps : List Step}
    (h : Reached source passed steps c)
    (hkind : ∀ t ∈ (Scan.ofSteps steps).tokens, t.kind ≠ .endOfInput) : c.finished = false := by
  rw [Bool.eq_false_iff]
  intro hf
  have hmem : Token.endOfInput c.line ∈ (Scan.ofSteps steps).tokens := by
    rw [h.tokens_eq, ending, hf]
    exact List.mem_append_right _ (List.mem_singleton_self _)
  exact hkind _ hmem rfl

end Cursor

/-! ## Scanners taken up again -/

theorem Scan.ofSteps_within (source : Text) (chars lines : Nat) (steps : List Step) :
    ofSteps (steps.map (.within source chars lines))
      = ⟨(ofSteps steps).tokens.map (.below lines),
        (ofSteps steps).diagnostics.map (.below lines)⟩ := by
  simp only [ofSteps, List.map_map, List.flatMap_map, List.map_flatMap]
  rfl

namespace Session

variable {source : Text} {chars lines : Nat} {c d : Cursor}

/-- Requests are answered with the same tokens, further down. -/
theorem tokens_performAll_of_resumes (h : Cursor.Resumes source chars lines d c) (log own : Log)
    (pulls : List Cursor.Pull) :
    (performAll ⟨[log], [⟨c, 0⟩]⟩ (pulls.map (.pull 0))).2.map Outcome.tokens
      = (performAll ⟨[own], [⟨d, 0⟩]⟩ (pulls.map (.pull 0))).2.map
          fun outcome => outcome.tokens.map (.below lines) := by
  induction pulls generalizing log own c d with
  | nil => rfl
  | cons p ps ih =>
    have hafter := Cursor.after_of_resumes h (d.pull p)
    have hfirst : (Scan.ofSteps (c.pull p)).tokens
        = (Scan.ofSteps (d.pull p)).tokens.map (.below lines) := by
      rw [Cursor.pull_of_resumes h, Scan.ofSteps_within]
    rw [← Cursor.pull_of_resumes h] at hafter
    rw [List.map_cons, snd_performAll_cons, snd_performAll_cons, perform_pull, perform_pull,
      List.map_cons, List.map_cons,
      ih hafter _ (own.recordAll (Scan.ofSteps (d.pull p)).diagnostics)]
    exact congrArg (· :: _) hfirst

/-- A scanner goes on at the cursor `c`, with `entries` in a log of its own, as a scanner of the
text `ahead` begins, `lines` lines further down. -/
structure GoesOn (session : Session) (echoes : Bool) (c : Cursor) (entries : List Diagnostic)
    (ahead : Text) (lines : Nat) : Prop where
  session_eq : session = ⟨[⟨echoes, entries⟩], [⟨c, 0⟩]⟩
  tokens_eq : (session.perform (.pull 0 .all)).2.answer
    = .ok ((scan ahead).tokens.map (.below lines))
  diagnostics_eq : (session.perform (.pull 0 .all)).1.logs
    = [⟨echoes, entries ++ (scan ahead).diagnostics.map (.below lines)⟩]
  requests : ∀ pulls : List Cursor.Pull, ∃ d found own after outcomes,
    alone echoes (.ofText ahead) pulls = (⟨[⟨echoes, found⟩], [⟨d, 0⟩]⟩, own)
      ∧ session.performAll (pulls.map (.pull 0))
        = (⟨[⟨echoes, entries ++ found.map (.below lines)⟩], [⟨after, 0⟩]⟩, outcomes)
      ∧ outcomes.map Outcome.tokens = own.map (fun outcome => outcome.tokens.map (.below lines))
      ∧ after.offset = d.offset + c.offset ∧ after.line = d.line + lines

theorem goesOn_of_resumes {echoes : Bool} {entries : List Diagnostic} {ahead : Text}
    (h : Cursor.Resumes source c.offset lines (.ofText ahead) c) :
    GoesOn ⟨[⟨echoes, entries⟩], [⟨c, 0⟩]⟩ echoes c entries ahead lines := by
  have hall : Scan.ofSteps (c.pull .all)
      = ⟨(scan ahead).tokens.map (.below lines), (scan ahead).diagnostics.map (.below lines)⟩ := by
    rw [Cursor.pull_of_resumes h, Scan.ofSteps_within]
    rfl
  refine ⟨rfl, ?_, ?_, fun pulls => ?_⟩
  · rw [perform_pull, hall]
  · rw [perform_pull, hall]
    rfl
  · obtain ⟨own, hown⟩ := alone_eq echoes (.ofText ahead) pulls
    obtain ⟨outcomes, hrun, _⟩ := performAll_pulls ⟨echoes, entries⟩ c pulls
    have htokens := tokens_performAll_of_resumes h ⟨echoes, entries⟩ (.empty echoes) pulls
    have hafter := Cursor.after_of_resumes h ((Cursor.ofText ahead).pullAll pulls)
    rw [← Cursor.pullAll_of_resumes h] at hafter
    refine ⟨_, _, own, _, outcomes, hown, ?_, ?_, hafter.offset_eq, hafter.line_eq⟩
    · rw [hrun, Cursor.pullAll_of_resumes h, Scan.ofSteps_within]
      rfl
    · rw [hrun] at htokens
      rw [htokens]
      exact congrArg (fun run => run.2.map fun o => o.tokens.map (Token.below lines)) hown

/-- Scanning can be taken up again behind any token. After requests that have not given out the
end of the input, a scanner goes on as a scanner of the text behind its offset begins, as many
lines further down as there are above its line: it gives out the same tokens and reports the same
diagnostics, all on lower lines, and so for any further requests one by one. -/
theorem scan_resumed {source : Text} {echoes : Bool} {past : List Cursor.Pull}
    (h : ∀ t ∈ (alone echoes (.ofText source) past).2.flatMap Outcome.tokens,
      t.kind ≠ .endOfInput) :
    ∃ c entries, 1 ≤ c.line ∧ c.offset ≤ source.length
      ∧ GoesOn (alone echoes (.ofText source) past).1 echoes c entries (source.drop c.offset)
        (c.line - 1) := by
  obtain ⟨passed, hreached⟩ := Cursor.reached_pullAll past (Cursor.reached_ofText source)
  obtain ⟨outcomes, hrun, htokens⟩ := performAll_pulls (.empty echoes) (.ofText source) past
  have halone : alone echoes (.ofText source) past = _ := hrun
  rw [halone, htokens] at h
  have hf := Cursor.not_finished_of_forall_ne hreached h
  have hresumes := Cursor.resumes_of_passed hreached.toPassed hf
  rw [halone]
  exact ⟨_, (Scan.ofSteps ((Cursor.ofText source).pullAll past)).diagnostics,
    hreached.one_le_line, hreached.offset_le, goesOn_of_resumes hresumes⟩

/-- Taken up again behind a string over two lines, with a number that stops at a point ahead, and a
string that is left open. -/
theorem scan_resumed_below_string :
    (∀ t ∈ (alone false (.ofText "a // \"\n@ \"x\ny\" 12. \"z\n#".toList)
        [.next, .take 1]).2.flatMap Outcome.tokens, t.kind ≠ .endOfInput)
      ∧ ∃ c entries, c.offset = 14 ∧ c.line = 3
        ∧ GoesOn (alone false (.ofText "a // \"\n@ \"x\ny\" 12. \"z\n#".toList)
            [.next, .take 1]).1 false c entries " 12. \"z\n#".toList 2 := by
  have hopen : ∀ t ∈ (alone false (.ofText "a // \"\n@ \"x\ny\" 12. \"z\n#".toList)
      [.next, .take 1]).2.flatMap Outcome.tokens, t.kind ≠ .endOfInput := by decide +kernel
  obtain ⟨c, entries, _, _, hgoes⟩ := scan_resumed hopen
  have hplace : (alone false (.ofText "a // \"\n@ \"x\ny\" 12. \"z\n#".toList)
      [.next, .take 1]).1.scanners.map (fun s => (s.cursor.offset, s.cursor.line)) = [(14, 3)] := by
    decide +kernel
  rw [hgoes.session_eq] at hplace
  obtain ⟨hoffset, hline⟩ := Prod.mk.inj (List.cons.inj hplace).1
  rw [hoffset, hline] at hgoes
  exact ⟨hopen, c, entries, hoffset, hline, hgoes⟩

end Session

end LoxLexer
