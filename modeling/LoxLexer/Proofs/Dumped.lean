/-
  Dumped tokens. A dump holds no control characters but its line ends (`controls_indented`), as
  those of the tokens' texts are escaped; so it is printed as it is, has as many lines as its layout
  makes, and is read back as what was written. The tokens are then found again by the names of
  their kinds (`toJson_injective`). All of this for the output of a run: `dump_lossless`.
-/
import LoxLexer.Proofs.Printed
import LoxLexer.Proofs.ReadBack

namespace LoxLexer

namespace Text

/-- The control characters in a text. -/
def controls (t : Text) : Text := t.filter fun c => c.toNat < 0x20

variable {s t : Text} {c : Char}

theorem controls_append (s t : Text) : controls (s ++ t) = controls s ++ controls t :=
  List.filter_append s t

theorem controls_cons (h : 0x20 ≤ c.toNat) (t : Text) : controls (c :: t) = controls t :=
  List.filter_cons_of_neg (by simpa using h)

theorem controls_eq_nil (h : Json.noControl t = true) : controls t = [] := by
  rw [controls, List.filter_eq_nil_iff]
  intro c hc
  simpa using List.all_eq_true.mp h c hc

theorem le_toNat_of_mem_ofInt {n : Int} (h : c ∈ ofInt n) : 0x20 ≤ c.toNat := by
  cases hdigit : c.isDigit with
  | true =>
    have hbounds := Item.toNat_of_isDigit hdigit
    omega
  | false =>
    by_cases hminus : c = '-'
    · subst hminus
      decide
    · exact absurd h (notMem_ofInt hdigit hminus n)

theorem controls_ofInt (n : Int) : controls (ofInt n) = [] := by
  rw [controls, List.filter_eq_nil_iff]
  intro c hc
  simpa using le_toNat_of_mem_ofInt hc

/-- In a text whose control characters are line ends, nothing else below the space occurs, and
there are as many line ends as control characters. -/
theorem of_controls_eq_replicate {n : Nat} (h : controls t = List.replicate n '\n') :
    (∀ c ∈ t, c.toNat < 0x20 → c = '\n') ∧ newlines t = n := by
  constructor
  · intro c hc hlt
    have hmem : c ∈ controls t := List.mem_filter.mpr ⟨hc, by simpa using hlt⟩
    rw [h] at hmem
    exact (List.mem_replicate.mp hmem).2
  · have hcount := congrArg (List.count '\n') h
    rw [controls, List.count_filter (by decide), List.count_replicate_self] at hcount
    exact hcount

end Text

namespace Token

open Json Text

theorem controls_lineBreak (depth : Nat) : controls (Layout.indented.lineBreak depth) = ['\n'] := by
  have hspaces : controls (List.replicate (2 * depth) ' ') = [] := by
    simp [controls]
  have hline : controls ['\n'] = ['\n'] := by decide
  have hsplit : Layout.indented.lineBreak depth
      = ['\n'] ++ List.replicate (2 * depth) ' ' := rfl
  rw [hsplit, controls_append, hline, hspaces]
  rfl

/-- A dumped token takes five lines, so it holds four line ends. -/
theorem controls_toJson (depth : Nat) (t : Token) :
    controls (write .indented depth t.toJson) = List.replicate 4 '\n' := by
  have hquote : ∀ s, controls (quote s) = [] := fun s => controls_eq_nil (noControl_quote s)
  have hcolon : controls Layout.indented.colon = [] := by decide
  have hnil : controls [] = [] := rfl
  simp only [toJson, write_object_cons, write_text, write_integer, writeMembers_cons,
    writeMembers_nil, controls_append, controls_lineBreak, hquote, hcolon, hnil, controls_ofInt,
    controls_cons (c := '{') (by decide), controls_cons (c := ',') (by decide),
    controls_cons (c := '}') (by decide), List.append_nil]
  rfl

theorem controls_writeItems_toJson (depth : Nat) (tokens : List Token) :
    controls (writeItems .indented depth (tokens.map toJson))
      = List.replicate (5 * tokens.length) '\n' := by
  induction tokens with
  | nil => rfl
  | cons t tokens ih =>
    have hlength : 5 * (t :: tokens).length = 1 + 4 + 5 * tokens.length := by
      rw [List.length_cons]
      omega
    rw [List.map_cons, writeItems_cons, controls_append, controls_append,
      controls_cons (by decide), controls_lineBreak, controls_toJson, ih, hlength,
      List.replicate_add, List.replicate_add]
    rfl

/-- Every token takes five lines of a dump, and the list's brackets hold one line end more. -/
theorem controls_indented {tokens : List Token} (h : tokens ≠ []) :
    controls (Json.list (tokens.map toJson)).indented
      = List.replicate (5 * tokens.length + 1) '\n' := by
  obtain ⟨t, tokens, rfl⟩ := List.exists_cons_of_ne_nil h
  have hlength : 5 * (t :: tokens).length + 1 = 1 + 4 + 5 * tokens.length + 1 := by
    rw [List.length_cons]
    omega
  have hbracket : controls [']'] = [] := by decide
  rw [indented, List.map_cons, write_list_cons, controls_append, controls_append,
    controls_append, controls_append, controls_cons (by decide), controls_lineBreak,
    controls_lineBreak, controls_toJson, controls_writeItems_toJson, hbracket, List.append_nil,
    hlength, List.replicate_add, List.replicate_add, List.replicate_add]
  rfl

end Token

namespace Run

theorem tokens_ne_nil (source : Text) : (scan source).tokens ≠ [] := by
  rw [scan_tokens]
  exact List.concat_ne_nil _ _

/-- No control sequence begins in the JSON list of a text's tokens. -/
theorem stripControl_indented (source : Text) :
    Text.stripControl (Json.list ((scan source).tokens.map Token.toJson)).indented
      = (Json.list ((scan source).tokens.map Token.toJson)).indented := by
  have hcontrols := Token.controls_indented (tokens_ne_nil source)
  apply Text.stripControl_eq_self
  intro h
  have hnewline := (Text.of_controls_eq_replicate hcontrols).1 '\x1b' h (by decide)
  exact absurd hnewline (by decide)

theorem on_out_dump (source : Text) (verbose : Bool) (log : Log) :
    (perform ⟨true, verbose⟩ source log).1.on .out
      = (Json.list ((scan source).tokens.map Token.toJson)).indented ++ ['\n'] := by
  rw [on_out_perform, listed, if_pos rfl, stripControl_indented]

theorem controls_on_out_dump (source : Text) (verbose : Bool) (log : Log) :
    Text.controls ((perform ⟨true, verbose⟩ source log).1.on .out)
      = List.replicate (5 * (scan source).tokens.length + 2) '\n' := by
  have hend : Text.controls ['\n'] = List.replicate 1 '\n' := by decide
  rw [on_out_dump, Text.controls_append, Token.controls_indented (tokens_ne_nil source), hend,
    ← List.replicate_add]

theorem read?_on_out_dump (source : Text) (verbose : Bool) (log : Log) :
    Json.read? ((perform ⟨true, verbose⟩ source log).1.on .out)
      = some (.list ((scan source).tokens.map Token.toJson)) := by
  rw [on_out_dump]
  exact Json.read?_write _ _ _ (by simp [Json.IsGap, Json.isBlank])

/-- A dump loses nothing. It is one JSON list and a line end, both printed as they are, and is read
back as the list of the tokens, each an object of its kind's name, its text and its line. No
control characters stand in it but the line ends of its layout, five for each token and two more,
whatever characters the tokens' texts hold. So a text with the same dump has the same tokens. -/
theorem dump_lossless (source : Text) (verbose : Bool) (log : Log) :
    let tokens := (scan source).tokens
    let list : Json := .list (tokens.map fun t =>
      .object [("kind".toList, .text t.kind.name), ("lexeme".toList, .text t.lexeme),
        ("line".toList, .integer t.line)])
    let output := (perform ⟨true, verbose⟩ source log).1.on .out
    output = list.indented ++ ['\n']
      ∧ Text.stripControl list.indented = list.indented
      ∧ Json.read? list.indented = some list
      ∧ Json.read? output = some list
      ∧ (∀ c ∈ output, c.toNat < 0x20 → c = '\n')
      ∧ output.count '\n' = 5 * tokens.length + 2
      ∧ ∀ other verbose' log', (perform ⟨true, verbose'⟩ other log').1.on .out = output →
        (scan other).tokens = tokens := by
  intro tokens list output
  obtain ⟨hcontrols, hcount⟩ :=
    Text.of_controls_eq_replicate (controls_on_out_dump source verbose log)
  have hbody : Json.read? list.indented = some list := by
    have hgap : Json.IsGap [] := List.forall_mem_nil _
    have hread := Json.read?_write .indented 0 list hgap
    rwa [List.append_nil] at hread
  refine ⟨on_out_dump source verbose log, stripControl_indented source, hbody,
    read?_on_out_dump source verbose log, hcontrols, hcount, fun other verbose' log' heq => ?_⟩
  have hother := read?_on_out_dump other verbose' log'
  rw [heq, read?_on_out_dump source verbose log] at hother
  have hmap := (Json.list.inj (Option.some.inj hother)).symm
  exact List.map_injective_iff.mpr (fun _ _ => Token.toJson_injective) hmap

end Run

end LoxLexer
