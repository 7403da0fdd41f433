/-
  Ends of lines. Text from outside marks them by `'\n'`, `'\r'` or both together; `unifyNewlines`
  makes each a single `'\n'`, after which no `'\r'` is left (`not_mem_unifyNewlines`); it is the
  same to shorten every `'\r\n'` and then replace every `'\r'` that is left
  (`unifyNewlines_eq_map`). `takeLine` splits off the first line together with its end.
-/
import LoxLexer.Text

namespace LoxLexer.Text

/-- The text with every `'\r\n'` and every other `'\r'` replaced by `'\n'`. -/
def unifyNewlines : Text → Text
  | '\r' :: '\n' :: rest => '\n' :: unifyNewlines rest
  | c :: rest => (if c = '\r' then '\n' else c) :: unifyNewlines rest
  | [] => []

theorem not_mem_unifyNewlines (t : Text) : '\r' ∉ unifyNewlines t := by
  fun_induction unifyNewlines t with
  | case1 rest ih => simp [ih]
  | case2 c rest _ ih =>
    simp only [List.mem_cons, not_or, ih, not_false_eq_true, and_true]
    split
    · decide
    · rename_i h
      exact fun e => h e.symm
  | case3 => simp

/-- The text with every `'\r\n'` replaced by `'\n'`. -/
def shortenNewlines : Text → Text
  | '\r' :: '\n' :: rest => '\n' :: shortenNewlines rest
  | c :: rest => c :: shortenNewlines rest
  | [] => []

/-- Making the ends of lines one replaces every `'\r\n'` first, and then every `'\r'` that is
left. -/
theorem unifyNewlines_eq_map (t : Text) :
    unifyNewlines t = (shortenNewlines t).map fun c => if c = '\r' then '\n' else c := by
  fun_induction unifyNewlines t with
  | case1 rest ih => rw [shortenNewlines, List.map_cons, ih, if_neg (by decide)]
  | case2 c rest hpair ih =>
    have hcons : shortenNewlines (c :: rest) = c :: shortenNewlines rest := by
      rw [shortenNewlines]
      exact hpair
    rw [hcons, List.map_cons, ih]
  | case3 => rfl

/-- The first line with its line end, if it has one, and what follows. -/
def takeLine : Text → Text × Text
  | [] => ([], [])
  | c :: rest =>
    if c = '\n' then (['\n'], rest)
    else (c :: (takeLine rest).1, (takeLine rest).2)

theorem takeLine_append (t : Text) : (takeLine t).1 ++ (takeLine t).2 = t := by
  induction t with
  | nil => rfl
  | cons c rest ih =>
    unfold takeLine
    split
    · rename_i h
      simp [h]
    · simp [ih]

theorem length_takeLine_lt (c : Char) (rest : Text) :
    (takeLine (c :: rest)).2.length < (c :: rest).length := by
  have h := congrArg List.length (takeLine_append rest)
  rw [List.length_append] at h
  unfold takeLine
  split
  · simp
  · simp only [List.length_cons]
    omega

/-- The lines of a text. Each but the last ends in `'\n'`, and none is empty. -/
def lines : Text → List Text
  | [] => []
  | c :: rest => (takeLine (c :: rest)).1 :: lines (takeLine (c :: rest)).2
termination_by t => t.length
decreasing_by exact length_takeLine_lt c rest

theorem lines_nil : lines [] = [] := by rw [lines]

theorem lines_cons (c : Char) (rest : Text) :
    lines (c :: rest) = (takeLine (c :: rest)).1 :: lines (takeLine (c :: rest)).2 := by
  rw [lines]

/-- The lines of a text make up the text. -/
theorem flatten_lines (t : Text) : (lines t).flatten = t := by
  fun_induction lines t with
  | case1 => rfl
  | case2 c rest ih => rw [List.flatten_cons, ih, takeLine_append]

end LoxLexer.Text
