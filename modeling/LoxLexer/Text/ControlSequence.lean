/-
  Terminal control sequences: escape and `[`, then parameter characters, then intermediate
  characters, then one final character. `stripControl` removes them from a text from left to
  right; an escape that begins no whole sequence stays (`stripControl_cons`), and a text without
  escapes stays as it is (`stripControl_eq_self`).
-/
import LoxLexer.Text

namespace LoxLexer.Text

/-- The characters `0` to `?`. -/
def isParameter (c : Char) : Bool := 0x30 ≤ c.toNat && c.toNat ≤ 0x3f

/-- The characters from the space to `/`. -/
def isIntermediate (c : Char) : Bool := 0x20 ≤ c.toNat && c.toNat ≤ 0x2f

/-- The characters `@` to `~`. -/
def isFinal (c : Char) : Bool := 0x40 ≤ c.toNat && c.toNat ≤ 0x7e

/-- What follows the control sequence with which a text begins, if it begins with one. -/
def afterControl? : Text → Option Text
  | '\x1b' :: '[' :: rest =>
    match (rest.dropWhile isParameter).dropWhile isIntermediate with
    | c :: after => if isFinal c then some after else none
    | [] => none
  | _ => none

theorem length_dropWhile_le (p : Char → Bool) (t : Text) : (t.dropWhile p).length ≤ t.length :=
  (List.dropWhile_suffix p).length_le

theorem length_afterControl?_lt {t after : Text} (h : afterControl? t = some after) :
    after.length < t.length := by
  unfold afterControl? at h
  split at h
  · rename_i rest
    split at h
    · rename_i c after' hdrop
      split at h
      · obtain rfl := Option.some.inj h
        have h1 := length_dropWhile_le isIntermediate (rest.dropWhile isParameter)
        have h2 := length_dropWhile_le isParameter rest
        rw [hdrop] at h1
        simp only [List.length_cons] at h1 ⊢
        omega
      · simp at h
    · simp at h
  · simp at h

/-- The text without its control sequences. -/
def stripControl : Text → Text
  | [] => []
  | c :: rest =>
    match _ : afterControl? (c :: rest) with
    | some after => stripControl after
    | none => c :: stripControl rest
termination_by t => t.length
decreasing_by
  · exact length_afterControl?_lt ‹_›
  · exact Nat.lt_succ_self _

theorem stripControl_nil : stripControl [] = [] := by rw [stripControl]

theorem stripControl_of_control {c : Char} {rest after : Text}
    (h : afterControl? (c :: rest) = some after) :
    stripControl (c :: rest) = stripControl after := by
  rw [stripControl]
  split <;> simp_all

theorem stripControl_cons {c : Char} {rest : Text} (h : afterControl? (c :: rest) = none) :
    stripControl (c :: rest) = c :: stripControl rest := by
  rw [stripControl]
  split <;> simp_all

theorem afterControl?_of_ne {c : Char} (h : c ≠ '\x1b') (rest : Text) :
    afterControl? (c :: rest) = none := by
  unfold afterControl?
  split
  · simp_all
  · rfl

theorem stripControl_eq_self {t : Text} (h : '\x1b' ∉ t) : stripControl t = t := by
  induction t with
  | nil => exact stripControl_nil
  | cons c rest ih =>
    simp only [List.mem_cons, not_or] at h
    rw [stripControl_cons (afterControl?_of_ne (fun e => h.1 e.symm) rest), ih h.2]

end LoxLexer.Text
