/-
  Transcripts: what a program writes, piece by piece, on its two output streams. The text of one
  stream is what remains when the pieces of the other are left out.
-/
import LoxLexer.Text.ControlSequence

namespace LoxLexer

/-- Output and error output. -/
inductive Stream
  | out
  | err
deriving DecidableEq, Repr

/-- A piece of text written on a stream. -/
structure Write where
  stream : Stream
  text : Text
deriving DecidableEq, Repr

/-- A printed line: the text without its control sequences, and a line end. -/
def Write.line (stream : Stream) (t : Text) : Write := ⟨stream, Text.stripControl t ++ ['\n']⟩

/-- Pieces in the order in which they are written. -/
abbrev Transcript := List Write

namespace Transcript

/-- All that is written, the streams interleaved. -/
def text (t : Transcript) : Text := t.flatMap Write.text

/-- All that is written on a stream. -/
def on (stream : Stream) (t : Transcript) : Text := text (t.filter fun w => w.stream = stream)

theorem text_singleton (w : Write) : text [w] = w.text := List.flatMap_singleton ..

theorem text_append (s t : Transcript) : text (s ++ t) = text s ++ text t := List.flatMap_append

theorem on_append (stream : Stream) (s t : Transcript) :
    on stream (s ++ t) = on stream s ++ on stream t := by
  simp only [on, List.filter_append, text_append]

theorem on_cons (stream : Stream) (w : Write) (t : Transcript) :
    on stream (w :: t) = (if w.stream = stream then w.text else []) ++ on stream t := by
  by_cases h : w.stream = stream <;> simp [on, text, h]

theorem on_flatMap {α : Type} (stream : Stream) (f : α → Transcript) (list : List α) :
    on stream (list.flatMap f) = list.flatMap fun a => on stream (f a) := by
  induction list with
  | nil => rfl
  | cons a list ih => rw [List.flatMap_cons, on_append, ih, List.flatMap_cons]

/-- Lines printed on one stream are all that is written there, and nothing is on the other. -/
theorem on_map_line {α : Type} (stream other : Stream) (f : α → Text) (list : List α) :
    on other (list.map fun a => .line stream (f a))
      = if stream = other then list.flatMap fun a => Text.stripControl (f a) ++ ['\n'] else [] := by
  induction list with
  | nil => exact (ite_self _).symm
  | cons a list ih =>
    rw [List.map_cons, on_cons, ih, Write.line]
    by_cases h : stream = other <;> simp [h]

theorem on_eq_text {stream : Stream} {t : Transcript} (h : ∀ w ∈ t, w.stream = stream) :
    on stream t = text t := by
  rw [on, List.filter_eq_self.mpr (by simpa using h)]

theorem on_eq_nil {stream : Stream} {t : Transcript} (h : ∀ w ∈ t, w.stream ≠ stream) :
    on stream t = [] := by
  rw [on, List.filter_eq_nil_iff.mpr (by simpa using h)]
  rfl

end Transcript

end LoxLexer
