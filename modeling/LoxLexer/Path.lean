/-
  Paths: names separated by slashes. A text that holds NUL is no path, every other is one
  (`ofText_eq_ok_iff`).
-/
import LoxLexer.Text

namespace LoxLexer

/-- Why a text is no path. -/
inductive PathDefect
  | holdsNul
deriving DecidableEq, Repr

/-- What is said about a text that is no path. -/
def PathDefect.message : PathDefect → Text
  | holdsNul => "embedded null byte".toList

/-- A path as it is written. -/
structure Path where
  text : Text
  nul_not_mem : '\x00' ∉ text
deriving DecidableEq, Repr

namespace Path

/-- The path that a text is. -/
def ofText (t : Text) : Except PathDefect Path :=
  if h : '\x00' ∈ t then .error .holdsNul else .ok ⟨t, h⟩

theorem ofText_eq_ok_iff {t : Text} {p : Path} : ofText t = .ok p ↔ p.text = t := by
  unfold ofText
  constructor
  · intro h
    split at h
    · cases h
    · cases h
      rfl
  · rintro rfl
    rw [dif_neg p.nul_not_mem]

/-- The parts of a text between its slashes. -/
def parts : Text → List Text
  | [] => [[]]
  | c :: rest =>
    if c = '/' then [] :: parts rest
    else
      match parts rest with
      | [] => [[c]]
      | name :: more => (c :: name) :: more

/-- The names of a path. -/
def names (path : Path) : List Text := parts path.text

end Path

end LoxLexer
