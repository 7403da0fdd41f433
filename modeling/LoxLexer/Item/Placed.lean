/-
  Items in their places. The place of an item is the text before it, which fixes its offset and
  its line. A scan read off placed items (`Scan.ofItems`) has a token for every token item, on
  the line where the item begins, and a diagnostic for every fault: on the line of the character
  that was not expected, or on the last line when a string is not closed.
-/
import LoxLexer.Scan

namespace LoxLexer

/-- An item and all text before it. -/
structure Placed where
  before : Text
  item : Item
deriving DecidableEq, Repr

namespace Placed

/-- Items in order, each with the text before it; `before` stands before the first. -/
def ofItems (before : Text) : List Item → List Placed
  | [] => []
  | item :: items => ⟨before, item⟩ :: ofItems (before ++ item.text) items

/-- The offset behind an item. -/
def endOffset (p : Placed) : Nat := p.before.length + p.item.text.length

/-- The line on which an item begins. -/
def line (p : Placed) : Nat := 1 + Text.newlines p.before

/-- The token that an item is, if it is one. -/
def token? (p : Placed) : Option Token :=
  match p.item.shape with
  | .token kind => some ⟨kind, p.item.text, p.line⟩
  | _ => none

/-- The diagnostic of an item, if it is a fault. -/
def diagnostic? (p : Placed) : Option Diagnostic :=
  match p.item.shape with
  | .fault .unexpectedCharacter => some (.ofFault p.line .unexpectedCharacter)
  | .fault .unterminatedString =>
    some (.ofFault (1 + Text.newlines (p.before ++ p.item.text) : Nat) .unterminatedString)
  | _ => none

theorem ofItems_append (before : Text) (xs ys : List Item) :
    ofItems before (xs ++ ys)
      = ofItems before xs ++ ofItems (before ++ (xs.map Item.text).flatten) ys := by
  induction xs generalizing before with
  | nil => simp [ofItems]
  | cons x xs ih => simp [ofItems, ih]

end Placed

/-- The scan of a text that consists of the given items. -/
def Scan.ofItems (items : List Item) : Scan :=
  let placed := Placed.ofItems [] items
  let last := 1 + Text.newlines (items.map Item.text).flatten
  ⟨placed.filterMap Placed.token? ++ [.endOfInput (last : Nat)],
    placed.filterMap Placed.diagnostic?⟩

end LoxLexer
