/-
  Reading printed tokens. Each is a kind's name, the token's text and a line number, with a space
  between them and a line end behind. The token's text may itself hold spaces and line ends, but
  then it stands in quotes: what begins with a quote goes up to the next quote, anything else up to
  a space.
-/
import LoxLexer.Token

namespace LoxLexer

/-- The kind with a given name, if there is one. -/
def TokenKind.ofName? (name : Text) : Option TokenKind := all.find? fun kind => kind.name == name

theorem TokenKind.ofName?_name (kind : TokenKind) : ofName? kind.name = some kind := by
  unfold ofName?
  cases h : all.find? fun k => k.name == kind.name with
  | none =>
    rw [List.find?_eq_none] at h
    exact absurd (beq_self_eq_true _) (h kind (mem_all kind))
  | some k =>
    have hname : k.name = kind.name := by simpa using List.find?_some h
    rw [name_injective hname]

namespace Token

/-- A token's text at the beginning of a text, and what follows it. -/
def readLexeme : Text → Text × Text
  | '"' :: rest => ('"' :: rest.takeWhile (· != '"') ++ ['"'], (rest.dropWhile (· != '"')).drop 1)
  | t => (t.takeWhile (· != ' '), t.dropWhile (· != ' '))

/-- A token at the beginning of a text, if a kind's name stands there, and what follows it. -/
def readToken (t : Text) : Option (Token × Text) :=
  let (lexeme, behind) := readLexeme ((t.dropWhile (· != ' ')).drop 1)
  let number := behind.drop 1
  (TokenKind.ofName? (t.takeWhile (· != ' '))).map fun kind =>
    (⟨kind, lexeme, Text.valueOfDigits (number.takeWhile Char.isDigit)⟩,
      (number.dropWhile Char.isDigit).drop 1)

theorem readLexeme_suffix (t : Text) : (readLexeme t).2 <:+ t := by
  unfold readLexeme
  split
  · exact ((List.drop_suffix 1 _).trans (List.dropWhile_suffix _)).trans (List.suffix_cons _ _)
  · exact List.dropWhile_suffix _

/-- What follows a token is shorter at least by the space behind its kind's name. -/
theorem length_readToken_lt {t rest : Text} {token : Token} (hne : t ≠ [])
    (h : readToken t = some (token, rest)) : rest.length < t.length := by
  obtain ⟨kind, _, hkind⟩ := Option.map_eq_some_iff.mp h
  have hrest : rest <:+ (t.dropWhile (· != ' ')).drop 1 := by
    rw [← (Prod.mk.inj hkind).2]
    exact (((List.drop_suffix 1 _).trans (List.dropWhile_suffix _)).trans
      (List.drop_suffix 1 _)).trans (readLexeme_suffix _)
  have hname := (List.dropWhile_suffix (l := t) (· != ' ')).length_le
  have hdrop := hrest.length_le
  have hpos := List.length_pos_iff.mpr hne
  rw [List.length_drop] at hdrop
  omega

/-- All tokens of a text that consists of printed ones. -/
def readAll : Text → Option (List Token)
  | [] => some []
  | c :: t =>
    match _ : readToken (c :: t) with
    | none => none
    | some (token, rest) => (readAll rest).map (token :: ·)
termination_by t => t.length
decreasing_by exact length_readToken_lt (List.cons_ne_nil c t) ‹_›

theorem readAll_nil : readAll [] = some [] := by rw [readAll]

theorem readAll_of_readToken {t rest : Text} {token : Token} (hne : t ≠ [])
    (h : readToken t = some (token, rest)) : readAll t = (readAll rest).map (token :: ·) := by
  obtain ⟨c, t, rfl⟩ := List.exists_cons_of_ne_nil hne
  rw [readAll]
  split <;> simp_all

end Token

end LoxLexer
