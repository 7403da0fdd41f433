/-
  Records built from named fields. Fields are looked up by name, fields with other names are
  ignored, and every field that is missing or of the wrong sort is reported, in the order of the
  record's fields.
-/
import LoxLexer.Json
import LoxLexer.Text.Numeral

namespace LoxLexer

/-- Field names with the values given for them. -/
abbrev Fields := List (Text × Json)

/-- What is wrong with a field. -/
inductive FieldProblem
  | missing
  | notInteger
  | unreadableInteger
  | integerTooLarge
  | notText
  | belowOne
  | notOneOf (choices : List Text)
deriving DecidableEq, Repr

/-- A field that stands in the way of building a record. -/
structure FieldError where
  field : Text
  problem : FieldProblem
deriving DecidableEq, Repr

namespace FieldProblem

/-- The choices in order, with commas between them and `or` before the last. -/
def alternatives : List Text → Text
  | [] => []
  | [c] => c
  | [c, d] => c ++ " or ".toList ++ d
  | c :: cs => c ++ ", ".toList ++ alternatives cs

/-- What the problem's message says, with its tag in brackets. -/
def message : FieldProblem → Text
  | missing => "Field required [missing]".toList
  | notInteger => "Input should be a valid integer [int_type]".toList
  | unreadableInteger =>
    "Input should be a valid integer, unable to parse string as an integer [int_parsing]".toList
  | integerTooLarge =>
    ("Unable to parse input string as an integer, exceeded maximum size "
      ++ "[int_parsing_size]").toList
  | notText => "Input should be a valid string [string_type]".toList
  | belowOne => "Input should be greater than or equal to 1 [greater_than_equal]".toList
  | notOneOf choices => "Input should be ".toList ++ alternatives choices ++ " [enum]".toList

end FieldProblem

/-- The message line of a field error. -/
def FieldError.message (e : FieldError) : Text := e.field ++ ": ".toList ++ e.problem.message

/-- The message of several field errors, a line for each. -/
def FieldError.messages (errors : List FieldError) : Text :=
  Text.joined ['\n'] (errors.map FieldError.message)

namespace Fields

/-- The field of a name, as `read` understands its value. -/
def require (fields : Fields) (name : Text) (read : Json → Except FieldProblem α) :
    Except FieldError α :=
  match fields.lookup name with
  | none => .error ⟨name, .missing⟩
  | some v => (read v).mapError (⟨name, ·⟩)

theorem exists_of_require {fields : Fields} {name : Text} {read : Json → Except FieldProblem α}
    {a : α} (h : fields.require name read = .ok a) :
    ∃ v, fields.lookup name = some v ∧ read v = .ok a := by
  unfold require at h
  split at h
  · cases h
  · rename_i v hv
    refine ⟨v, hv, ?_⟩
    cases hr : read v with
    | error e =>
      rw [hr] at h
      cases h
    | ok b =>
      rw [hr] at h
      cases h
      rfl

/-- Like `require`, but a field that is not given has the value `default`. -/
def optional (fields : Fields) (name : Text) (default : α)
    (read : Json → Except FieldProblem α) : Except FieldError α :=
  match fields.lookup name with
  | none => .ok default
  | some v => (read v).mapError (⟨name, ·⟩)

theorem optional_of_lookup {fields : Fields} {name : Text} {default a : α} {v : Json}
    {read : Json → Except FieldProblem α} (hv : fields.lookup name = some v)
    (hread : read v = .ok a) : fields.optional name default read = .ok a := by
  simp only [optional, hv, hread]
  rfl

/-- The errors of a field that could not be read. -/
def errors : Except FieldError α → List FieldError
  | .ok _ => []
  | .error e => [e]

end Fields

/-- A value where an integer is asked for, which may be spelt in a text. -/
def Json.asInteger : Json → Except FieldProblem Int
  | .integer n => .ok n
  | .text t =>
    match Text.toInteger t with
    | .ok n => .ok n
    | .error .unreadable => .error .unreadableInteger
    | .error .tooLong => .error .integerTooLarge
  | _ => .error .notInteger

/-- A value where a text is asked for. -/
def Json.asText : Json → Except FieldProblem Text
  | .text t => .ok t
  | _ => .error .notText

end LoxLexer
