/-
  Diagnostics: reports about a line of a program. A diagnostic is valid when its line is at
  least 1 (`check_eq_ok_iff`); only valid ones are ever recorded, and fields never make another
  (`valid_of_ofFields`). Its own members make it again, or are refused as it is
  (`ofFields_members`), and no other diagnostic has them (`members_injective`).
-/
import LoxLexer.Fault
import LoxLexer.Fields

namespace LoxLexer

/-- A report about a line. `place` says more on where in the line, as it is to be printed;
`fault` is the lexical error reported, if it is one. -/
structure Diagnostic where
  line : Int
  place : Text
  message : Text
  fault : Option Fault
deriving DecidableEq, Repr

namespace Diagnostic

/-- The report of a lexical error on a line. -/
def ofFault (line : Int) (fault : Fault) : Diagnostic := ⟨line, [], fault.message, some fault⟩

/-- The report in words, with all digits of its line number. -/
def toText (d : Diagnostic) : Text :=
  "[line ".toList ++ Text.ofInt d.line ++ "] Error".toList ++ d.place ++ ": ".toList ++ d.message

/-- The report in words as it is written out; its line number may have too many digits for it. -/
def writeText (d : Diagnostic) : Except Text.DigitsProblem Text :=
  (Text.writeInt d.line).map fun _ => d.toText

/-- A fault given by its message, or none. -/
def writeFault : Option Fault → Json
  | some f => .text f.message
  | none => .null

/-- The members of a diagnostic as an object. -/
def members (d : Diagnostic) : Fields :=
  [("line".toList, .integer d.line), ("where".toList, .text d.place),
    ("message".toList, .text d.message), ("kind".toList, writeFault d.fault)]

/-- A diagnostic as an object. -/
def toJson (d : Diagnostic) : Json := .object d.members

/-- Lines are counted from 1. -/
def Valid (d : Diagnostic) : Prop := 1 ≤ d.line

instance (d : Diagnostic) : Decidable d.Valid := inferInstanceAs (Decidable (1 ≤ d.line))

/-- A line number, which has to be at least 1. -/
def checkLine (n : Int) : Except FieldProblem Int := if 1 ≤ n then .ok n else .error .belowOne

/-- The diagnostic itself if it is valid, else what is wrong with it. -/
def check (d : Diagnostic) : Except (List FieldError) Diagnostic :=
  if d.Valid then .ok d else .error [⟨"line".toList, .belowOne⟩]

theorem check_eq_ok_iff {d e : Diagnostic} : d.check = .ok e ↔ d.Valid ∧ e = d := by
  unfold check
  split <;> rename_i h
  · simp [h, eq_comm]
  · simp [h]

theorem check_of_not_valid {d : Diagnostic} (h : ¬ d.Valid) :
    d.check = .error [⟨"line".toList, .belowOne⟩] := if_neg h

/-- The message texts of the faults in quotes, as an error message lists them. -/
def faultChoices : List Text := Fault.all.map fun f => '\'' :: f.message ++ ['\'']

/-- The fault with a given message, or none. -/
def readFault : Json → Except FieldProblem (Option Fault)
  | .null => .ok none
  | .text t =>
    match Fault.ofMessage? t with
    | some f => .ok (some f)
    | none => .error (.notOneOf faultChoices)
  | _ => .error (.notOneOf faultChoices)

/-- The diagnostic with the given fields, or everything that is wrong with them. -/
def ofFields (fields : Fields) : Except (List FieldError) Diagnostic :=
  match fields.require "line".toList (fun v => v.asInteger >>= checkLine),
    fields.optional "where".toList [] Json.asText,
    fields.require "message".toList Json.asText,
    fields.optional "kind".toList none readFault with
  | .ok line, .ok place, .ok message, .ok fault => .ok ⟨line, place, message, fault⟩
  | line, place, message, fault =>
    .error (Fields.errors line ++ Fields.errors place ++ Fields.errors message
      ++ Fields.errors fault)

theorem le_of_checkLine {n m : Int} (h : checkLine n = .ok m) : 1 ≤ m := by
  unfold checkLine at h
  split at h
  · cases h
    assumption
  · cases h

/-- Fields that make a diagnostic make a valid one. -/
theorem valid_of_ofFields {fields : Fields} {d : Diagnostic} (h : ofFields fields = .ok d) :
    d.Valid := by
  unfold ofFields at h
  split at h
  · rename_i line _ _ _ hline _ _ _
    cases h
    obtain ⟨v, _, hread⟩ := Fields.exists_of_require hline
    cases hv : v.asInteger with
    | error e =>
      rw [hv] at hread
      cases hread
    | ok n =>
      rw [hv] at hread
      exact le_of_checkLine hread
  · cases h

theorem readFault_writeFault (fault : Option Fault) :
    readFault (writeFault fault) = .ok fault := by
  cases fault with
  | none => rfl
  | some f => simp only [writeFault, readFault, Fault.ofMessage?_message]

/-- The members of a diagnostic make it again if it is valid, and are refused for its line if it
is not. -/
theorem ofFields_members (d : Diagnostic) : ofFields d.members = d.check := by
  have hline : d.members.require "line".toList (fun v => v.asInteger >>= checkLine)
      = (checkLine d.line).mapError (⟨"line".toList, ·⟩) := rfl
  have hplace : d.members.optional "where".toList [] Json.asText = .ok d.place := rfl
  have hmessage : d.members.require "message".toList Json.asText = .ok d.message := rfl
  have hfault : d.members.optional "kind".toList none readFault = .ok d.fault :=
    Fields.optional_of_lookup rfl (readFault_writeFault d.fault)
  by_cases h : d.Valid
  · have hcheck : checkLine d.line = .ok d.line := if_pos h
    rw [check_eq_ok_iff.mpr ⟨h, rfl⟩, ofFields, hline, hplace, hmessage, hfault, hcheck]
    rfl
  · have hcheck : checkLine d.line = .error .belowOne := if_neg h
    rw [check_of_not_valid h, ofFields, hline, hplace, hmessage, hfault, hcheck]
    rfl

/-- A diagnostic is known by its members, as its fault is by its message. -/
theorem members_injective {a b : Diagnostic} (h : a.members = b.members) : a = b := by
  obtain ⟨line, place, message, fault⟩ := a
  obtain ⟨line', place', message', fault'⟩ := b
  simp only [members, List.cons.injEq, Prod.mk.injEq, Json.text.injEq, Json.integer.injEq,
    true_and, and_true] at h
  obtain ⟨hline, hplace, hmessage, hfault⟩ := h
  have hread := readFault_writeFault fault
  rw [hfault, readFault_writeFault fault'] at hread
  rw [hline, hplace, hmessage, Except.ok.inj hread]

end Diagnostic

end LoxLexer
