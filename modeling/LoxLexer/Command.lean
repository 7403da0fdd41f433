/-
  The command: shows its help, runs a script, or prompts for lines. Its exit status is 0, or 65
  after errors in a script, or 1 when the script is no text, or 2 when the arguments are wrong or
  name no file that may be read; in the last two cases it writes the one report of what is wrong
  and nothing else. A script whose name is no path is not looked for, and the command comes to
  nothing.
-/
import LoxLexer.Command.Invocation
import LoxLexer.Prompt
import LoxLexer.Script

namespace LoxLexer

/-- Wrong use of the command. -/
inductive UsageError
  | switch (e : SwitchError)
  | noScript (path : Path)
  | scriptIsDirectory (path : Path)
  | scriptIsLocked (path : Path)
  | extraArguments (args : List Text)
deriving DecidableEq, Repr

namespace UsageError

/-- What is said about the error. -/
def message : UsageError → Text
  | switch (.unknown name) => "No such option ".toList ++ Text.quoted name ++ ['.']
  | switch (.takesNoValue name) =>
    "Option ".toList ++ Text.quoted name ++ " does not take a value.".toList
  | noScript path =>
    "Invalid value for '[SCRIPT]': File ".toList ++ Text.quoted path.text
      ++ " does not exist.".toList
  | scriptIsDirectory path =>
    "Invalid value for '[SCRIPT]': File ".toList ++ Text.quoted path.text
      ++ " is a directory.".toList
  | scriptIsLocked path =>
    "Invalid value for '[SCRIPT]': File ".toList ++ Text.quoted path.text
      ++ " is not readable.".toList
  | extraArguments args =>
    (match args with
      | [_] => "Got unexpected extra argument (".toList
      | _ => "Got unexpected extra arguments (".toList)
      ++ Text.joined [' '] args ++ [')']

/-- Whether the report of the error begins with the way to use the command. -/
def showsUsage : UsageError → Bool
  | switch (.takesNoValue _) => false
  | _ => true

end UsageError

namespace Command

/-- How the command is used. -/
def usage : Text := "Usage: rox [OPTIONS] [SCRIPT]\n".toList

/-- What is shown when help is asked for. -/
def help : Text :=
  usage
    ++ "\n  Scan SCRIPT, or start an interactive prompt when no SCRIPT is given.\n".toList
    ++ "\nOptions:\n".toList
    ++ "  -h, --help     Show this message and exit.\n".toList
    ++ "  --dump-tokens  Print the tokens as JSON\n".toList
    ++ "  -v, --verbose  Enable debug logging".toList

/-- A report of what is wrong. -/
def complaint (message : Text) : Write := .line .err ("Error: ".toList ++ message)

/-- The command used wrongly. -/
def misused (e : UsageError) : Script.Outcome :=
  ⟨(if e.showsUsage then [Write.line .err usage] else []) ++ [complaint e.message], 2⟩

/-- The command on a script that has been read. -/
def ofScript (flags : Flags) (path : Path) (content : List UInt8) : Script.Outcome :=
  match Script.read content with
  | .ok source => Script.run flags source
  | .error e => ⟨[complaint (e.message path)], 1⟩

/-- The command without a script. -/
def ofPrompt (flags : Flags) (input : Text) : Script.Outcome :=
  ⟨Prompt.perform flags (.empty true) (Text.unifyNewlines input), 0⟩

/-- The command on the script at a path, with further arguments. -/
def ofPath (flags : Flags) (extra : List Text) (look : Path → Except PathError Entry)
    (path : Path) : Script.Outcome :=
  match look path with
  | .error _ => misused (.noScript path)
  | .ok .directory => misused (.scriptIsDirectory path)
  | .ok .locked => misused (.scriptIsLocked path)
  | .ok (.file content) =>
    if extra = [] then ofScript flags path content else misused (.extraArguments extra)

/-- What is asked for, done with what `look` finds at a path and with the input. -/
def perform (v : Invocation) (look : Path → Except PathError Entry) (input : Text) :
    Except PathDefect Script.Outcome :=
  if v.help then .ok ⟨[.line .out help], 0⟩
  else
    match v.arguments with
    | [] => .ok (ofPrompt v.flags input)
    | script :: extra => (Path.ofText script).map (ofPath v.flags extra look)

/-- The command with its arguments, among the files of a tree, with its input. -/
def run (args : List Text) (files : FileTree) (input : Text) :
    Except PathDefect Script.Outcome :=
  match Invocation.ofArguments args with
  | .error e => .ok (misused (.switch e))
  | .ok v => perform v files.lookup input

/-- The arguments are to run one script, and a file with this content stands at its path. -/
structure GivesFile (args : List Text) (files : FileTree) (flags : Flags) (path : Path)
    (content : List UInt8) : Prop where
  arguments : Invocation.ofArguments args = .ok ⟨false, flags, [path.text]⟩
  found : files.lookup path = .ok (.file content)

/-- The arguments are to run one script, and what stands there among the files is the program text
`source`. -/
def RunsScript (args : List Text) (files : FileTree) (flags : Flags) (source : Text) : Prop :=
  ∃ path content, GivesFile args files flags path content ∧ Script.read content = .ok source

variable {args : List Text} {files : FileTree} {flags : Flags} {path : Path}

theorem run_of_path {extra : List Text}
    (h : Invocation.ofArguments args = .ok ⟨false, flags, path.text :: extra⟩)
    (files : FileTree) (input : Text) :
    run args files input = .ok (ofPath flags extra files.lookup path) := by
  have hpath : Path.ofText path.text = .ok path := Path.ofText_eq_ok_iff.mpr rfl
  rw [run, h]
  simp only [perform, Bool.false_eq_true, if_false, hpath]
  rfl

theorem run_of_givesFile {content : List UInt8} (h : GivesFile args files flags path content)
    (input : Text) : run args files input = .ok (ofScript flags path content) := by
  rw [run_of_path h.arguments, ofPath, h.found]
  rfl

theorem run_of_runsScript {source : Text} (h : RunsScript args files flags source)
    (input : Text) : run args files input = .ok (Script.run flags source) := by
  obtain ⟨path, content, hgives, hread⟩ := h
  rw [run_of_givesFile hgives, ofScript, hread]

/-- A script in another directory than the current one, named from the root and from there. -/
example :
    let files : FileTree := ⟨[(["d".toList, "f".toList], .file [64, 13])], ["e".toList]⟩
    RunsScript ["/d/f".toList, "-v".toList] files ⟨false, true⟩ "@\n".toList
      ∧ RunsScript ["-v".toList, "../d/f".toList] files ⟨false, true⟩ "@\n".toList :=
  ⟨⟨⟨"/d/f".toList, by decide⟩, [64, 13], ⟨rfl, by cbv⟩, by cbv⟩,
    ⟨"../d/f".toList, by decide⟩, [64, 13], ⟨rfl, by cbv⟩, by cbv⟩

end Command

end LoxLexer
