/-
  The command line: hands the arguments, the script's file and the lines of the input to the
  command, and writes what it says.
-/
import LoxLexer.Command

namespace LoxLexer.Main

/-- Writes the pieces of a transcript on their streams. -/
def writeAll (written : Transcript) : IO Unit := do
  for w in written do
    let stream ← match w.stream with
      | .out => IO.getStdout
      | .err => IO.getStderr
    stream.putStr (String.ofList w.text)
    stream.flush

/-- Whether a name leads to anything, readable or not. -/
def leads (name : String) : IO Bool := do
  try
    discard (IO.FS.realPath name)
    return true
  catch _ => return false

/-- What stands at a path. What is there but cannot be read for another reason than its kind and
the rights to it is an error of its own. -/
def lookAt (path : Path) : IO (Except PathError Entry) := do
  let name := String.ofList path.text
  try
    let content ← IO.FS.readBinFile name
    return .ok (.file content.toList)
  catch e =>
    match e with
    | .inappropriateType _ code _ =>
      return if code = 21 then .ok .directory else .error .notDirectory
    | .invalidArgument _ code _ =>
      return .error (if code = -36 then .nameTooLong else .missing)
    -- the rights may be missing on the way, and a directory stays one without them
    | .permissionDenied .. =>
      if !(← leads name) then return .error .missing
      return .ok (if ← leads (name ++ "/") then .directory else .locked)
    | e => if ← leads name then throw e else return .error .missing

/-- Prompts for lines until the input ends. -/
partial def promptLoop (flags : Flags) (log : Log) : IO Unit := do
  writeAll [Prompt.invitation]
  let line ← (← IO.getStdin).getLine
  if line.isEmpty then
    writeAll [Prompt.farewell]
  else
    let mut current := log
    let mut first := true
    for piece in Text.lines (Text.unifyNewlines line.toList) do
      unless first do writeAll [Prompt.invitation]
      let (printed, after) := Prompt.turn flags current piece
      writeAll printed
      current := after
      first := false
    promptLoop flags current

/-- Writes an outcome and gives its exit status. -/
def finish : Except PathDefect Script.Outcome → IO UInt32
  | .ok outcome => do
    writeAll outcome.transcript
    return outcome.status.toUInt32
  | .error defect => do
    writeAll [Command.complaint defect.message]
    return 1

end LoxLexer.Main

open LoxLexer LoxLexer.Main in
/-- Runs the command. -/
def main (args : List String) : IO UInt32 := do
  match Invocation.ofArguments (args.map String.toList) with
  | .error e => finish (.ok (Command.misused (.switch e)))
  | .ok v =>
    match v.help, v.arguments with
    | false, [] =>
      promptLoop v.flags (.empty true)
      return 0
    | true, _ => finish (Command.perform v (fun _ => .error .missing) [])
    | false, script :: _ =>
      let found ← match Path.ofText script with
        | .ok path => lookAt path
        | .error _ => pure (.error .missing)
      finish (Command.perform v (fun _ => found) [])
