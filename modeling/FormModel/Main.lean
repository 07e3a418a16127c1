import FormModel.CommandLine

/-!
The program: reads the files that the call needs, carries out the call, and prints and writes what comes
of it.
-/

namespace FormModel.Program

/-- The number and the text of an error of the system. -/
def systemError (e : IO.Error) : SystemError :=
  match e with
  | .noFileOrDirectory _ number text => ⟨text, number.toNat⟩
  | .inappropriateType _ number text => ⟨text, number.toNat⟩
  | .permissionDenied _ number text => ⟨text, number.toNat⟩
  | other => ⟨toString other, 0⟩

/-- What stands at a path. -/
def fileState (path : String) : IO FileState := do
  try return .content (← IO.FS.readBinFile path)
  catch e =>
    let e := systemError e
    return if e.number = SystemError.noSuchFile.number || e.number = SystemError.notADirectory.number
      then .missing else .unreadable e

/-- What a call can see. -/
def surroundings (call : Invocation) : IO Surroundings := do
  match call with
  | .command c =>
    let (fromInput, files) := (CommandLine.paths c).partition CommandLine.isInput
    let states ← files.mapM fun path => return (path, ← fileState path)
    let input ← if fromInput.isEmpty then pure ByteArray.empty else (← IO.getStdin).readBinToEnd
    return ⟨fun path => (Dict.get? states path).getD .missing, input⟩
  | _ => return ⟨fun _ => .missing, ByteArray.empty⟩

/-- Prints what comes of a call. -/
def present (o : Outcome) : IO UInt32 := do
  (← IO.getStdout).putStr o.output
  (← IO.getStderr).putStr o.errors
  return o.code.toUInt32

end FormModel.Program

open FormModel Program in
/-- Carries out the call that the arguments make, and returns the exit code. -/
def main (args : List String) : IO UInt32 := do
  let call := Invocation.ofArguments args
  let o := CommandLine.run call (← surroundings call)
  match o.written with
  | none => present o
  | some (path, text) =>
    try
      IO.FS.writeFile path text
      present o
    catch e => present (Outcome.afterFailedWrite path (systemError e))
