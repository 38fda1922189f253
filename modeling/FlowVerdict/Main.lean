import FlowVerdict.Console.Commands

/-!
The command line on the files of the machine.
-/

namespace FlowVerdict

/-- The number of an error, which some calls report negated. -/
def errorNumber (code : UInt32) : UInt32 := min code (0 - code)

def fileError (e : IO.Error) : FileError :=
  match e with
  | .noFileOrDirectory .. => .missing
  | .inappropriateType _ code details | .otherError code details
  | .resourceExhausted _ code details | .permissionDenied _ code details
  | .invalidArgument _ code details =>
    let number := errorNumber code
    if number == 20 then .notDirectory
    else if number == 21 then .isDirectory
    else if number == 36 then .tooLong
    else .other (details ++ " (os error " ++ toString number ++ ")")
  | e => .other e.toString

/-- The outcome of a step that may raise an error. -/
def guarded {α : Type} (path : String) (step : IO α) : IO (Except FileError α) :=
  if path.toList.contains '\x00' then return .error .zeroInPath
  else try return .ok (← step) catch e => return .error (fileError e)

def machine : Console.Surroundings IO where
  probe path := guarded path do
    let _ ← IO.FS.Handle.mk path .read
  read path := guarded path do return (← IO.FS.readBinFile path).toList
  write path text := guarded path (IO.FS.writeFile path text)
  now := IO.monoMsNow

end FlowVerdict

/-- The command line: the outputs are printed, and the exit code is given back. -/
def main (arguments : List String) : IO UInt32 := do
  let settings ← IO.getEnv FlowVerdict.Console.settingsVariable
  let environment name := if name == FlowVerdict.Console.settingsVariable then settings else none
  let outcome ← FlowVerdict.Console.run FlowVerdict.machine environment arguments
  IO.print outcome.output
  IO.eprint outcome.error
  return outcome.code
