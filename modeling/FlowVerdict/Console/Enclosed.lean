import FlowVerdict.Console.Commands
import FlowVerdict.Files.Directory

/-!
A world of its own for the commands: files that are data, and a clock that stands still.
-/

namespace FlowVerdict.Console

/-- The surroundings of a command that works on a directory as data. -/
def enclosed : Surroundings (StateM Directory) where
  probe path := return (← get).probe path
  read path := return (← get).read path
  write path text := do
    match (← get).write path text.toUTF8.toList with
    | .ok files =>
      set files
      return .ok ()
    | .error cause => return .error cause
  now := return 0

/-- What a command comes to in a directory, and the directory after it. -/
def runEnclosed (environment : String → Option String) (arguments : List String)
    (files : Directory) : Outcome × Directory :=
  (run enclosed environment arguments).run files

end FlowVerdict.Console
