import FlowVerdict.Console.Report
import FlowVerdict.Monitor.Assembly
import FlowVerdict.Settings.Paths
import FlowVerdict.Trace.Replay

/-!
The commands. What they need of the world around them, the files and a clock, is a parameter, so
that they run on the files of a machine as well as on files that are data.
-/

namespace FlowVerdict.Console

/-- Files and a clock that counts milliseconds. -/
structure Surroundings (m : Type → Type) where
  /-- Whether there is something under a path. -/
  probe : String → m (Except FileError Unit)
  /-- The bytes of the file under a path. -/
  read : String → m (Except FileError (List UInt8))
  /-- The text becomes the content of the file under a path. -/
  write : String → String → m (Except FileError Unit)
  now : m Nat

/-- Why a command fails. -/
inductive Failure where
  | loading (path : String) (cause : SettingsError)
  | building (path : String) (cause : SettingsError)
  | overflow
  | opening (path : String) (cause : FileError)
  | creating (path : String) (cause : FileError)
  | reading (path : String) (cause : FileError)
  | record (path : String) (line : Nat) (fault : TraceFault)
  | payload (fault : Text.Hex.Fault)

def settingsMessage (error : SettingsError) : String :=
  match error with
  | .unreadable _ cause => error.message ++ ": " ++ cause.message
  | _ => error.message

def Failure.message : Failure → String
  | .loading path cause => "loading " ++ path ++ ": " ++ settingsMessage cause
  | .building path cause => "building engine from " ++ path ++ ": " ++ settingsMessage cause
  | .overflow => "attempt to multiply with overflow"
  | .opening path cause => "opening " ++ path ++ ": " ++ cause.message
  | .creating path cause => "creating " ++ path ++ ": " ++ cause.message
  | .reading path cause => "reading " ++ path ++ ": " ++ cause.message
  | .record path line fault => path ++ ":" ++ toString line ++ ": " ++ fault.message
  | .payload fault => payloadMessage fault

/-- Why there is no monitor with the settings under a path. -/
def buildingFailure (path : String) : AssemblyFault → Failure
  | .refused error => .building path error
  | .overflow => .overflow

/-- What a command leaves behind: its exit code and the texts for the two outputs. -/
structure Outcome where
  code : UInt32
  output : String
  error : String
deriving DecidableEq

variable {m : Type → Type} [Monad m]

/-- A step that may fail, with the failure told where it happens. -/
def attempt {ε α : Type} (failure : ε → Failure) (step : m (Except ε α)) : ExceptT Failure m α :=
  (ExceptT.mk step).adapt failure

def loadSettings (world : Surroundings m) (path : String) : ExceptT Failure m Settings :=
  attempt (.loading path) do return Settings.ofFile path (← world.read path)

def loadMonitor (world : Surroundings m) (path : String) :
    ExceptT Failure m (Monitor (Pool Unit)) := do
  let settings ← loadSettings world path
  let readText (file : String) := do return (← world.read file).bind FileError.textOf?
  attempt (buildingFailure path) (Monitor.load readText settings).run

/-- The settings under a path are checked together with their models. -/
def check (world : Surroundings m) (path : String) (format : Format) :
    ExceptT Failure m String := do
  let monitor ← loadMonitor world path
  return format.write (settingsReport monitor path)

def classify (world : Surroundings m) (spelling : String) (source target : UInt16)
    (settings : Option String) (format : Format) : ExceptT Failure m String := do
  let payload : Payload ← attempt .payload (pure (Text.Hex.decode (Text.trim spelling)))
  let settings : FingerprintSettings ← match settings with
    | some path => do pure (← loadSettings world path).fingerprint
    | none => pure {}
  let finding := settings.fingerprint.inspect payload source target
  return format.write (payloadReport finding payload.statistics)

/-- Why a replay that stopped failed. -/
def replayFailure (path : String) : ReplayFault → Failure
  | .notText => .reading path .notText
  | .record line fault => .record path line fault

/-- A trace is replayed. The log is emptied before the trace is read, and written however far the
replay comes. -/
def replay (world : Surroundings m) (settings trace : String) (log : Option String)
    (format : Format) : ExceptT Failure m String := do
  let monitor ← loadMonitor world settings
  attempt (.opening trace) (world.probe trace)
  let write (text : String) : ExceptT Failure m Unit := match log with
    | some path => attempt (.creating path) (world.write path text)
    | none => return
  write ""
  let start ← (world.now : m Nat)
  let bytes ← attempt (.reading trace) (world.read trace)
  let (replay, fault) := Replay.trace monitor (.start (Pool.start ())) bytes
  write replay.logText
  if let some fault := fault then throw (replayFailure trace fault)
  let stop ← (world.now : m Nat)
  return format.write (replayReport monitor replay.state replay.records (stop - start))

def perform (world : Surroundings m) (invocation : Invocation) : ExceptT Failure m String :=
  match invocation.command with
  | .replay settings trace log => replay world settings trace log invocation.format
  | .check settings => check world settings invocation.format
  | .classify payload source target settings =>
    classify world payload source target settings invocation.format

/-- The arguments of the command line carried out. Arguments that spell no invocation have an exit
code of their own. -/
def run (world : Surroundings m) (environment : String → Option String) (arguments : List String) :
    m Outcome := do
  match Invocation.ofArguments? environment arguments with
  | none => return ⟨2, "", ""⟩
  | some invocation =>
    match ← (perform world invocation).run with
    | .ok output => return ⟨0, output, ""⟩
    -- A panic has an exit code of its own, and its message is not introduced.
    | .error .overflow => return ⟨101, "", Failure.overflow.message ++ "\n"⟩
    | .error failure => return ⟨1, "", "Error: " ++ failure.message ++ "\n"⟩

end FlowVerdict.Console
