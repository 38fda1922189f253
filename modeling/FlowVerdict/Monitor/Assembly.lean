import FlowVerdict.Json.Reader
import FlowVerdict.Monitor.Basic
import FlowVerdict.Scoring.Library
import FlowVerdict.Settings.Check

/-!
How a monitor comes about from settings. The settings are checked first; a classifier that asks a
model then needs a scorer that knows the model, windows of the length that the model expects, and
rules that read the channels it has. The length of a window is a product of machine words that no
check bounds, and a product that is no word ends the attempt without an error to report.
-/

namespace FlowVerdict

inductive AssemblyFault where
  | refused (error : SettingsError)
  /-- A product of machine words is none. This is no error of the settings: the program panics. -/
  | overflow

/-- The monitor that settings describe, with a scorer for its model if there is one. -/
def Monitor.assemble {σ : Type} (settings : Settings) (scorer : Option (Scorer σ)) :
    Except AssemblyFault (Monitor σ) := do
  settings.check.mapError .refused
  match ← settings.activeModel?.mapError .refused with
  | none => return ⟨settings, .fingerprint settings.fingerprint.fingerprint⟩
  | some (name, model) =>
    match scorer with
    | none => throw (.refused (.invalid (.noScorer name)))
    | some scorer =>
      match scorer.shape name with
      | none => throw (.refused (.unknownModel name))
      | some shape =>
        let window := settings.window.shape model
        match window.inputLength? with
        | none => throw .overflow
        | some length =>
          (Check.require (shape.inputLength == length)
            (.inputLengthMismatch name shape.inputLength length)).mapError .refused
          (model.rules.checkAgainst name shape 0).mapError .refused
          return ⟨settings, .model ⟨name, window, model.rules, scorer⟩⟩

/-- The monitor that settings describe, with a source of evaluations behind the pool that the
settings ask for. -/
def Monitor.withBackend {σ : Type} (settings : Settings) (backend : Backend σ) :
    Except AssemblyFault (Monitor (Pool σ)) :=
  Monitor.assemble settings (some (Pool.scorer settings.scoring.limits backend))

/-- The library with the model whose description is the text found under a path, if it was found. -/
def ModelLibrary.add (library : ModelLibrary) (name path : String)
    (found : Except FileError String) : Except ScoringError ModelLibrary :=
  match found with
  | .error cause => .error (.unusable name (path ++ ": " ++ cause.message))
  | .ok text =>
    match (Json.Reader.document? text).bind LinearModel.ofJson? with
    | none => .error (.malformed name path)
    | some model => library.insert name model

/-- The library of all models with a path, in their order, the texts being found by `read`. -/
def ModelLibrary.load {m : Type → Type} [Monad m] (read : String → m (Except FileError String)) :
    ModelLibrary → List (String × ModelSettings) → ExceptT ScoringError m ModelLibrary
  | library, [] => return library
  | library, (name, model) :: rest => do
    match model.path with
    | none => load read library rest
    | some path =>
      let found ← (read path : m _)
      load read (← library.add name path found) rest

/-- The monitor that settings describe. Only settings whose classifier asks a model have their
models loaded. -/
def Monitor.load {m : Type → Type} [Monad m] (read : String → m (Except FileError String))
    (settings : Settings) : ExceptT AssemblyFault m (Monitor (Pool Unit)) := do
  match ← settings.activeModel?.mapError AssemblyFault.refused with
  | none => Monitor.assemble settings none
  | some _ =>
    let library ← (ModelLibrary.load read .empty settings.models).adapt fun cause =>
      AssemblyFault.refused (.scoring cause)
    Monitor.withBackend settings library.backend

end FlowVerdict
