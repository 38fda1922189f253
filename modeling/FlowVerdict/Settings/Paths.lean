import FlowVerdict.Files.Error
import FlowVerdict.Files.Path
import FlowVerdict.Settings.Reader

/-!
Settings from a file. The paths of models in it are relative to its directory.
-/

namespace FlowVerdict.Settings

/-- The settings with the paths of their models seen from where `base` stands. -/
def resolvePaths (base : String) (s : Settings) : Settings :=
  { s with
    models := s.models.map fun (name, m) =>
      (name, { m with path := m.path.map (Path.join base) }) }

/-- The settings under a path, given what was found there. -/
def ofFile (path : String) (found : Except FileError (List UInt8)) :
    Except SettingsError Settings := do
  match found.bind FileError.textOf? with
  | .error cause => throw (.unreadable path cause)
  | .ok text =>
    let s ← ofToml text
    return (Path.parent? path).elim s s.resolvePaths

end FlowVerdict.Settings
