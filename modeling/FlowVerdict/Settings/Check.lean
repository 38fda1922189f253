import FlowVerdict.Files.Error
import FlowVerdict.Settings.Basic

/-!
What is wrong with settings. The checks come in a fixed order and the first that fails is reported:
the window, the fingerprint, the flows, scoring, each model in the order of the names with its
features before its rules, and last the choice of the classifier.
-/

namespace FlowVerdict

inductive SettingsFault where
  | windowSize
  | windowPadding
  | popcountBand (low high : Float)
  | passOnDetect
  | flowTimes
  | shards (count : Nat)
  | scoringLimits
  | noFeatures (model : String)
  | noScorer (model : String)

def SettingsFault.message : SettingsFault → String
  | .windowSize => "window.size must be at least 1"
  | .windowPadding => "window.padding must be finite"
  | .popcountBand low high =>
    let number (x : Float) : String := Decimal.Notation.message.write (.ofFloat x)
    "heuristic.popcount_band [" ++ number low ++ ", " ++ number high ++ "] must satisfy low < high"
  | .passOnDetect => "heuristic.on_detect must be \"drop\" or \"reset\""
  | .flowTimes => "flows.idle_timeout_ms and flows.sweep_interval_ms must be positive"
  | .shards count =>
    "flows.shards = " ++ toString count ++ " must be a power of two greater than 1"
  | .scoringLimits =>
    "oracle.timeout_ms, oracle.workers and oracle.queue_depth must be positive"
  | .noFeatures model => "model " ++ model ++ ": feature list is empty"
  | .noScorer model => "model classifier " ++ model ++ " needs a scoring oracle"

/-- Why there is no monitor with some settings. -/
inductive SettingsError where
  | unreadable (path : String) (cause : FileError)
  /-- The text spells no settings. -/
  | malformed
  | invalid (fault : SettingsFault)
  | missingModel
  | unknownModel (name : String)
  | channelOutOfRange (model : String) (rule channel channels : Nat)
  | inputLengthMismatch (model : String) (expected actual : Nat)
  | nonFiniteThreshold (model : String) (rule : Nat)
  | scoring (cause : ScoringError)

def SettingsError.message : SettingsError → String
  | .unreadable path cause => "failed to read " ++ path ++ ": " ++ cause.message
  | .malformed => "failed to parse config"
  | .invalid fault => "invalid config: " ++ fault.message
  | .missingModel => "classifier kind is \"model\" but no model is named"
  | .unknownModel name => "unknown model: " ++ name
  | .channelOutOfRange model rule channel channels =>
    "model " ++ model ++ ": rule " ++ toString rule ++ " reads channel " ++ toString channel ++
      " but the model has " ++ toString channels ++ " output channels"
  | .inputLengthMismatch model expected actual =>
    "model " ++ model ++ ": window produces " ++ toString actual ++
      " values but the model expects " ++ toString expected
  | .nonFiniteThreshold model rule =>
    "model " ++ model ++ ": rule " ++ toString rule ++ " threshold is not finite"
  | .scoring cause => cause.message

/-- The result of a check: nothing, or the first error. -/
abbrev Check := Except SettingsError Unit

def Check.require (condition : Bool) (error : SettingsError) : Check :=
  if condition then .ok () else .error error

def isPowerOfTwo (n : Nat) : Bool := n != 0 && n &&& (n - 1) == 0

/-- The window takes a packet and its padding is a number. -/
def WindowSettings.check (s : WindowSettings) : Check := do
  Check.require (s.size != 0) (.invalid .windowSize)
  Check.require s.padding.isFinite (.invalid .windowPadding)

/-- The band has two finite ends in order, and a detection has consequences. -/
def FingerprintSettings.check (s : FingerprintSettings) : Check := do
  Check.require (s.bandLow.isFinite && s.bandHigh.isFinite && s.bandLow < s.bandHigh)
    (.invalid (.popcountBand s.bandLow s.bandHigh))
  Check.require (s.onDetect != .pass) (.invalid .passOnDetect)

/-- Both times are positive, and the table has a power of two of parts, at least two. -/
def FlowSettings.check (s : FlowSettings) : Check := do
  Check.require (s.idleTimeout != 0 && s.sweepInterval != 0) (.invalid .flowTimes)
  match s.shards with
  | none => return
  | some n => Check.require (2 ≤ n && isPowerOfTwo n) (.invalid (.shards n))

def ScoringSettings.check (s : ScoringSettings) : Check :=
  Check.require (s.timeout != 0 && s.workers != 0 && s.queueDepth != 0) (.invalid .scoringLimits)

/-- Every rule from index `i` on has a finite threshold. -/
def Rules.checkThresholds (model : String) : (i : Nat) → Rules → Check
  | _, [] => .ok ()
  | i, rule :: rest => do
    Check.require rule.threshold.isFinite (.nonFiniteThreshold model i)
    Rules.checkThresholds model (i + 1) rest

def ModelSettings.check (name : String) (m : ModelSettings) : Check := do
  Check.require (!m.features.isEmpty) (.invalid (.noFeatures name))
  Rules.checkThresholds name 0 m.rules

namespace Settings

/-- The model that the classifier asks, by its name, if it asks one. -/
def activeModel? (s : Settings) : Except SettingsError (Option (String × ModelSettings)) :=
  match s.classifier.kind with
  | .fingerprint => .ok none
  | .model =>
    match s.classifier.model with
    | none => .error .missingModel
    | some name =>
      match s.models.lookup name with
      | none => .error (.unknownModel name)
      | some m => .ok (some (name, m))

/-- Everything that can be checked without a model at hand. -/
def check (s : Settings) : Check := do
  s.window.check
  s.fingerprint.check
  s.flows.check
  s.scoring.check
  s.models.forM fun (name, m) => m.check name
  let _ ← s.activeModel?

end Settings

/-- Every rule from index `i` on reads a channel of the model and has a finite threshold. -/
def Rules.checkAgainst (model : String) (shape : ModelShape) : (i : Nat) → Rules → Check
  | _, [] => .ok ()
  | i, rule :: rest => do
    Check.require (rule.channel < shape.channels)
      (.channelOutOfRange model i rule.channel shape.channels)
    Check.require rule.threshold.isFinite (.nonFiniteThreshold model i)
    Rules.checkAgainst model shape (i + 1) rest

end FlowVerdict
