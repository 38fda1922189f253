import FlowVerdict.Payload.Fingerprint
import FlowVerdict.Policy.Ports
import FlowVerdict.Policy.Rules
import FlowVerdict.Scoring.Pool
import FlowVerdict.Window.Window

/-!
The settings of a monitor. Every section has defaults; without any settings the monitor judges
payloads by their fingerprint.
-/

namespace FlowVerdict

/-- How many packets a window takes, the value of what no packet filled, and whether a window that
is not full is scored when its flow closes. -/
structure WindowSettings where
  size : Nat := 10
  padding : Float32 := -1
  scorePartialOnClose : Bool := false

/-- The fingerprint, the verdict on a payload that bears it, and whether empty payloads are looked
at. -/
structure FingerprintSettings where
  bandLow : Float := 3.4
  bandHigh : Float := 4.6
  exemptPorts : List UInt16 := [80, 443]
  onDetect : Verdict := .drop
  inspectEmpty : Bool := false

/-- When flows leave the table: after how long without a packet, how often that is checked, and
whether they do when their connection closes. The number of parts of the table is no longer seen
once it is accepted. Times are in milliseconds. -/
structure FlowSettings where
  idleTimeout : Nat := 60000
  sweepInterval : Nat := 1000
  evictOnClose : Bool := true
  shards : Option Nat := none

/-- The time allowed for a score in milliseconds, the workers, the questions that may wait, and
whether a flow stays undecided for want of an answer. -/
structure ScoringSettings where
  timeout : Nat := 50
  workers : Nat := 1
  queueDepth : Nat := 256
  rescoreOnFailure : Bool := false

/-- What judges the packets of a flow. -/
inductive ClassifierKind where
  | fingerprint
  | model
deriving DecidableEq, Inhabited

structure ClassifierSettings where
  kind : ClassifierKind := .fingerprint
  model : Option String := none

/-- A model: the file that describes it, the features and layout of its windows, and the rules on
its answers. -/
structure ModelSettings where
  path : Option String := none
  features : List Feature := [.payloadLength, .direction]
  layout : Layout := .concatenated
  rules : Rules := []

structure Settings where
  window : WindowSettings := {}
  fingerprint : FingerprintSettings := {}
  flows : FlowSettings := {}
  scoring : ScoringSettings := {}
  classifier : ClassifierSettings := {}
  models : List (String × ModelSettings) := []
  ports : PortPolicy := ⟨[], .drop, [], .drop⟩

def FingerprintSettings.fingerprint (s : FingerprintSettings) : Fingerprint :=
  ⟨s.bandLow, s.bandHigh, s.exemptPorts⟩

def ScoringSettings.limits (s : ScoringSettings) : PoolLimits :=
  ⟨s.workers, s.queueDepth, s.timeout⟩

def WindowSettings.shape (s : WindowSettings) (m : ModelSettings) : WindowShape :=
  ⟨s.size, m.features, m.layout, s.padding⟩

namespace ClassifierKind

def name : ClassifierKind → String
  | .fingerprint => "heuristic"
  | .model => "model"

def ofName? : String → Option ClassifierKind
  | "heuristic" => some .fingerprint
  | "model" => some .model
  | _ => none

end ClassifierKind

end FlowVerdict
