import FlowVerdict.Flow.Table
import FlowVerdict.Scoring.Scorer
import FlowVerdict.Settings.Basic
import FlowVerdict.Tally

/-!
A monitor: settings and the classifier that they choose. What changes while it is at work, the flows
under observation, the counters and the scorer, is its state.
-/

namespace FlowVerdict

/-- A model that judges flows: its name, the shape of its windows, the rules on its answers, and the
scorer that gives them. -/
structure ModelClassifier (σ : Type) where
  name : String
  window : WindowShape
  rules : Rules
  scorer : Scorer σ

/-- What judges the packets of a flow. -/
inductive Classifier (σ : Type) where
  /-- Every payload by itself. -/
  | fingerprint (fingerprint : Fingerprint)
  /-- Windows of packets by a model. -/
  | model (model : ModelClassifier σ)

/-- Settings and the classifier that they choose. -/
structure Monitor (σ : Type) where
  settings : Settings
  classifier : Classifier σ

/-- The name of the model that judges flows, if one does. -/
def Monitor.model? {σ : Type} (monitor : Monitor σ) : Option String :=
  match monitor.classifier with
  | .fingerprint _ => none
  | .model m => some m.name

/-- A monitor at work: the flows under observation, the counters, and the state of the scorer. -/
structure Monitor.State (σ : Type) where
  flows : FlowTable
  tally : Tally
  scorer : σ

def Monitor.State.start {σ : Type} (scorer : σ) : Monitor.State σ := ⟨.empty, .zero, scorer⟩

end FlowVerdict
