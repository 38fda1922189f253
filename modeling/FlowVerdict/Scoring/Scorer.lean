import FlowVerdict.Text.Duration

/-!
Scoring: a model is asked about a feature vector and answers with a probability for each of its
output channels, or with the reason why there is no answer. What a scorer does may depend on what it
was asked before, so it carries a state.
-/

namespace FlowVerdict

structure ModelShape where
  inputLength : Nat
  channels : Nat
deriving DecidableEq

/-- Why there is no answer. -/
inductive ScoringError where
  /-- No model has the name. -/
  | unknownModel (name : String)
  /-- The feature vector has the wrong length. -/
  | shapeMismatch (model : String) (expected actual : Nat)
  /-- There was no answer within the time allowed, in milliseconds. -/
  | timeout (allowed : Nat)
  /-- Too many questions are waiting. -/
  | busy
  /-- A model cannot be used for the reason given. -/
  | unusable (name reason : String)
  /-- The file holds no description of a model. -/
  | malformed (name path : String)
  /-- The evaluation failed for the reason given. -/
  | evaluation (reason : String)
deriving DecidableEq

def ScoringError.message : ScoringError → String
  | .unknownModel name => "unknown model: " ++ name
  | .shapeMismatch model expected actual =>
    "model " ++ model ++ ": expected " ++ toString expected ++ " features, got " ++ toString actual
  | .timeout allowed => "oracle call timed out after " ++ Text.duration allowed
  | .busy => "oracle queue full"
  | .unusable name reason => "failed to load model " ++ name ++ ": " ++ reason
  | .malformed name path =>
    "failed to load model " ++ name ++ ": " ++ path ++ ": malformed model description"
  | .evaluation reason => "model evaluation failed: " ++ reason

abbrev Answer := Except ScoringError (List Float32)

/-- A scorer with states of type `σ`. -/
structure Scorer (σ : Type) where
  score : σ → String → List Float32 → Answer × σ
  shape : String → Option ModelShape

/-- What becomes of the evaluation of a model. -/
inductive Attempt where
  /-- It comes to an answer. -/
  | answered (answer : Answer)
  /-- It breaks off. -/
  | crashed
  /-- It never ends. -/
  | hung

/-- A source of evaluations with states of type `σ`. Unlike a scorer's, its evaluations may break
off or never end. -/
structure Backend (σ : Type) where
  evaluate : σ → String → List Float32 → Attempt × σ
  shape : String → Option ModelShape

end FlowVerdict
