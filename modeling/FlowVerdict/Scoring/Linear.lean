import FlowVerdict.Json
import FlowVerdict.Scoring.Scorer

/-!
Linear models: a weighted sum of the features and a bias for each channel, turned into probabilities
by an activation. All arithmetic is in single precision and in the order of the weights.
-/

namespace FlowVerdict

/-- How the sums become probabilities. -/
inductive Activation where
  /-- The channels share a total of one. -/
  | softmax
  /-- Each channel has a probability of its own. -/
  | sigmoid
deriving DecidableEq, Inhabited

namespace Activation

def name : Activation → String
  | .softmax => "softmax"
  | .sigmoid => "sigmoid"

def ofName? : String → Option Activation
  | "softmax" => some .softmax
  | "sigmoid" => some .sigmoid
  | _ => none

/-- The greatest of some numbers, those that are no numbers left out, and minus infinity if there is
none. -/
def greatest (xs : List Float32) : Float32 :=
  xs.foldl (fun m x => if m < x then x else m) (-1 / 0)

/-- The sum of numbers in their order. -/
def total (xs : List Float32) : Float32 := xs.foldl (· + ·) 0

/-- The probabilities of channels with the given sums. For a shared total the greatest sum is taken
off first, which keeps the powers in range. -/
def apply : Activation → List Float32 → List Float32
  | .sigmoid, sums => sums.map fun z => 1 / (1 + (-z).exp)
  | .softmax, sums =>
    let powers := sums.map fun z => (z - greatest sums).exp
    powers.map (· / total powers)

end Activation

/-- A linear model: one row of weights and one bias for each channel. -/
structure LinearModel where
  inputLength : Nat
  weights : List (List Float32)
  bias : List Float32
  activation : Activation
deriving DecidableEq

namespace LinearModel

inductive Fault where
  | noChannels
  | biasCount (rows biases : Nat)
  | rowLength (row actual expected : Nat)
deriving DecidableEq

def Fault.message : Fault → String
  | .noChannels => "model has no output channels"
  | .biasCount rows biases => toString rows ++ " weight rows but " ++ toString biases ++ " biases"
  | .rowLength row actual expected =>
    "weight row " ++ toString row ++ " has " ++ toString actual ++ " values, expected " ++
      toString expected

/-- The fault of the first row, counted from `i`, that does not have the input's length. -/
def rowFault? (expected : Nat) : (i : Nat) → List (List Float32) → Option Fault
  | _, [] => none
  | i, row :: rest =>
    if row.length = expected then rowFault? expected (i + 1) rest
    else some (.rowLength i row.length expected)

/-- The first fault of a model, if it has one. -/
def fault? (m : LinearModel) : Option Fault :=
  if m.weights.isEmpty then some .noChannels
  else if m.weights.length ≠ m.bias.length then some (.biasCount m.weights.length m.bias.length)
  else rowFault? m.inputLength 0 m.weights

def shape (m : LinearModel) : ModelShape := ⟨m.inputLength, m.weights.length⟩

def weightedSum (row features : List Float32) : Float32 :=
  Activation.total (List.zipWith (· * ·) row features)

def sums (m : LinearModel) (features : List Float32) : List Float32 :=
  List.zipWith (fun row b => weightedSum row features + b) m.weights m.bias

def predict (m : LinearModel) (features : List Float32) : List Float32 :=
  m.activation.apply (m.sums features)

def fieldNames : List String := ["input_len", "weights", "bias", "activation"]

def ofJson? (j : Json) : Option LinearModel := do
  let d ← (← j.select? fieldNames).datum?
  match ← d.fields? Json.dialect fieldNames with
  | [some inputLength, some weights, some bias, activation] =>
    return {
      inputLength := ← inputLength.count?
      weights := ← weights.list? (·.list? Datum.float32?)
      bias := ← bias.list? Datum.float32?
      activation :=
        ← Datum.orDefault (·.choice? Json.dialect Activation.ofName?) .softmax activation
    }
  | _ => none

end LinearModel

end FlowVerdict
