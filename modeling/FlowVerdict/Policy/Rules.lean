import FlowVerdict.Datum.Record
import FlowVerdict.Decimal.Notation
import FlowVerdict.Verdict

/-!
Threshold rules: each compares one channel of a model's answer with a threshold and names a verdict.
The first rule that matches decides; where none does, the flow passes.
-/

namespace FlowVerdict

/-- How a value is compared with a threshold. No comparison holds of what is no number. -/
inductive Comparator where
  | greater
  | greaterOrEqual
  | less
  | lessOrEqual
deriving DecidableEq

namespace Comparator

def sign : Comparator → String
  | .greater => ">"
  | .greaterOrEqual => ">="
  | .less => "<"
  | .lessOrEqual => "<="

def ofSign? : String → Option Comparator
  | ">" => some .greater
  | ">=" => some .greaterOrEqual
  | "<" => some .less
  | "<=" => some .lessOrEqual
  | _ => none

def holds (c : Comparator) (value threshold : Float32) : Bool :=
  match c with
  | .greater => threshold < value
  | .greaterOrEqual => threshold ≤ value
  | .less => value < threshold
  | .lessOrEqual => value ≤ threshold

end Comparator

structure ThresholdRule where
  channel : Nat
  comparator : Comparator
  threshold : Float32
  verdict : Verdict
deriving DecidableEq

namespace ThresholdRule

/-- The rule matches an answer. It matches no answer without its channel. -/
def accepts (rule : ThresholdRule) (probabilities : List Float32) : Bool :=
  match probabilities[rule.channel]? with
  | some p => rule.comparator.holds p rule.threshold
  | none => false

def text (rule : ThresholdRule) : String :=
  "[" ++ toString rule.channel ++ "] " ++ rule.comparator.sign ++ " " ++
    Decimal.Notation.message.write (.ofFloat32 rule.threshold) ++ " => " ++ rule.verdict.name

def fieldNames : List String := ["channel", "comparator", "threshold", "action"]

/-- The rule that structured data spells. Every field has to be there. -/
def ofDatum? (dialect : Datum.Dialect) (d : Datum) : Option ThresholdRule := do
  match ← d.fields? dialect fieldNames with
  | [some channel, some comparator, some threshold, some action] =>
    return {
      channel := ← channel.count?
      comparator := ← comparator.choice? dialect Comparator.ofSign?
      threshold := ← threshold.float32?
      verdict := ← action.choice? dialect Verdict.ofName?
    }
  | _ => none

end ThresholdRule

/-- Rules in the order in which they are tried. -/
abbrev Rules := List ThresholdRule

def Rules.verdict (rules : Rules) (probabilities : List Float32) : Verdict :=
  match rules.find? (·.accepts probabilities) with
  | some rule => rule.verdict
  | none => .pass

end FlowVerdict
