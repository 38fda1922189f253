import FlowVerdict.Console.Arguments
import FlowVerdict.Json.Writer
import FlowVerdict.Monitor.Basic

/-!
The reports of the commands as structured data, with their fields in alphabetical order, and the two
forms in which they are written.
-/

namespace FlowVerdict.Console

/-- The text of a value behind its name. -/
def plain : Datum → String
  | .text s => s
  | .null => "-"
  | d => Json.Writer.compact d

mutual

/-- The lines of a table, one for each member. The members of a table inside it are set in. -/
def plainLines (indent : Nat) : List (String × Datum) → List String
  | [] => []
  | (name, value) :: rest => memberLines indent name value ++ plainLines indent rest

def memberLines (indent : Nat) (name : String) : Datum → List String
  | .table members =>
    (String.ofList (List.replicate indent ' ') ++ name ++ ":") :: plainLines (indent + 2) members
  | d => [String.ofList (List.replicate indent ' ') ++ name ++ ": " ++ plain d]

end

def Format.write (members : List (String × Datum)) : Format → String
  | .json => Json.Writer.spread 0 (.table members) ++ "\n"
  | .text => String.join ((plainLines 0 members).map (· ++ "\n"))

def optionalText : Option String → Datum
  | some s => .text s
  | none => .null

def tallyReport (t : Tally) : List (String × Datum) := [
  ("bytes", .integer t.bytes),
  ("dropped", .integer t.dropped),
  ("flows_created", .integer t.flowsCreated),
  ("flows_evicted", .integer t.flowsEvicted),
  ("latched_hits", .integer t.latchedHits),
  ("oracle_calls", .integer t.scorerCalls),
  ("oracle_failures", .integer t.scorerFailures),
  ("packets", .integer t.packets),
  ("passed", .integer t.passed),
  ("reset", .integer t.reset)]

def replayReport {σ : Type} (monitor : Monitor σ) (state : Monitor.State σ)
    (records elapsed : Nat) : List (String × Datum) := [
  ("elapsed_ms", .integer elapsed),
  ("flows_tracked", .integer state.flows.size),
  ("model", optionalText monitor.model?),
  ("records", .integer records),
  ("stats", .table (tallyReport state.tally))]

def settingsReport {σ : Type} (monitor : Monitor σ) (path : String) : List (String × Datum) :=
  let s := monitor.settings
  let classifier := match monitor.model? with
    | some name => "model " ++ name
    | none => ClassifierKind.fingerprint.name
  [("classifier", .text classifier),
    ("config", .text path),
    ("idle_timeout_ms", .integer s.flows.idleTimeout),
    ("models", .list (s.models.map fun (name, _) => .text name)),
    ("oracle_timeout_ms", .integer s.scoring.timeout),
    ("window", .integer s.window.size)]

def payloadReport (finding : Finding) (s : Payload.Statistics) : List (String × Datum) := [
  ("action", .text finding.verdict.name),
  ("average_popcount", .real s.averagePopcount),
  ("entropy", .real s.entropy),
  ("finding", .text finding.label),
  ("len", .integer s.length),
  ("longest_printable_run", .integer s.longestPrintableRun),
  ("printable_count", .integer s.printableCount),
  ("printable_ratio", .real s.printableRatio)]

end FlowVerdict.Console
