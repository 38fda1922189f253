import FlowVerdict.Console.Report
import FlowVerdict.Proofs.Trace.Replay

/-!
The summary that ends a replay. It is read back from the document of the one format, and it is told
line by line in the other. Its counters agree with the log.
-/

namespace FlowVerdict.Console

open Json.Reader (Value document? document?_spread)
open Monitor (State)

structure Summary where
  elapsed : Nat
  flowsTracked : Nat
  model : Option String
  records : Nat
  stats : Tally
deriving DecidableEq

namespace Summary

/-! ### As a document -/

def tallyOf? (json : Json) : Option Tally := do
  let count (name : String) := (json.member? name).bind Json.natural?
  return {
    packets := ← count "packets"
    bytes := ← count "bytes"
    passed := ← count "passed"
    dropped := ← count "dropped"
    reset := ← count "reset"
    flowsCreated := ← count "flows_created"
    flowsEvicted := ← count "flows_evicted"
    scorerCalls := ← count "oracle_calls"
    scorerFailures := ← count "oracle_failures"
    latchedHits := ← count "latched_hits" }

/-- The name of a model, or that there is none. -/
def modelOf? : Json → Option (Option String)
  | .null => some none
  | .string (some s) => some (some s)
  | _ => none

/-- The summary that a document holds. -/
def ofJson? (json : Json) : Option Summary := do
  return {
    elapsed := ← (json.member? "elapsed_ms").bind Json.natural?
    flowsTracked := ← (json.member? "flows_tracked").bind Json.natural?
    model := ← (json.member? "model").bind modelOf?
    records := ← (json.member? "records").bind Json.natural?
    stats := ← (json.member? "stats").bind tallyOf? }

def tallySpelling (t : Tally) : Value :=
  .ofTable [("bytes", .ofNatural t.bytes), ("dropped", .ofNatural t.dropped),
    ("flows_created", .ofNatural t.flowsCreated), ("flows_evicted", .ofNatural t.flowsEvicted),
    ("latched_hits", .ofNatural t.latchedHits), ("oracle_calls", .ofNatural t.scorerCalls),
    ("oracle_failures", .ofNatural t.scorerFailures), ("packets", .ofNatural t.packets),
    ("passed", .ofNatural t.passed), ("reset", .ofNatural t.reset)]

def modelSpelling : Option String → Value
  | none => .ofNull
  | some s => .ofText s

def spelling (s : Summary) : Value :=
  .ofTable [("elapsed_ms", .ofNatural s.elapsed), ("flows_tracked", .ofNatural s.flowsTracked),
    ("model", modelSpelling s.model), ("records", .ofNatural s.records),
    ("stats", tallySpelling s.stats)]

lemma tallyOf?_spelling (t : Tally) : tallyOf? (tallySpelling t).json = some t := by
  simp [tallyOf?, tallySpelling, Json.member?_ofTable, Json.natural?_ofNatural]

lemma modelOf?_spelling (model : Option String) :
    modelOf? (modelSpelling model).json = some model := by
  cases model <;> rfl

lemma datum_modelSpelling (model : Option String) :
    (modelSpelling model).datum = optionalText model := by
  cases model <;> rfl

lemma ofJson?_spelling (s : Summary) : ofJson? s.spelling.json = some s := by
  simp [ofJson?, spelling, Json.member?_ofTable, Json.natural?_ofNatural, tallyOf?_spelling,
    modelOf?_spelling]

/-! ### As lines -/

/-- The lines that tell a summary. -/
def lines (s : Summary) : List String := [
  "elapsed_ms: " ++ toString s.elapsed,
  "flows_tracked: " ++ toString s.flowsTracked,
  "model: " ++ s.model.getD "-",
  "records: " ++ toString s.records,
  "stats:",
  "  bytes: " ++ toString s.stats.bytes,
  "  dropped: " ++ toString s.stats.dropped,
  "  flows_created: " ++ toString s.stats.flowsCreated,
  "  flows_evicted: " ++ toString s.stats.flowsEvicted,
  "  latched_hits: " ++ toString s.stats.latchedHits,
  "  oracle_calls: " ++ toString s.stats.scorerCalls,
  "  oracle_failures: " ++ toString s.stats.scorerFailures,
  "  packets: " ++ toString s.stats.packets,
  "  passed: " ++ toString s.stats.passed,
  "  reset: " ++ toString s.stats.reset]

/-- The output shows the summary in a format, and nothing else. -/
def Shown (s : Summary) (output : String) : Format → Prop
  | .json => (document? output).bind ofJson? = some s
  | .text => output = String.join (s.lines.map (· ++ "\n"))

def ofRun {σ : Type} (monitor : Monitor σ) (state : State σ) (records elapsed : Nat) : Summary :=
  ⟨elapsed, state.flows.size, monitor.model?, records, state.tally⟩

variable {σ : Type}

lemma plainLines_replayReport (monitor : Monitor σ) (state : State σ) (records elapsed : Nat) :
    plainLines 0 (replayReport monitor state records elapsed) =
      (ofRun monitor state records elapsed).lines := by
  have hmodel : memberLines 0 "model" (optionalText monitor.model?) =
      ["model: " ++ monitor.model?.getD "-"] := by
    cases monitor.model? <;> simp [memberLines, optionalText, plain]
  have hinteger : ∀ n : Nat, plain (.integer n) = toString n := by
    intro n
    rw [plain, Json.Writer.compact]
    · rfl
    all_goals simp
  simp [plainLines, memberLines, replayReport, tallyReport, lines, ofRun, hmodel, hinteger]

/-- **The summary of a run is shown** in either format. -/
theorem shown_ofRun (format : Format) (monitor : Monitor σ) (state : State σ)
    (records elapsed : Nat) : (ofRun monitor state records elapsed).Shown
      (format.write (replayReport monitor state records elapsed)) format := by
  cases format with
  | json =>
    have hread := document?_spread (ofRun monitor state records elapsed).spelling "\n" rfl
    have hdatum : (ofRun monitor state records elapsed).spelling.datum =
        .table (replayReport monitor state records elapsed) := by
      rw [replayReport, ← datum_modelSpelling]
      rfl
    rw [hdatum] at hread
    rw [Shown, Format.write, hread, Option.bind_some, ofJson?_spelling]
  | text => rw [Format.write, plainLines_replayReport]; rfl

/-! ### The counters -/

/-- The summary counts records, and decisions by their verdicts. -/
structure Agrees (s : Summary) (records : List (TraceEvent × Nat)) (decisions : List Decision) :
    Prop where
  records_eq : s.records = (Trace.packets records).length + (Trace.ends records).length
  packets_eq : s.stats.packets = (Trace.packets records).length
  passed_eq : s.stats.passed = (decisions.map Decision.verdict).count .pass
  dropped_eq : s.stats.dropped = (decisions.map Decision.verdict).count .drop
  reset_eq : s.stats.reset = (decisions.map Decision.verdict).count .reset
  tracked_eq : s.flowsTracked = s.stats.flowsCreated - s.stats.flowsEvicted
  evicted_le : s.stats.flowsEvicted ≤ s.stats.flowsCreated

/-- **The summary of a run agrees with its decisions.** -/
theorem agrees_ofRun (monitor : Monitor σ) (x : σ) (now : Nat → Nat)
    (records : List (TraceEvent × Nat)) (elapsed : Nat) :
    let events := Trace.calls now records
    (ofRun monitor (monitor.after x events) records.length elapsed).Agrees records
      (Trace.decisions records (monitor.verdicts x events)) := by
  intro events
  have hverdicts :=
    Trace.verdicts_of_decisions (Trace.length_verdicts_calls monitor x now records)
  have hadds := Monitor.after_adds monitor x events
  have hcount : ∀ v, (monitor.after x events).tally.verdicts v =
      ((Trace.decisions records (monitor.verdicts x events)).map Decision.verdict).count v := by
    intro v
    rw [hverdicts, hadds.verdicts_eq]
    cases v <;> exact Nat.zero_add _
  have hbalance := Monitor.after_balanced monitor x events
  have hsize : (monitor.after x events).flows.size + (monitor.after x events).tally.flowsEvicted =
      (monitor.after x events).tally.flowsCreated := by
    rw [hbalance.created_eq, hbalance.evicted_eq]
    exact hbalance.table
  exact {
    records_eq := Trace.length_eq_packets_add_ends records
    packets_eq := by
      have hpackets := hadds.packets_eq
      rw [Trace.packets_calls, List.length_map] at hpackets
      exact hpackets.trans (Nat.zero_add _)
    passed_eq := hcount .pass
    dropped_eq := hcount .drop
    reset_eq := hcount .reset
    tracked_eq := Nat.eq_sub_of_add_eq hsize
    evicted_le := Nat.le.intro ((Nat.add_comm _ _).trans hsize) }

end Summary

end FlowVerdict.Console
