import FlowVerdict.Settings.Check
import FlowVerdict.Toml.Document

/-!
Settings as structured data: the fields of every section with their spelling. A field that is absent
has its default; an unknown field, a field of another type and a name that is none are refused.
-/

namespace FlowVerdict

open Datum (Dialect orDefault optional?)

/-- The two ends of the band. Values after the second do not count. -/
def Datum.band? : Datum → Option (Float × Float)
  | .list (low :: high :: _) => do return (← low.float?, ← high.float?)
  | _ => none

namespace Settings

def window? (dialect : Dialect) (d : Datum) : Option WindowSettings := do
  let z : WindowSettings := {}
  match ← d.fields? dialect ["size", "padding", "score_partial_on_close"] with
  | [size, padding, partially] =>
    return {
      size := ← orDefault Datum.count? z.size size
      padding := ← orDefault Datum.float32? z.padding padding
      scorePartialOnClose := ← orDefault Datum.boolean? z.scorePartialOnClose partially
    }
  | _ => none

def fingerprint? (dialect : Dialect) (d : Datum) : Option FingerprintSettings := do
  let z : FingerprintSettings := {}
  let names := ["popcount_band", "exempt_ports", "on_detect", "inspect_empty_payloads"]
  match ← d.fields? dialect names with
  | [band, ports, onDetect, empty] =>
    let (low, high) ← orDefault Datum.band? (z.bandLow, z.bandHigh) band
    return {
      bandLow := low
      bandHigh := high
      exemptPorts := ← orDefault (·.list? Datum.port?) z.exemptPorts ports
      onDetect := ← orDefault (·.choice? dialect Verdict.ofName?) z.onDetect onDetect
      inspectEmpty := ← orDefault Datum.boolean? z.inspectEmpty empty
    }
  | _ => none

def flows? (dialect : Dialect) (d : Datum) : Option FlowSettings := do
  let z : FlowSettings := {}
  let names := ["idle_timeout_ms", "sweep_interval_ms", "evict_on_close", "shards"]
  match ← d.fields? dialect names with
  | [idle, interval, evict, shards] =>
    return {
      idleTimeout := ← orDefault Datum.count? z.idleTimeout idle
      sweepInterval := ← orDefault Datum.count? z.sweepInterval interval
      evictOnClose := ← orDefault Datum.boolean? z.evictOnClose evict
      shards := ← optional? Datum.count? shards
    }
  | _ => none

def scoring? (dialect : Dialect) (d : Datum) : Option ScoringSettings := do
  let z : ScoringSettings := {}
  match ← d.fields? dialect ["timeout_ms", "workers", "queue_depth", "rescore_on_failure"] with
  | [timeout, workers, depth, rescore] =>
    return {
      timeout := ← orDefault Datum.count? z.timeout timeout
      workers := ← orDefault Datum.count? z.workers workers
      queueDepth := ← orDefault Datum.count? z.queueDepth depth
      rescoreOnFailure := ← orDefault Datum.boolean? z.rescoreOnFailure rescore
    }
  | _ => none

def classifier? (dialect : Dialect) (d : Datum) : Option ClassifierSettings := do
  match ← d.fields? dialect ["kind", "model"] with
  | [kind, model] =>
    return {
      kind := ← orDefault (·.choice? dialect ClassifierKind.ofName?) .fingerprint kind
      model := ← optional? Datum.text? model
    }
  | _ => none

def model? (dialect : Dialect) (d : Datum) : Option ModelSettings := do
  let z : ModelSettings := {}
  match ← d.fields? dialect ["path", "features", "layout", "rules"] with
  | [path, features, layout, rules] =>
    return {
      path := ← optional? Datum.text? path
      features := ← orDefault (·.list? (·.choice? dialect Feature.ofName?)) z.features features
      layout := ← orDefault (·.choice? dialect Layout.ofName?) z.layout layout
      rules := ← orDefault (·.list? (ThresholdRule.ofDatum? dialect)) z.rules rules
    }
  | _ => none

/-- The models in the order of their names. -/
def models? (dialect : Dialect) : Datum → Option (List (String × ModelSettings))
  | .table members => do
    let models ← members.mapM fun (name, d) => (model? dialect d).map fun m => (name, m)
    return models.mergeSort fun a b => !(b.1 < a.1)
  | _ => none

def ports? (dialect : Dialect) (d : Datum) : Option PortPolicy := do
  let names := ["blocklist", "blocklist_action", "allowlist", "allowlist_action"]
  match ← d.fields? dialect names with
  | [blocked, blockedVerdict, allowed, otherVerdict] =>
    return {
      blocked := ← orDefault (·.list? Datum.port?) [] blocked
      blockedVerdict := ← orDefault (·.choice? dialect Verdict.ofName?) .drop blockedVerdict
      allowed := ← orDefault (·.list? Datum.port?) [] allowed
      otherVerdict := ← orDefault (·.choice? dialect Verdict.ofName?) .drop otherVerdict
    }
  | _ => none

def ofDatum? (dialect : Dialect) (d : Datum) : Option Settings := do
  let z : Settings := {}
  let names := ["window", "heuristic", "flows", "oracle", "classifier", "models", "ports"]
  match ← d.fields? dialect names with
  | [window, fingerprint, flows, scoring, classifier, models, ports] =>
    return {
      window := ← orDefault (window? dialect) z.window window
      fingerprint := ← orDefault (fingerprint? dialect) z.fingerprint fingerprint
      flows := ← orDefault (flows? dialect) z.flows flows
      scoring := ← orDefault (scoring? dialect) z.scoring scoring
      classifier := ← orDefault (classifier? dialect) z.classifier classifier
      models := ← orDefault (models? dialect) z.models models
      ports := ← orDefault (ports? dialect) z.ports ports
    }
  | _ => none

/-- The settings that a TOML document spells, checked. -/
def ofToml (text : String) : Except SettingsError Settings := do
  match (Toml.document? text).bind (ofDatum? Toml.dialect) with
  | none => throw .malformed
  | some s =>
    s.check
    return s

end Settings

end FlowVerdict
