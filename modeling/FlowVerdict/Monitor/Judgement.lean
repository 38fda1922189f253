import FlowVerdict.Monitor.Basic

/-!
How a packet is judged on its flow. A settled flow keeps its verdict. A fingerprint looks at one
payload; a model is asked once a window is full, or earlier when the connection closes, and what its
answer comes to settles the flow. A question without an answer lets pass.
-/

namespace FlowVerdict

/-- What judging comes to: the verdict, and the flow, the counters and the scorer after it. -/
structure Judgement (σ : Type) where
  verdict : Verdict
  flow : FlowState
  tally : Tally
  scorer : σ

namespace Monitor

variable {σ : Type}

/-- The model is asked about the window of a flow. An answer settles the flow and frees its
window. -/
def score (monitor : Monitor σ) (m : ModelClassifier σ) (flow : FlowState) (tally : Tally)
    (scorer : σ) : Judgement σ :=
  let (answer, scorer) := m.scorer.score scorer m.name (m.window.flatten flow.window)
  let flow := { flow with windowsScored := flow.windowsScored + 1 }
  match answer with
  | .ok probabilities =>
    let (verdict, flow) := flow.decide m.rules probabilities
    ⟨verdict, flow.clearWindow, tally.called, scorer⟩
  | .error _ =>
    let (verdict, flow) := flow.failOpen monitor.settings.scoring.rescoreOnFailure
    ⟨verdict, flow, tally.called.failed, scorer⟩

/-- The window of a flow has rows that are to be scored although it is not full. -/
def scoresPartially (monitor : Monitor σ) (flow : FlowState) : Bool :=
  monitor.settings.window.scorePartialOnClose && !flow.window.isEmpty

/-- A packet judged by a model: it enters the window, which may lead to a score. -/
def judgeByModel (monitor : Monitor σ) (m : ModelClassifier σ) (p : Packet) (flow : FlowState)
    (tally : Tally) (scorer : σ) : Judgement σ :=
  let (full, window) := m.window.pushPacket flow.window p (flow.directionOf p)
  let flow := { flow with window }
  if full || p.isTeardown && monitor.scoresPartially flow then
    monitor.score m flow tally scorer
  else ⟨.pass, flow, tally, scorer⟩

/-- The payload of a packet is looked at: the packet is a TCP segment, and empty payloads count only
where the settings say so. -/
def inspects (monitor : Monitor σ) (p : Packet) : Bool :=
  p.isTcp && (!p.payload.isEmpty || monitor.settings.fingerprint.inspectEmpty)

/-- The verdict on a packet by its payload alone. -/
def payloadVerdict (monitor : Monitor σ) (f : Fingerprint) (p : Packet) : Verdict :=
  if monitor.inspects p && f.inspect p.payload p.source.port p.target.port = .obfuscated then
    monitor.settings.fingerprint.onDetect
  else .pass

def judgeByFingerprint (monitor : Monitor σ) (f : Fingerprint) (p : Packet) (flow : FlowState) :
    Verdict × FlowState :=
  let verdict := monitor.payloadVerdict f p
  (verdict, if verdict = .reset then (flow.latch verdict).2 else flow)

def judge (monitor : Monitor σ) (p : Packet) (flow : FlowState) (tally : Tally) (scorer : σ) :
    Judgement σ :=
  match flow.latched, monitor.classifier with
  | some verdict, _ => ⟨verdict, flow, tally.hit, scorer⟩
  | none, .fingerprint f =>
    let (verdict, flow) := monitor.judgeByFingerprint f p flow
    ⟨verdict, flow, tally, scorer⟩
  | none, .model m => monitor.judgeByModel m p flow tally scorer

end Monitor

end FlowVerdict
