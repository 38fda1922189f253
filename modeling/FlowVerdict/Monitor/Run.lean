import FlowVerdict.Monitor.Judgement

/-!
A monitor at work. Packets are judged one by one; a flow enters the table with its first packet and
leaves it when it is reset, when its connection closes, when the host ends it, or when it has been
idle for too long. Whoever lets a flow go marks its state before the flow is taken out of the table,
so that others who hold the state know. Times are in milliseconds.
-/

namespace FlowVerdict.Monitor

variable {σ : Type}

/-- The verdict on a packet by its ports alone, if there is one. -/
def portVerdict? (monitor : Monitor σ) (p : Packet) : Option Verdict :=
  if p.transport.hasPorts then monitor.settings.ports.verdict? p.source.port p.target.port else none

/-- The flow of a packet leaves the table after the verdict. A segment that is dropped closes no
connection, for it never arrives. -/
def isLast (monitor : Monitor σ) (p : Packet) (verdict : Verdict) : Bool :=
  verdict == .reset || p.isTeardown && monitor.settings.flows.evictOnClose && verdict != .drop

namespace State

/-- The entry of a packet's flow, and the state with the flow in its table. -/
def enter (state : State σ) (p : Packet) (now : Nat) : FlowEntry × State σ :=
  let (entry, isNew, flows) := state.flows.getOrCreate p.flow (.fresh p.flow p.source now)
  (entry, { state with flows, tally := if isNew then state.tally.created else state.tally })

/-- The state after a judgement on the flow of a ticket. -/
def conclude (state : State σ) (ticket : Ticket) (j : Judgement σ) : State σ :=
  ⟨state.flows.modify ticket fun _ => j.flow, j.tally, j.scorer⟩

/-- The state without the flow of a ticket, if the ticket is the one in the table. -/
def forget (state : State σ) (flow : FlowId) (ticket : Ticket) : State σ :=
  match state.flows.removeTicket flow ticket with
  | (some _, flows) => { state with flows, tally := state.tally.evicted 1 }
  | (none, _) => state

/-- A marked flow was in the table before the packet, and the table is smaller without it. -/
theorem size_forget_lt {state : State σ} {p : Packet} {now : Nat}
    (h : (state.enter p now).1.state.evicted = true) :
    ((state.enter p now).2.forget p.flow (state.enter p now).1.ticket).flows.size <
      state.flows.size := by
  unfold enter FlowTable.getOrCreate at h ⊢
  cases hfind : state.flows.find? p.flow with
  | none =>
    rw [hfind] at h
    cases h
  | some entry =>
    have hlt := FlowTable.size_removeTicket_lt hfind
    simp only [FlowTable.removeTicket, hfind, if_true] at hlt
    simp only [forget, FlowTable.removeTicket, hfind, if_true]
    exact hlt

/-- The entry of a packet's flow that is not marked, and the state with it. A packet that finds its
flow marked looks again. -/
@[semireducible]
def meet (state : State σ) (p : Packet) (now : Nat) : FlowEntry × State σ :=
  let found := state.enter p now
  -- The packet lost a race: whoever marked the flow has taken it out of the table by the next look.
  if found.1.state.evicted then (found.2.forget p.flow found.1.ticket).meet p now else found
termination_by state.flows.size
decreasing_by exact size_forget_lt ‹_›

/-- The state after the flow of a ticket has been marked and has left the table. -/
def evict (state : State σ) (flow : FlowId) (ticket : Ticket) : State σ :=
  let marked := { state with flows := state.flows.modify ticket FlowState.markEvicted }
  marked.forget flow ticket

def settled? (state : State σ) (flow : FlowId) : Option Verdict :=
  (state.flows.lookup flow).bind (·.latched)

end State

/-- A packet handed to its flow. -/
def observe (monitor : Monitor σ) (state : State σ) (p : Packet) (now : Nat) : Verdict × State σ :=
  let (entry, state) := state.meet p now
  let j := monitor.judge p (entry.state.record p now) state.tally state.scorer
  let state := state.conclude entry.ticket j
  (j.verdict, if monitor.isLast p j.verdict then state.evict p.flow entry.ticket else state)

def process (monitor : Monitor σ) (state : State σ) (p : Packet) (now : Nat) : Verdict × State σ :=
  let state := { state with tally := state.tally.packet p.payload.length }
  let (verdict, state) := match monitor.portVerdict? p with
    | some verdict => (verdict, state)
    | none => monitor.observe state p now
  (verdict, { state with tally := state.tally.verdict verdict })

/-- The last verdict on a flow that the host ends: the settled one, or what its rows come to. -/
def lastVerdict (monitor : Monitor σ) (state : State σ) (flow : FlowState) :
    Option Verdict × State σ :=
  match flow.latched, monitor.classifier with
  | none, .model m =>
    if monitor.scoresPartially flow then
      let j := monitor.score m flow state.tally state.scorer
      (some j.verdict, ⟨state.flows, j.tally, j.scorer⟩)
    else (none, state)
  | settled, _ => (settled, state)

/-- The host ends a flow. A marked flow is left to whoever marked it. -/
def close (monitor : Monitor σ) (state : State σ) (flow : FlowId) : Option Verdict × State σ :=
  match state.flows.find? flow with
  | none => (none, state)
  | some entry =>
    if entry.state.evicted then (none, state)
    else
      let (verdict, state) := monitor.lastVerdict state entry.state
      (verdict, state.evict flow entry.ticket)

def sweep (monitor : Monitor σ) (state : State σ) (now : Nat) : Nat × State σ :=
  let (gone, flows) := state.flows.sweep (·.isIdle monitor.settings.flows.idleTimeout now) []
  (gone.length, { state with flows, tally := state.tally.evicted gone.length })

/-- A time at which every flow has been idle for too long. -/
def quietTime (monitor : Monitor σ) (state : State σ) : Nat :=
  (state.flows.entries.map (·.state.lastSeen)).foldl max 0 + monitor.settings.flows.idleTimeout + 1

inductive Event where
  /-- A packet arrives. -/
  | packet (p : Packet) (now : Nat)
  /-- The host ends a flow. -/
  | close (flow : FlowId)
  /-- Idle flows are looked for. -/
  | sweep (now : Nat)

inductive Reply where
  /-- The verdict on a packet. -/
  | verdict (verdict : Verdict)
  /-- The last verdict on a flow, if it has one. -/
  | closed (verdict : Option Verdict)
  /-- The number of flows that left. -/
  | swept (count : Nat)
deriving DecidableEq

/-- The answer to an event, and the state after it. -/
def respond (monitor : Monitor σ) (state : State σ) : Event → Reply × State σ
  | .packet p now =>
    let (verdict, state) := monitor.process state p now
    (.verdict verdict, state)
  | .close flow =>
    let (verdict, state) := monitor.close state flow
    (.closed verdict, state)
  | .sweep now =>
    let (count, state) := monitor.sweep state now
    (.swept count, state)

/-- The answers to events in their order, and the state after the last. -/
def run (monitor : Monitor σ) : State σ → List Event → List Reply × State σ
  | state, [] => ([], state)
  | state, event :: events =>
    let (reply, state) := monitor.respond state event
    let (replies, state) := monitor.run state events
    (reply :: replies, state)

end FlowVerdict.Monitor
