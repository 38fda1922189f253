import FlowVerdict.Policy.Rules
import FlowVerdict.Window.Window

/-!
The state of one flow under observation. Its verdict is settled at most once. Times are in
milliseconds.
-/

namespace FlowVerdict

/-- What is known of a flow. -/
structure FlowState where
  flow : FlowId
  /-- The source of the flow's first packet. -/
  opener : Endpoint
  packets : Nat
  bytes : Nat
  /-- The rows that wait for a score. -/
  window : Window
  /-- The windows handed to the scorer. -/
  windowsScored : Nat
  firstSeen : Nat
  lastSeen : Nat
  /-- The settled verdict. -/
  latched : Option Verdict
  /-- The flow has left the table, or is about to. -/
  evicted : Bool
deriving DecidableEq

namespace FlowState

def fresh (flow : FlowId) (opener : Endpoint) (now : Nat) : FlowState where
  flow := flow
  opener := opener
  packets := 0
  bytes := 0
  window := .empty
  windowsScored := 0
  firstSeen := now
  lastSeen := now
  latched := none
  evicted := false

def record (s : FlowState) (p : Packet) (now : Nat) : FlowState :=
  { s with packets := s.packets + 1, bytes := s.bytes + p.payload.length, lastSeen := now }

def directionOf (s : FlowState) (p : Packet) : Direction := p.directionFrom s.opener

/-- The settled verdict once one is asked to settle, and the flow with it. The first verdict
stays. -/
def latch (s : FlowState) (v : Verdict) : Verdict × FlowState :=
  match s.latched with
  | some earlier => (earlier, s)
  | none => (v, { s with latched := some v })

/-- The flow with all that judging changes set anew. -/
def judged (s : FlowState) (window : Window) (windowsScored : Nat) (latched : Option Verdict) :
    FlowState :=
  { s with window, windowsScored, latched }

/-- The flow marked as leaving the table. -/
def markEvicted (s : FlowState) : FlowState := { s with evicted := true }

/-- More than the timeout has passed since the last packet. A stamp after `now` is no idle time. -/
def isIdle (s : FlowState) (timeout now : Nat) : Bool := timeout < now - s.lastSeen

def clearWindow (s : FlowState) : FlowState := { s with window := .empty }

/-- The verdict that an answer of the model comes to, and the flow with it settled. A settled flow
keeps its verdict. -/
def decide (s : FlowState) (rules : Rules) (probabilities : List Float32) : Verdict × FlowState :=
  s.latch (rules.verdict probabilities)

/-- The verdict for want of an answer, and the flow with it. Either the flow starts a new window, or
it is settled to pass. -/
def failOpen (s : FlowState) (rescore : Bool) : Verdict × FlowState :=
  if rescore then (.pass, s.clearWindow) else s.latch .pass

end FlowState

end FlowVerdict
