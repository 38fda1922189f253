import FlowVerdict.Flow.Table

/-!
A table together with the flows that have left it and that someone still holds. A ticket names its
flow for good, in the table or out of it.
-/

namespace FlowVerdict

/-- A table, and the entries that have left it. -/
structure HeldFlows where
  table : FlowTable
  departed : List FlowEntry

namespace HeldFlows

def empty : HeldFlows := ⟨.empty, []⟩

def held? (h : HeldFlows) (ticket : Ticket) : Option FlowEntry :=
  (h.table.entries ++ h.departed).find? (·.ticket == ticket)

def state? (h : HeldFlows) (ticket : Ticket) : Option FlowState := (h.held? ticket).map (·.state)

/-- The flows with the state of one of them changed, in the table or out of it. -/
def modify (h : HeldFlows) (ticket : Ticket) (change : FlowState → FlowState) : HeldFlows where
  table := h.table.modify ticket change
  departed := h.departed.map fun e =>
    if e.ticket = ticket then { e with state := change e.state } else e

/-- What is done to a table by those who hold its flows. -/
inductive Operation where
  /-- Look a flow up, and let it enter in the given state if it is new. -/
  | enter (initial : FlowState)
  | get (flow : FlowId)
  | remove (flow : FlowId)
  | removeTicket (flow : FlowId) (ticket : Ticket)
  | markEvicted (ticket : Ticket)
  | latch (ticket : Ticket) (verdict : Verdict)
  | record (ticket : Ticket) (packet : Packet) (now : Nat)
  /-- Set anew what judging changes. -/
  | judge (ticket : Ticket) (window : Window) (windowsScored : Nat) (latched : Option Verdict)
  | sweep (test : FlowState → Bool) (locked : List Ticket)
  | visit (locked : List Ticket)

/-- Look a flow up, and let it enter before its first packet if it is new. -/
def Operation.getOrCreate (flow : FlowId) (opener : Endpoint) (now : Nat) : Operation :=
  .enter (.fresh flow opener now)

/-- What an operation gives back. -/
inductive Outcome where
  | got (ticket : Ticket) (created : Bool)
  | found (ticket : Option Ticket)
  | removed (done : Bool)
  | settled (verdict : Option Verdict)
  | direction (direction : Option Direction)
  | swept (count : Nat)
  | visited (states : List FlowState)
  | done

def apply (h : HeldFlows) : Operation → Outcome × HeldFlows
  | .enter initial =>
    let (entry, created, table) := h.table.getOrCreate initial.flow initial
    (.got entry.ticket created, { h with table })
  | .get flow => (.found ((h.table.find? flow).map (·.ticket)), h)
  | .remove flow =>
    let (gone, table) := h.table.remove flow
    (.found (gone.map (·.ticket)), ⟨table, h.departed ++ gone.toList⟩)
  | .removeTicket flow ticket =>
    let (gone, table) := h.table.removeTicket flow ticket
    (.removed gone.isSome, ⟨table, h.departed ++ gone.toList⟩)
  | .markEvicted ticket => (.done, h.modify ticket FlowState.markEvicted)
  | .latch ticket verdict =>
    (.settled ((h.state? ticket).map fun s => (s.latch verdict).1),
      h.modify ticket fun s => (s.latch verdict).2)
  | .record ticket packet now =>
    (.direction ((h.state? ticket).map (·.directionOf packet)),
      h.modify ticket fun s => s.record packet now)
  | .judge ticket window windowsScored latched =>
    (.done, h.modify ticket fun s => s.judged window windowsScored latched)
  | .sweep test locked =>
    let (gone, table) := h.table.sweep test locked
    (.swept gone.length, ⟨table, h.departed ++ gone⟩)
  | .visit locked => (.visited (h.table.unlocked locked), h)

end HeldFlows

end FlowVerdict
