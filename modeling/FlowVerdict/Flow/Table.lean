import FlowVerdict.Flow.State

/-!
The table of flows under observation. Every flow that enters the table gets a ticket, the number of
flows that entered before it, so that a later flow of the same identity is told apart from it.
-/

namespace FlowVerdict

abbrev Ticket := Nat

structure FlowEntry where
  flow : FlowId
  ticket : Ticket
  state : FlowState
deriving DecidableEq

structure FlowTable where
  entries : List FlowEntry
  created : Nat
  evicted : Nat
deriving DecidableEq

namespace FlowTable

def empty : FlowTable := ⟨[], 0, 0⟩

def size (t : FlowTable) : Nat := t.entries.length

def isEmpty (t : FlowTable) : Bool := t.entries.isEmpty

def find? (t : FlowTable) (flow : FlowId) : Option FlowEntry := t.entries.find? (·.flow == flow)

def lookup (t : FlowTable) (flow : FlowId) : Option FlowState := (t.find? flow).map (·.state)

/-- The entry of a flow, with the initial state if the flow is new, and whether it is. -/
def getOrCreate (t : FlowTable) (flow : FlowId) (initial : FlowState) :
    FlowEntry × Bool × FlowTable :=
  match t.find? flow with
  | some entry => (entry, false, t)
  | none =>
    let entry : FlowEntry := ⟨flow, t.created, initial⟩
    (entry, true, { t with entries := t.entries ++ [entry], created := t.created + 1 })

def modify (t : FlowTable) (ticket : Ticket) (change : FlowState → FlowState) : FlowTable :=
  { t with
    entries := t.entries.map fun e =>
      if e.ticket = ticket then { e with state := change e.state } else e }

/-- The entry that leaves if the flow's entry has the ticket, and the table without it. -/
def removeTicket (t : FlowTable) (flow : FlowId) (ticket : Ticket) : Option FlowEntry × FlowTable :=
  match t.find? flow with
  | some entry =>
    if entry.ticket = ticket then
      (some entry,
        { t with entries := t.entries.filter (·.flow != flow), evicted := t.evicted + 1 })
    else (none, t)
  | none => (none, t)

theorem size_removeTicket_lt {t : FlowTable} {flow : FlowId} {entry : FlowEntry}
    (h : t.find? flow = some entry) : (t.removeTicket flow entry.ticket).2.size < t.size := by
  have hmem : entry ∈ t.entries := List.mem_of_find?_eq_some h
  have hflow : (entry.flow == flow) = true :=
    List.find?_some (p := fun e : FlowEntry => e.flow == flow) h
  simp only [removeTicket, h, if_true, size]
  refine Nat.lt_of_le_of_ne (List.length_filter_le _ _) fun hall => ?_
  have hkept := List.length_filter_eq_length_iff.mp hall entry hmem
  rw [bne, hflow] at hkept
  cases hkept

/-- The entry of a flow, marked as it leaves, and the table without it. -/
def remove (t : FlowTable) (flow : FlowId) : Option FlowEntry × FlowTable :=
  match t.find? flow with
  | some entry => (t.modify entry.ticket FlowState.markEvicted).removeTicket flow entry.ticket
  | none => (none, t)

/-- An entry is swept if it is free and its state answers to the test. -/
def isSwept (test : FlowState → Bool) (locked : List Ticket) (e : FlowEntry) : Bool :=
  !locked.contains e.ticket && test e.state

/-- The entries that leave, marked, in a sweep of all that are not locked, and the table without
them. -/
def sweep (t : FlowTable) (test : FlowState → Bool) (locked : List Ticket) :
    List FlowEntry × FlowTable :=
  let gone := t.entries.filter (isSwept test locked)
  (gone.map fun e => { e with state := e.state.markEvicted },
    { t with
      entries := t.entries.filter fun e => !isSwept test locked e
      evicted := t.evicted + gone.length })

def unlocked (t : FlowTable) (locked : List Ticket) : List FlowState :=
  (t.entries.filter fun e => !locked.contains e.ticket).map (·.state)

end FlowTable

end FlowVerdict
