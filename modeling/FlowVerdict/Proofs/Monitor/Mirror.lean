import FlowVerdict.Proofs.Monitor.Mapping
import FlowVerdict.Proofs.Monitor.Tracking

/-!
A monitor does not tell the two sides of a conversation apart. If the source and the target of every
packet are exchanged, it answers all events as before and is left in the same state, except that it
takes the other side of each flow for the one that opened it.

The mirror image of a packet belongs to the same flow, and its direction relative to the other side
is the direction of the packet relative to the opener. So a judgement commutes with mirroring as
long as the opener is one of the two sides, which it is for every flow that a run brings into the
table.
-/

namespace FlowVerdict

def FlowId.opposite (flow : FlowId) (side : Endpoint) : Endpoint :=
  if side = flow.low then flow.high else flow.low

def Packet.mirrored (p : Packet) : Packet := { p with source := p.target, target := p.source }

/-- The flow as if the other side had opened it. -/
def FlowState.mirrored (s : FlowState) : FlowState :=
  { s with opener := s.flow.opposite s.opener }

/-- The state in which the other side has opened each flow. -/
def Monitor.State.mirrored {σ : Type} (state : Monitor.State σ) : Monitor.State σ :=
  { state with flows := state.flows.mapStates FlowState.mirrored }

def Monitor.Event.mirrored : Monitor.Event → Monitor.Event
  | .packet p now => .packet p.mirrored now
  | event => event

/-! ### Packets and flows -/

@[simp] lemma Packet.flow_mirrored (p : Packet) : p.mirrored.flow = p.flow :=
  FlowId.between_comm p.target p.source p.transport

lemma FlowId.sides_of_contains {flow : FlowId} {side : Endpoint} (h : flow.contains side = true) :
    side = flow.low ∧ flow.opposite side = flow.high ∨
      side = flow.high ∧ flow.opposite side = flow.low := by
  have hside : flow.low = side ∨ flow.high = side := by simpa [contains] using h
  unfold opposite
  split
  · next hlow => exact .inl ⟨hlow, rfl⟩
  · next hlow => exact .inr ⟨(hside.resolve_left (Ne.symm hlow)).symm, rfl⟩

lemma FlowState.mirrored_fresh (p : Packet) (now : Nat) :
    (fresh p.flow p.source now).mirrored = fresh p.flow p.mirrored.source now := by
  have hother : p.flow.opposite p.source = p.target := by
    unfold FlowId.opposite
    rcases Packet.sides_of_flow (p := p) rfl with ⟨hsource, htarget⟩ | ⟨hsource, htarget⟩
    · rw [if_pos hsource, htarget]
    · split
      · next hlow => rw [htarget, ← hsource, hlow]
      · exact htarget.symm
  rw [mirrored, fresh, hother]
  rfl

/-- The state is that of a flow between two sides one of which opened it. -/
structure FlowState.Opened (s : FlowState) (flow : FlowId) : Prop where
  flow_eq : s.flow = flow
  opener_side : flow.contains s.opener = true

/-- **Directions survive**: the mirror image of a packet goes the way of the packet. -/
lemma FlowState.Opened.directionOf_mirrored {s : FlowState} {p : Packet} (h : s.Opened p.flow) :
    s.mirrored.directionOf p.mirrored = s.directionOf p := by
  have hsame : p.target = s.flow.opposite s.opener ↔ p.source = s.opener := by
    rw [h.flow_eq]
    rcases FlowId.sides_of_contains h.opener_side with ⟨hopen, hother⟩ | ⟨hopen, hother⟩ <;>
      rcases Packet.sides_of_flow (p := p) rfl with ⟨hsource, htarget⟩ | ⟨hsource, htarget⟩ <;>
        rw [hother, hopen, hsource, htarget]
    · simp
    · exact eq_comm
    · exact eq_comm
    · simp
  simp only [directionOf, Packet.directionFrom, mirrored, Packet.mirrored, hsame]

/-! ### Packets that are not told apart -/

lemma FlowState.spares_mirrored : FlowState.Spares FlowState.mirrored :=
  ⟨fun _ _ _ _ => rfl, fun _ => rfl, fun _ => rfl⟩

lemma WindowShape.row_mirrored (shape : WindowShape) (p : Packet) (d : Direction) :
    shape.row p.mirrored d = shape.row p d :=
  List.map_congr_left fun f _ => by cases f <;> rfl

namespace Monitor

variable {σ : Type} {monitor : Monitor σ} {state : State σ}

lemma payloadVerdict_mirrored (monitor : Monitor σ) (f : Fingerprint) (p : Packet) :
    monitor.payloadVerdict f p.mirrored = monitor.payloadVerdict f p := by
  have hfinding : f.inspect p.payload p.target.port p.source.port =
      f.inspect p.payload p.source.port p.target.port := by
    unfold Fingerprint.inspect
    rw [Bool.or_comm]
  simp only [payloadVerdict, Packet.mirrored, hfinding]
  rfl

/-- **Mirrored packets are judged alike.** -/
lemma equates_mirrored (monitor : Monitor σ) (p : Packet) : monitor.Equates p p.mirrored where
  flow_eq := p.flow_mirrored
  length_eq := rfl
  teardown_eq := rfl
  row_eq m _ := m.window.row_mirrored p
  verdict_eq f _ := monitor.payloadVerdict_mirrored f p

/-! ### Events -/

/-- Every flow in the table was opened by one of its two sides. -/
def State.Oriented (state : State σ) : Prop :=
  ∀ flow s, state.flows.lookup flow = some s → s.Opened flow

lemma oriented_after (monitor : Monitor σ) (x : σ) (events : List Event) :
    (monitor.after x events).Oriented := by
  intro flow s hlook
  obtain ⟨path, hne, -, -⟩ := path_of_lookup hlook
  exact ⟨path.counts.flow_eq, path.contains_opener hne⟩

lemma State.Oriented.opened_meet (ho : state.Oriented) (hs : state.flows.Live) (p : Packet)
    (now : Nat) : (state.meet p now).1.state.Opened p.flow := by
  have hent := hs.entered p.flow (.fresh p.flow p.source now)
  rw [State.meet_of_live hs, State.enter, hent.state_eq]
  cases hlook : state.flows.lookup p.flow with
  | some s => exact ho p.flow s hlook
  | none => exact ⟨rfl, p.contains_source rfl⟩

lemma process_mirrored (ho : state.Oriented) (hs : state.flows.Live) (p : Packet) (now : Nat) :
    monitor.process state.mirrored p.mirrored now =
      ((monitor.process state p now).1, (monitor.process state p now).2.mirrored) :=
  process_mapFlows FlowState.spares_mirrored (monitor.equates_mirrored p)
    (FlowState.mirrored_fresh p now) (fun _ => rfl) state fun tally =>
    (State.Oriented.opened_meet (by exact ho) (by exact hs) p now).directionOf_mirrored

lemma close_mirrored (monitor : Monitor σ) (state : State σ) (flow : FlowId) :
    monitor.close state.mirrored flow =
      ((monitor.close state flow).1, (monitor.close state flow).2.mirrored) :=
  close_mapFlows FlowState.spares_mirrored state flow

lemma sweep_mirrored (monitor : Monitor σ) (state : State σ) (now : Nat) :
    monitor.sweep state.mirrored now =
      ((monitor.sweep state now).1, (monitor.sweep state now).2.mirrored) := by
  obtain ⟨hcount, hflows⟩ := state.flows.sweep_mapStates FlowState.mirrored
    (·.isIdle monitor.settings.flows.idleTimeout now) (fun _ => rfl) []
  simp only [sweep, State.mirrored, hcount, hflows]

theorem respond_mirrored (ho : state.Oriented) (hs : state.flows.Live) (event : Event) :
    monitor.respond state.mirrored event.mirrored =
      ((monitor.respond state event).1, (monitor.respond state event).2.mirrored) := by
  cases event with
  | packet p now => simp only [respond, Event.mirrored, process_mirrored ho hs]
  | close flow => simp only [respond, Event.mirrored, close_mirrored]
  | sweep now => simp only [respond, Event.mirrored, sweep_mirrored]

/-! ### Runs -/

lemma run_mirrored (monitor : Monitor σ) (x : σ) (events : List Event) :
    monitor.run (.start x) (events.map Event.mirrored) =
      ((monitor.run (.start x) events).1, (monitor.after x events).mirrored) := by
  induction events using List.reverseRecOn with
  | nil => rfl
  | append_singleton events event ih =>
    have hevent : monitor.respond (monitor.after x events).mirrored event.mirrored = _ :=
      respond_mirrored (oriented_after monitor x events) (after_live x events) event
    rw [List.map_append, List.map_singleton, run_append, run_append, ih, after_snoc]
    simp only [run, hevent]
    rfl

/-- **The two sides of a conversation are interchangeable**: exchanging the source and the target of
every packet of a run changes no answer, no question to the scorer with its answer, and nothing in
the state after the run, the counters and the settled verdicts included, except that each flow in
the table counts as opened by its other side. -/
theorem sides_interchangeable (monitor : Monitor σ) (x : σ) (events : List Event) :
    (monitor.run (.start x) (events.map Event.mirrored)).1 = (monitor.run (.start x) events).1 ∧
    monitor.log x (events.map Event.mirrored) = monitor.log x events ∧
    monitor.after x (events.map Event.mirrored) = (monitor.after x events).mirrored ∧
    ∀ flow s, (monitor.after x events).flows.lookup flow = some s →
      (monitor.after x (events.map Event.mirrored)).flows.lookup flow = some s.mirrored ∧
      (s.opener = flow.low ∧ s.mirrored.opener = flow.high ∨
        s.opener = flow.high ∧ s.mirrored.opener = flow.low) := by
  have hafter : monitor.after x (events.map Event.mirrored) = (monitor.after x events).mirrored :=
    congrArg Prod.snd (run_mirrored monitor x events)
  refine ⟨by rw [run_mirrored], ?_, hafter, fun flow s hlook => ⟨?_, ?_⟩⟩
  · exact congrArg (fun r => r.2.scorer.2) (run_mirrored monitor.recording (x, []) events)
  · rw [hafter, State.mirrored, FlowTable.lookup_mapStates, hlook]
    rfl
  · obtain ⟨hflow, hside⟩ := oriented_after monitor x events flow s hlook
    rw [FlowState.mirrored, hflow]
    exact FlowId.sides_of_contains hside

end Monitor

end FlowVerdict
