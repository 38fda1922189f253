import FlowVerdict.Proofs.Monitor.Stay

/-!
Flows that the ports stop, and flows in the table.

No flow is both. A flow comes into the table with a packet that its ports let pass, and ports do not
tell the two directions of a flow apart, so they let pass all packets of the flow. A packet that
they stop never gets as far as the table.
-/

namespace FlowVerdict.Monitor

variable {σ : Type} {monitor : Monitor σ} {state : State σ} {flow : FlowId}

lemma portVerdict?_of_hasPorts {p : Packet} (h : p.transport.hasPorts = true) :
    monitor.portVerdict? p = monitor.settings.ports.verdict? p.source.port p.target.port := by
  rw [portVerdict?, if_pos h]

lemma portVerdict?_of_portless {p : Packet} (h : p.transport.hasPorts = false) :
    monitor.portVerdict? p = none := by
  simp [portVerdict?, h]

lemma verdict?_of_flow_eq {p : Packet} (policy : PortPolicy) (hp : p.flow = flow) :
    policy.verdict? flow.low.port flow.high.port =
      policy.verdict? p.source.port p.target.port := by
  rcases Packet.sides_of_flow hp with ⟨hsource, htarget⟩ | ⟨hsource, htarget⟩
  · rw [hsource, htarget]
  · rw [hsource, htarget, PortPolicy.verdict?_comm]

lemma exists_packet_of_lookup {x : σ} {events : List Event} {s : FlowState}
    (h : (monitor.after x events).flows.lookup flow = some s) :
    ∃ p : Packet, p.flow = flow ∧ monitor.portVerdict? p = none := by
  obtain ⟨path, hne, -, -⟩ := path_of_lookup h
  obtain ⟨g, hmem⟩ := List.exists_mem_of_ne_nil _ hne
  exact ⟨g.packet, path.flow_eq_of_mem hmem⟩

/-- What a packet that its ports stop does to a monitor: it is counted with its verdict, and nothing
else changes. -/
structure Stopped (state : State σ) (p : Packet) (v : Verdict) (r : Verdict × State σ) : Prop where
  verdict_eq : r.1 = v
  flows_eq : r.2.flows = state.flows
  scorer_eq : r.2.scorer = state.scorer
  tally_eq : r.2.tally = (state.tally.packet p.payload.length).verdict v

/-- **Ports and flows keep apart**: in every run, no flow in the table has ports that the policy
stops. The policy has one recommendation for all packets of a flow, and it is never to let pass. A
packet that it stops gets what it recommends, and no flow, no question to the scorer and no counter
but those of packets, bytes and that verdict comes of it. A packet of a protocol without ports is
judged on its flow, whatever its ports. -/
theorem ports_and_flows_apart (monitor : Monitor σ) (x : σ) (events : List Event) :
    let state := monitor.after x events
    let policy := monitor.settings.ports
    (∀ flow s, state.flows.lookup flow = some s → flow.transport.hasPorts = true →
      policy.verdict? flow.low.port flow.high.port = none) ∧
    (∀ a b v, policy.verdict? a b = some v ↔ policy.Recommends a b v) ∧
    (∀ a b, policy.verdict? a b = policy.verdict? b a ∧ policy.verdict? a b ≠ some .pass) ∧
    (∀ p q : Packet, p.flow = q.flow → monitor.portVerdict? p = monitor.portVerdict? q) ∧
    (∀ p now v, p.transport.hasPorts = true →
      policy.verdict? p.source.port p.target.port = some v →
      Stopped state p v (monitor.process state p now) ∧
        monitor.exchanges state (.packet p now) = []) ∧
    ∀ p now, p.transport.hasPorts = false →
      Processed monitor state p now (monitor.process state p now) := by
  intro state policy
  refine ⟨fun flow s hlook hports => ?_, fun a b v => PortPolicy.verdict?_eq_some_iff,
    fun a b => ⟨policy.verdict?_comm a b, fun hpass => ?_⟩,
    fun p q => monitor.portVerdict?_eq_of_flow_eq, fun p now v hports hv => ?_,
    fun p now hports => ?_⟩
  · obtain ⟨p, hp, hfree⟩ := exists_packet_of_lookup hlook
    have htransport : p.transport = flow.transport := by
      rw [← hp]
      rcases FlowId.between_eq_or p.source p.target p.transport with heq | heq <;>
        rw [Packet.flow, heq]
    rw [← htransport] at hports
    rw [verdict?_of_flow_eq policy hp, ← hfree, portVerdict?_of_hasPorts hports]
  · exact (PortPolicy.verdict?_eq_some_iff.mp hpass).ne_pass rfl
  · have hstop : monitor.portVerdict? p = some v := (portVerdict?_of_hasPorts hports).trans hv
    rw [process_of_stopped hstop]
    exact ⟨⟨rfl, rfl, rfl, rfl⟩, exchanges_of_stopped hstop now⟩
  · exact processed (after_live x events) (portVerdict?_of_portless hports) now

end FlowVerdict.Monitor
