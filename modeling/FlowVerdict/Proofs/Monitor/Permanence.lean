import FlowVerdict.Proofs.Monitor.Assembly
import FlowVerdict.Proofs.Monitor.Stay

/-!
A settled verdict is permanent. As long as its flow stays in the table, every packet of the flow,
sent either way, gets the verdict, and no question is asked for the flow: all that the packets
change is how many there were, how large, and when the last one came.

Ports have no say in it. They let pass the packet that brought the flow into the table, and they do
not tell the two sides of a flow apart.
-/

namespace FlowVerdict

/-- The second state differs from the first in its counts and its last time stamp at most. -/
structure FlowState.Repeats (s t : FlowState) : Prop where
  flow_eq : t.flow = s.flow
  opener_eq : t.opener = s.opener
  window_eq : t.window = s.window
  windowsScored_eq : t.windowsScored = s.windowsScored
  firstSeen_eq : t.firstSeen = s.firstSeen
  latched_eq : t.latched = s.latched

namespace FlowState.Repeats

lemma refl (s : FlowState) : s.Repeats s := ⟨rfl, rfl, rfl, rfl, rfl, rfl⟩

lemma record (s : FlowState) (p : Packet) (now : Nat) : s.Repeats (s.record p now) :=
  ⟨rfl, rfl, rfl, rfl, rfl, rfl⟩

lemma trans {s t u : FlowState} (h : s.Repeats t) (h' : t.Repeats u) : s.Repeats u where
  flow_eq := h'.flow_eq.trans h.flow_eq
  opener_eq := h'.opener_eq.trans h.opener_eq
  window_eq := h'.window_eq.trans h.window_eq
  windowsScored_eq := h'.windowsScored_eq.trans h.windowsScored_eq
  firstSeen_eq := h'.firstSeen_eq.trans h.firstSeen_eq
  latched_eq := h'.latched_eq.trans h.latched_eq

end FlowState.Repeats

namespace Monitor

variable {σ : Type} {monitor : Monitor σ} {state : State σ} {flow : FlowId} {s : FlowState}
  {v : Verdict}

/-- A packet that gets a verdict at once: nothing is asked, and it counts as a hit. -/
structure Repeated (monitor : Monitor σ) (state : State σ) (p : Packet) (now : Nat) (v : Verdict) :
    Prop where
  verdict_eq : (monitor.process state p now).1 = v
  exchanges_eq : monitor.exchanges state (.packet p now) = []
  scorer_eq : (monitor.process state p now).2.scorer = state.scorer
  scorerCalls_eq : (monitor.process state p now).2.tally.scorerCalls = state.tally.scorerCalls
  latchedHits_eq : (monitor.process state p now).2.tally.latchedHits = state.tally.latchedHits + 1

/-! ### One event -/

lemma judgement_of_latched {p : Packet} (hlook : state.flows.lookup p.flow = some s)
    (hlatch : s.latched = some v) (now : Nat) : monitor.judgement state p now =
      ⟨v, s.record p now, (state.tally.packet p.payload.length).hit, state.scorer⟩ := by
  have harrive : state.arrival p now = s.record p now := by simp [State.arrival, hlook]
  have hcount : state.counted p = state.tally.packet p.payload.length := by
    simp [State.counted, hlook]
  rw [judgement, harrive, hcount]
  exact judge_of_latched hlatch

lemma asked_of_latched {x : σ} (hlatch : s.latched = some v) (p : Packet) :
    monitor.asked p s x = [] := by
  simp [asked, hlatch]

lemma askedLast_of_latched {x : σ} (hlatch : s.latched = some v) : monitor.askedLast s x = [] := by
  simp [askedLast, hlatch]

lemma repeated (hs : state.flows.Live) {p : Packet} (hports : monitor.portVerdict? p = none)
    (hlook : state.flows.lookup p.flow = some s) (hlatch : s.latched = some v) (now : Nat) :
    Repeated monitor state p now v := by
  have hproc := processed hs hports now
  have hjudge : monitor.judgement state p now = _ := judgement_of_latched hlook hlatch now
  have hverdict : (monitor.process state p now).1 = v := by rw [hproc.verdict_eq, hjudge]
  have harrive : (state.arrival p now).latched = some v := by
    simp only [State.arrival, hlook, Option.getD_some]
    exact hlatch
  have htally := hproc.tally_eq
  rw [hjudge, hverdict] at htally
  refine ⟨hverdict, ?_, by rw [hproc.scorer_eq, hjudge], ?_, ?_⟩
  · rw [exchanges_of_packet hs hports now, asked_of_latched harrive]
  · rw [htally]
    cases v <;> split <;> rfl
  · rw [htally]
    cases v <;> split <;> rfl

lemma close_of_latched (hs : state.flows.Live) (hlook : state.flows.lookup flow = some s)
    (hlatch : s.latched = some v) :
    (monitor.close state flow).1 = some v ∧ monitor.exchanges state (.close flow) = [] := by
  constructor
  · rw [(closed hs hlook).verdict_eq, lastVerdict_of_latched hlatch]
  · rw [exchanges_of_close hs hlook, askedLast_of_latched hlatch]

/-- An event that leaves a settled flow in the table leaves it settled. -/
lemma repeats_of_respond (hs : state.flows.Live)
    (hports : ∀ p : Packet, p.flow = flow → monitor.portVerdict? p = none)
    (hlook : state.flows.lookup flow = some s) (hlatch : s.latched = some v) {event : Event}
    {t : FlowState} (hnext : (monitor.respond state event).2.flows.lookup flow = some t) :
    s.Repeats t := by
  by_cases hother : ∀ p now, event = .packet p now → p.flow ≠ flow
  · obtain rfl : s = t := Option.some.inj (hlook.symm.trans (lookup_of_respond hs hother hnext))
    exact .refl s
  · push Not at hother
    obtain ⟨p, now, rfl, rfl⟩ := hother
    have hself : (monitor.process state p now).2.flows.lookup p.flow = some t := hnext
    rw [(processed hs (hports p rfl) now).lookup_self,
      judgement_of_latched hlook hlatch now] at hself
    split at hself
    · cases hself
    · obtain rfl := Option.some.inj hself
      exact .record s p now

lemma exchanges_proceed_of_latched (hs : state.flows.Live)
    (hports : ∀ p : Packet, p.flow = flow → monitor.portVerdict? p = none)
    (hlook : state.flows.lookup flow = some s) (hlatch : s.latched = some v) {event : Event}
    {stay : Stay} (hfarewell : stay.farewell = []) :
    (monitor.proceed state flow stay event).exchanges = stay.exchanges := by
  cases event with
  | packet p now =>
    by_cases hp : p.flow = flow
    · subst hp
      have hquiet := (repeated hs (hports p rfl) hlook hlatch now).exchanges_eq
      simp [proceed, Stay.exchanges, State.earlier, hlook, hquiet, hfarewell]
    · simp [proceed, hp]
  | close k =>
    by_cases hk : k = flow
    · subst hk
      have hquiet : monitor.exchanges state (.close k) = [] := (close_of_latched hs hlook hlatch).2
      simp [proceed, Stay.exchanges, hlook, hquiet, hfarewell]
    · simp [proceed, hk]
  | sweep now => rfl

/-! ### Runs -/

/-- A flow stays in the table throughout a continuation. -/
def Remains (monitor : Monitor σ) (x : σ) (flow : FlowId) (events more : List Event) : Prop :=
  ∀ before, before <+: more → ((monitor.after x (events ++ before)).flows.lookup flow).isSome

lemma Remains.init {x : σ} {events more : List Event} {event : Event}
    (h : monitor.Remains x flow events (more ++ [event])) : monitor.Remains x flow events more :=
  fun before hb => h before (hb.trans (List.prefix_append more [event]))

lemma Remains.repeats {x : σ} {events more : List Event}
    (hkept : monitor.Remains x flow events more)
    (hlook : (monitor.after x events).flows.lookup flow = some s) (hlatch : s.latched = some v) :
    (∃ t, (monitor.after x (events ++ more)).flows.lookup flow = some t ∧ s.Repeats t) ∧
      (monitor.stay x flow (events ++ more)).exchanges =
        (monitor.stay x flow events).exchanges := by
  induction more using List.reverseRecOn with
  | nil => simpa using ⟨s, hlook, .refl s⟩
  | append_singleton more event ih =>
    obtain ⟨⟨t, ht, hrep⟩, hasked⟩ := ih hkept.init
    obtain ⟨t', ht'⟩ := Option.isSome_iff_exists.mp (hkept (more ++ [event]) List.prefix_rfl)
    have hs : (monitor.after x (events ++ more)).flows.Live := after_live x (events ++ more)
    have hports : ∀ p : Packet, p.flow = flow → monitor.portVerdict? p = none := fun _ hp =>
      portVerdict?_of_lookup ht hp
    have htlatch : t.latched = some v := hrep.latched_eq.trans hlatch
    rw [← List.append_assoc] at ht' ⊢
    refine ⟨⟨t', ht', ?_⟩, ?_⟩
    · rw [after_snoc] at ht'
      exact hrep.trans (repeats_of_respond hs hports ht htlatch ht')
    · rw [stay_snoc, exchanges_proceed_of_latched hs hports ht htlatch (path_of_lookup ht).2.2.1]
      exact hasked

/-- **A settled verdict is permanent**: as long as its flow is in the table, every packet of the
flow gets the verdict without a question and is counted as a hit, the host's end of the flow comes
to the verdict without a question, and the flow's window, opener and settled verdict stay. -/
theorem settled_for_good (monitor : Monitor σ) (x : σ) (flow : FlowId) (events more : List Event)
    (hlook : (monitor.after x events).flows.lookup flow = some s) (hlatch : s.latched = some v)
    (hkept : monitor.Remains x flow events more) :
    let state := monitor.after x (events ++ more)
    (∃ t, state.flows.lookup flow = some t ∧ t.latched = some v ∧ s.Repeats t) ∧
    (monitor.stay x flow (events ++ more)).exchanges = (monitor.stay x flow events).exchanges ∧
    (∀ p now, p.flow = flow → Repeated monitor state p now v) ∧
    (monitor.close state flow).1 = some v ∧ monitor.exchanges state (.close flow) = [] := by
  intro state
  obtain ⟨⟨t, ht, hrep⟩, hasked⟩ := hkept.repeats hlook hlatch
  have hs : state.flows.Live := after_live x (events ++ more)
  have htlatch : t.latched = some v := hrep.latched_eq.trans hlatch
  refine ⟨⟨t, ht, htlatch, hrep⟩, hasked, fun p now hp => ?_, close_of_latched hs ht htlatch⟩
  subst hp
  exact repeated hs (portVerdict?_of_lookup ht rfl) ht htlatch now

open Sample in
/-- A flow that its second packet settled drops what comes back, whatever happens to another
flow. -/
theorem settled_for_good_reply :
    let events := [.packet (packet 5) 3, .packet (packet 5) 4]
    let more := [.packet (packet 6) 5, .packet (reply 5) 6, .sweep 7, .close (packet 6).flow]
    let state := Sample.monitor.after (.start ()) (events ++ more)
    (Sample.monitor.after (.start ()) events).settled? (packet 5).flow = some .drop ∧
    Sample.monitor.Remains (.start ()) (packet 5).flow events more ∧
    state.settled? (packet 5).flow = some .drop ∧
    Repeated Sample.monitor state (reply 5) 8 .drop := by
  intro events more state
  have hkept : Sample.monitor.Remains (.start ()) (packet 5).flow events more := by
    intro before hb
    have hall : ∀ n < 5, ((Sample.monitor.after (.start ()) (events ++ more.take n)).flows.lookup
        (packet 5).flow).isSome := by decide +kernel
    rw [List.prefix_iff_eq_take.mp hb]
    exact hall _ (Nat.lt_succ_of_le hb.length_le)
  have hsettled : (Sample.monitor.after (.start ()) events).settled? (packet 5).flow =
      some .drop := by decide +kernel
  obtain ⟨s, hlook, hlatch⟩ := Option.bind_eq_some_iff.mp hsettled
  obtain ⟨⟨t, ht, htlatch, -⟩, -, hrepeated, -⟩ :=
    settled_for_good Sample.monitor (.start ()) (packet 5).flow events more hlook hlatch hkept
  have hflow : (reply 5).flow = (packet 5).flow := by decide +kernel
  exact ⟨hsettled, hkept, Option.bind_eq_some_iff.mpr ⟨t, ht, htlatch⟩,
    hrepeated (reply 5) 8 hflow⟩

end Monitor

end FlowVerdict
