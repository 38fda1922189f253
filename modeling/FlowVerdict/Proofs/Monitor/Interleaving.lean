import FlowVerdict.Proofs.Monitor.Conservation
import Mathlib.Algebra.BigOperators.Group.Finset.Basic

/-!
A monitor is as many monitors as it has flows. As long as no idle flows are looked for and the
scorer answers each question in one way, a flow is left in the state in which a monitor leaves it
that sees nothing but the events of this flow, and the counters are the sums of the counters of all
these monitors. So it does not matter how the events of different flows are interleaved.
-/

namespace FlowVerdict

open Monitor (Event)

/-! ### Counters that are added -/

namespace Tally

instance : Zero Tally := ⟨zero⟩

/-- Counters are added one by one. -/
instance : Add Tally where
  add t u :=
    { packets := t.packets + u.packets
      bytes := t.bytes + u.bytes
      passed := t.passed + u.passed
      dropped := t.dropped + u.dropped
      reset := t.reset + u.reset
      flowsCreated := t.flowsCreated + u.flowsCreated
      flowsEvicted := t.flowsEvicted + u.flowsEvicted
      scorerCalls := t.scorerCalls + u.scorerCalls
      scorerFailures := t.scorerFailures + u.scorerFailures
      latchedHits := t.latchedHits + u.latchedHits }

lemma add_def (t u : Tally) : t + u =
    ⟨t.packets + u.packets, t.bytes + u.bytes, t.passed + u.passed, t.dropped + u.dropped,
      t.reset + u.reset, t.flowsCreated + u.flowsCreated, t.flowsEvicted + u.flowsEvicted,
      t.scorerCalls + u.scorerCalls, t.scorerFailures + u.scorerFailures,
      t.latchedHits + u.latchedHits⟩ := rfl

lemma zero_def : (0 : Tally) = ⟨0, 0, 0, 0, 0, 0, 0, 0, 0, 0⟩ := rfl

instance : AddCommMonoid Tally where
  add_assoc t u v := by simp only [add_def, Nat.add_assoc]
  zero_add t := by simp only [add_def, zero_def, Nat.zero_add]
  add_zero t := rfl
  add_comm t u := by simp only [add_def, Nat.add_comm]
  nsmul := nsmulRec

/-- The update adds the same, whatever has been counted before. -/
def Steady (update : Tally → Tally) : Prop := ∃ amount, ∀ t, update t = t + amount

namespace Steady

lemma packet (bytes : Nat) : Steady (·.packet bytes) :=
  ⟨⟨1, bytes, 0, 0, 0, 0, 0, 0, 0, 0⟩, fun _ => rfl⟩

lemma verdict (v : Verdict) : Steady (·.verdict v) := by
  cases v with
  | pass => exact ⟨⟨0, 0, 1, 0, 0, 0, 0, 0, 0, 0⟩, fun _ => rfl⟩
  | drop => exact ⟨⟨0, 0, 0, 1, 0, 0, 0, 0, 0, 0⟩, fun _ => rfl⟩
  | reset => exact ⟨⟨0, 0, 0, 0, 1, 0, 0, 0, 0, 0⟩, fun _ => rfl⟩

lemma created : Steady (·.created) := ⟨⟨0, 0, 0, 0, 0, 1, 0, 0, 0, 0⟩, fun _ => rfl⟩

lemma evicted (count : Nat) : Steady (·.evicted count) :=
  ⟨⟨0, 0, 0, 0, 0, 0, count, 0, 0, 0⟩, fun _ => rfl⟩

lemma questions (es : List Exchange) : Steady (·.questions es) :=
  ⟨⟨0, 0, 0, 0, 0, 0, 0, es.length, es.countP (·.Failed), 0⟩, fun _ => rfl⟩

lemma hit : Steady (·.hit) := ⟨⟨0, 0, 0, 0, 0, 0, 0, 0, 0, 1⟩, fun _ => rfl⟩

lemma comp {f g : Tally → Tally} (hf : Steady f) (hg : Steady g) : Steady fun t => g (f t) := by
  obtain ⟨a, ha⟩ := hf
  obtain ⟨b, hb⟩ := hg
  exact ⟨a + b, fun t => by simp only [hb, ha, add_assoc]⟩

lemma ite {f : Tally → Tally} (hf : Steady f) (made : Bool) :
    Steady fun t => if made then f t else t := by
  cases made with
  | false => exact ⟨0, fun t => (add_zero t).symm⟩
  | true => exact hf

end Steady

/-- The counters after a packet that was judged on its flow: whether it opened the flow, whether the
flow was settled, whether the flow left the table, what was asked, and the verdict. -/
def judged (bytes : Nat) (isNew settled isLast : Bool) (es : List Exchange) (v : Verdict)
    (t : Tally) : Tally :=
  let t := t.packet bytes
  let t := if isNew then t.created else t
  let t := if settled then t.hit else t
  let t := t.questions es
  let t := if isLast then t.evicted 1 else t
  t.verdict v

lemma steady_judged (bytes : Nat) (isNew settled isLast : Bool) (es : List Exchange)
    (v : Verdict) : Steady (judged bytes isNew settled isLast es v) :=
  (Steady.packet bytes).comp <| (Steady.created.ite isNew).comp <| (Steady.hit.ite settled).comp <|
    (Steady.questions es).comp <| ((Steady.evicted 1).ite isLast).comp <| Steady.verdict v

end Tally

namespace Monitor

variable {σ : Type} {monitor : Monitor σ} {state a b : State σ} {good : σ → Prop}
  {oracle : String → List Float32 → Answer} {x y : σ} {flow : FlowId}

/-! ### What an event does to its flow and to the counters -/

lemma Follows.judge_same (h : monitor.Follows good oracle) (p : Packet) (s : FlowState)
    (t u : Tally) (hx : good x) (hy : good y) :
    (monitor.judge p s t x).verdict = (monitor.judge p s u y).verdict ∧
      (monitor.judge p s t x).flow = (monitor.judge p s u y).flow := by
  obtain ⟨hverdict, hflow⟩ := judge_uncounted monitor p s t u x
  have hagree := judge_agrees h.alike p s u (x := x) (y := y) ⟨hx, hy⟩
  exact ⟨hverdict.trans hagree.verdict_eq, hflow.trans hagree.flow_eq⟩

lemma Follows.exchange_eq (h : monitor.Follows good oracle) {m : ModelClassifier σ}
    (hc : monitor.classifier = .model m) (s : FlowState) (hx : good x) (hy : good y) :
    m.exchange s x = m.exchange s y := by
  have hanswer := ((h m hc).inStep x y m.name (m.window.flatten s.window) ⟨hx, hy⟩).1
  simp only [ModelClassifier.exchange, hanswer]

lemma Follows.asked_eq (h : monitor.Follows good oracle) (p : Packet) (s : FlowState)
    (hx : good x) (hy : good y) : monitor.asked p s x = monitor.asked p s y := by
  unfold asked
  split
  · next hc => rw [h.exchange_eq hc _ hx hy]
  · rfl

lemma Follows.askedLast_eq (h : monitor.Follows good oracle) (s : FlowState) (hx : good x)
    (hy : good y) : monitor.askedLast s x = monitor.askedLast s y := by
  unfold askedLast
  split
  · next hc => rw [h.exchange_eq hc _ hx hy]
  · rfl

lemma process_tally (hs : state.flows.Live) {p : Packet} (hports : monitor.portVerdict? p = none)
    (now : Nat) : (monitor.process state p now).2.tally =
      state.tally.judged p.payload.length (state.flows.lookup p.flow).isNone
        (state.arrival p now).latched.isSome
        (monitor.isLast p (monitor.process state p now).1)
        (monitor.asked p (state.arrival p now) state.scorer)
        (monitor.process state p now).1 := by
  rw [(processed hs hports now).tally_eq, judgement, judge_tally]
  rfl

/-- The flow that an event is about. A sweep is about all flows. -/
def Event.flow? : Event → Option FlowId
  | .packet p _ => some p.flow
  | .close flow => some flow
  | .sweep _ => none

/-- **An event is a matter of its flow alone**: two monitors that have the same to say of the flow
are left with the same to say of it, and the event adds the same to their counters. -/
theorem Follows.respond_same (h : monitor.Follows good oracle) (ha : a.flows.Live)
    (hb : b.flows.Live) (hx : good a.scorer) (hy : good b.scorer) {event : Event}
    (hevent : event.flow? = some flow) (hlook : a.flows.lookup flow = b.flows.lookup flow) :
    (monitor.respond a event).2.flows.lookup flow = (monitor.respond b event).2.flows.lookup flow ∧
      ∃ amount, (monitor.respond a event).2.tally = a.tally + amount ∧
        (monitor.respond b event).2.tally = b.tally + amount := by
  cases event with
  | packet p now =>
    obtain rfl := Option.some.inj hevent
    cases hports : monitor.portVerdict? p with
    | some v =>
      obtain ⟨amount, hamount⟩ := (Tally.Steady.packet p.payload.length).comp (.verdict v)
      simp only [respond, process_of_stopped hports]
      exact ⟨hlook, amount, hamount a.tally, hamount b.tally⟩
    | none =>
      -- Both monitors judge the packet on one and the same state of its flow, and count the same.
      have harrive : a.arrival p now = b.arrival p now := by rw [State.arrival, hlook]; rfl
      have hprocA : Processed monitor a p now _ := processed ha hports now
      have hprocB : Processed monitor b p now _ := processed hb hports now
      obtain ⟨hverdict, hflow⟩ := h.judge_same p (b.arrival p now) (a.counted p) (b.counted p) hx hy
      have hv : (monitor.process a p now).1 = (monitor.process b p now).1 := by
        rw [hprocA.verdict_eq, hprocB.verdict_eq, judgement, judgement, harrive, hverdict]
      obtain ⟨amount, hamount⟩ := Tally.steady_judged p.payload.length
        (b.flows.lookup p.flow).isNone (b.arrival p now).latched.isSome
        (monitor.isLast p (monitor.process b p now).1)
        (monitor.asked p (b.arrival p now) b.scorer) (monitor.process b p now).1
      refine ⟨?_, amount, ?_, ?_⟩
      · simp only [respond, hprocA.lookup_self, hprocB.lookup_self, hv, judgement, harrive, hflow]
      · rw [← hamount, respond, process_tally ha hports, hv, harrive, hlook,
          h.asked_eq p _ hx hy]
      · rw [← hamount, respond, process_tally hb hports]
  | close k =>
    obtain rfl := Option.some.inj hevent
    cases hfound : b.flows.lookup k with
    | none =>
      have hfoundA := hlook.trans hfound
      simp only [respond, close_of_absent hfound, close_of_absent hfoundA]
      exact ⟨hlook, 0, (add_zero _).symm, (add_zero _).symm⟩
    | some s =>
      have hclosedA : Closed monitor a k s _ := closed ha (hlook.trans hfound)
      have hclosedB : Closed monitor b k s _ := closed hb hfound
      obtain ⟨amount, hamount⟩ :=
        (Tally.Steady.questions (monitor.askedLast s b.scorer)).comp (.evicted 1)
      refine ⟨?_, amount, ?_, ?_⟩
      · simp only [respond, hclosedA.lookup_eq, hclosedB.lookup_eq, if_true]
      · rw [← hamount, respond, hclosedA.tally_eq, lastVerdict_tally, h.askedLast_eq s hx hy]
      · rw [← hamount, respond, hclosedB.tally_eq, lastVerdict_tally]
  | sweep now => cases hevent

lemma lookup_respond_of_ne (hs : state.flows.Live) {event : Event} {k : FlowId}
    (hevent : event.flow? = some flow) (hk : k ≠ flow) :
    (monitor.respond state event).2.flows.lookup k = state.flows.lookup k := by
  cases event with
  | packet p now =>
    obtain rfl := Option.some.inj hevent
    exact lookup_process_of_ne hs hk now
  | close k' =>
    obtain rfl := Option.some.inj hevent
    exact lookup_close_of_ne hs hk
  | sweep now => cases hevent

/-! ### One monitor for each flow -/

def eventsOf (flow : FlowId) (events : List Event) : List Event :=
  events.filter (·.flow? == some flow)

lemma eventsOf_snoc_self {event : Event} (hevent : event.flow? = some flow) (events : List Event) :
    eventsOf flow (events ++ [event]) = eventsOf flow events ++ [event] := by
  simp [eventsOf, hevent]

lemma eventsOf_snoc_of_ne {event : Event} {k : FlowId} (hevent : event.flow? = some flow)
    (hk : k ≠ flow) (events : List Event) :
    eventsOf k (events ++ [event]) = eventsOf k events := by
  simp [eventsOf, hevent, Ne.symm hk]

/-- **A flow has a monitor to itself**: a run without sweeps leaves a flow as the events about the
flow alone would leave it. -/
theorem Follows.lookup_eventsOf (h : monitor.Follows good oracle) (hx : good x)
    {events : List Event} (hsteps : ∀ event ∈ events, event.flow? ≠ none) (k : FlowId) :
    (monitor.after x events).flows.lookup k =
      (monitor.after x (eventsOf k events)).flows.lookup k := by
  induction events using List.reverseRecOn with
  | nil => rfl
  | append_singleton events event ih =>
    obtain ⟨flow, hevent⟩ := Option.ne_none_iff_exists'.mp (hsteps event (by simp))
    have ih := ih fun e he => hsteps e (List.mem_append_left _ he)
    rw [after_snoc]
    by_cases hk : k = flow
    · subst hk
      rw [eventsOf_snoc_self hevent, after_snoc]
      exact (h.respond_same (after_live x events) (after_live x _) (h.good_after hx events)
        (h.good_after hx _) hevent ih).1
    · rw [eventsOf_snoc_of_ne hevent hk, lookup_respond_of_ne (after_live x events) hevent hk, ih]

/-- **The counters are sums over the flows**: a run without sweeps counts what the events about each
flow alone would count, all flows taken together. -/
theorem Follows.tally_eq_sum (h : monitor.Follows good oracle) (hx : good x) {events : List Event}
    {flows : Finset FlowId} (hsteps : ∀ event ∈ events, ∃ k ∈ flows, event.flow? = some k) :
    (monitor.after x events).tally =
      ∑ k ∈ flows, (monitor.after x (eventsOf k events)).tally := by
  induction events using List.reverseRecOn with
  | nil => exact (Finset.sum_eq_zero fun _ _ => rfl).symm
  | append_singleton events event ih =>
    obtain ⟨flow, hmem, hevent⟩ := hsteps event (by simp)
    have hsteps' : ∀ e ∈ events, ∃ k ∈ flows, e.flow? = some k := fun e he =>
      hsteps e (List.mem_append_left _ he)
    have hlook : (monitor.after x events).flows.lookup flow =
        (monitor.after x (eventsOf flow events)).flows.lookup flow := by
      refine h.lookup_eventsOf hx (fun e he => ?_) flow
      obtain ⟨k, -, hk⟩ := hsteps' e he
      simp [hk]
    obtain ⟨-, amount, hall, hown⟩ := h.respond_same (after_live x events) (after_live x _)
      (h.good_after hx events) (h.good_after hx _) hevent hlook
    -- Only the summand of the event's own flow grows.
    have hothers :
        ∑ k ∈ flows.erase flow, (monitor.after x (eventsOf k (events ++ [event]))).tally =
          ∑ k ∈ flows.erase flow, (monitor.after x (eventsOf k events)).tally :=
      Finset.sum_congr rfl fun k hk => by
        rw [eventsOf_snoc_of_ne hevent (Finset.ne_of_mem_erase hk)]
    rw [after_snoc, hall, ih hsteps', ← Finset.add_sum_erase _ _ hmem,
      ← Finset.add_sum_erase _ _ hmem, hothers, eventsOf_snoc_self hevent, after_snoc, hown]
    exact add_right_comm _ _ _

/-! ### Interleavings -/

/-- The events are the sequences of a family, one for each flow, run together in some order. -/
structure Interleaves (family : FlowId → List Event) (events : List Event) : Prop where
  flow_ne : ∀ event ∈ events, event.flow? ≠ none
  eventsOf_eq : ∀ flow, eventsOf flow events = family flow

/-- **The order of different flows does not matter**: two runs that interleave the same sequences of
packets and ends of flows, one for each flow, leave the same counters, the numbers of flows that
entered and left the table included, and the same state of every flow. -/
theorem interleavings_agree {settings : Settings} {backend : Backend σ} {monitor : Monitor (Pool σ)}
    (haccepted : withBackend settings backend = .ok monitor) (hanswers : backend.Answers oracle)
    (source : σ) {family : FlowId → List Event} {events more : List Event}
    (hevents : Interleaves family events) (hmore : Interleaves family more) :
    (monitor.after (.start source) events).tally = (monitor.after (.start source) more).tally ∧
    (monitor.after (.start source) events).flows.created =
      (monitor.after (.start source) more).flows.created ∧
    (monitor.after (.start source) events).flows.evicted =
      (monitor.after (.start source) more).flows.evicted ∧
    ∀ flow, (monitor.after (.start source) events).flows.lookup flow =
      (monitor.after (.start source) more).flows.lookup flow := by
  have hfollows := follows_of_withBackend haccepted hanswers
  have hstart := Pool.whole_start source
  have hsame : ∀ k, eventsOf k events = eventsOf k more := fun k =>
    (hevents.eventsOf_eq k).trans (hmore.eventsOf_eq k).symm
  -- Both runs are about the same flows.
  have hflows : ∀ l, Interleaves family l →
      ∀ event ∈ l, ∃ k ∈ (events.filterMap Event.flow?).toFinset, event.flow? = some k := by
    intro l hl event hmem
    obtain ⟨k, hk⟩ := Option.ne_none_iff_exists'.mp (hl.flow_ne event hmem)
    have hin : event ∈ eventsOf k events := by
      rw [hevents.eventsOf_eq k, ← hl.eventsOf_eq k]
      exact List.mem_filter.mpr ⟨hmem, by simp [hk]⟩
    exact ⟨k, List.mem_toFinset.mpr (List.mem_filterMap.mpr
      ⟨event, (List.mem_filter.mp hin).1, hk⟩), hk⟩
  have htally : (monitor.after (.start source) events).tally =
      (monitor.after (.start source) more).tally := by
    rw [hfollows.tally_eq_sum hstart (hflows events hevents),
      hfollows.tally_eq_sum hstart (hflows more hmore)]
    exact Finset.sum_congr rfl fun k _ => by rw [hsame k]
  have hbalance := after_balanced monitor (.start source) events
  have hbalance' := after_balanced monitor (.start source) more
  refine ⟨htally, ?_, ?_, fun flow => ?_⟩
  · rw [← hbalance.created_eq, ← hbalance'.created_eq, htally]
  · rw [← hbalance.evicted_eq, ← hbalance'.evicted_eq, htally]
  · rw [hfollows.lookup_eventsOf hstart hevents.flow_ne flow,
      hfollows.lookup_eventsOf hstart hmore.flow_ne flow, hsame flow]

open Sample in
/-- Two packets of one flow, which fill its window, before those of another flow that the host ends,
and in turn with them. -/
theorem interleavings_agree_two_flows :
    let apart : List Event := [.packet (packet 5) 3, .packet (packet 5) 7, .packet (packet 6) 4,
      .close (packet 6).flow]
    let mixed : List Event := [.packet (packet 6) 4, .packet (packet 5) 3, .close (packet 6).flow,
      .packet (packet 5) 7]
    Interleaves (eventsOf · apart) apart ∧ Interleaves (eventsOf · apart) mixed ∧
    (Sample.monitor.after (.start ()) mixed).tally.dropped = 1 ∧
    (Sample.monitor.after (.start ()) apart).tally =
      (Sample.monitor.after (.start ()) mixed).tally := by
  intro apart mixed
  have hne : (packet 5).flow ≠ (packet 6).flow := by decide +kernel
  have hapart : Interleaves (eventsOf · apart) apart :=
    ⟨by simp [apart, Event.flow?], fun _ => rfl⟩
  have hmixed : Interleaves (eventsOf · apart) mixed := by
    refine ⟨by simp [mixed, Event.flow?], fun flow => ?_⟩
    by_cases hfive : (packet 5).flow = flow
    · subst hfive
      simp [eventsOf, apart, mixed, Event.flow?, Ne.symm hne]
    · by_cases hsix : (packet 6).flow = flow <;>
        simp [eventsOf, apart, mixed, Event.flow?, hfive, hsix]
  exact ⟨hapart, hmixed, by decide +kernel,
    (interleavings_agree accepted answers () hapart hmixed).1⟩

end Monitor

end FlowVerdict
