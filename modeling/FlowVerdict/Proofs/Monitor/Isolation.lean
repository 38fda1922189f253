import FlowVerdict.Proofs.Monitor.Assembly
import FlowVerdict.Proofs.Monitor.Mapping

/-!
Flows do not feel each other. Over a scorer that answers each question in one way, what a monitor
says of a flow is what a new monitor would say that has seen the packets of the flow's present stay
and nothing else: no other flow, no earlier stay, and no time stamp has a part in it.

Two states are kindred in a flow if they keep it in the same condition, time stamps aside. A packet
of the flow, put to both at different times, gets one verdict and leaves them kindred.
-/

namespace FlowVerdict

def FlowState.untimed (s : FlowState) : FlowState := { s with firstSeen := 0, lastSeen := 0 }

lemma FlowState.spares_untimed : Spares untimed :=
  ⟨fun _ _ _ _ => rfl, fun _ => rfl, fun _ => rfl⟩

lemma FlowState.untimed_record {s t : FlowState} (h : s.untimed = t.untimed) (p : Packet)
    (now later : Nat) : (s.record p now).untimed = (t.record p later).untimed := by
  simp only [untimed, FlowState.mk.injEq] at h
  obtain ⟨hflow, hopener, hpackets, hbytes, hwindow, hscored, -, -, hlatch, hevicted⟩ := h
  simp only [untimed, record, hflow, hopener, hpackets, hbytes, hwindow, hscored, hlatch, hevicted]

namespace Monitor

variable {σ : Type} {monitor : Monitor σ} {good : σ → Prop}
  {oracle : String → List Float32 → Answer}

/-! ### Judgements -/

lemma score_untimed (m : ModelClassifier σ) {s : FlowState} (hlatch : s.latched = none)
    (tally tally' : Tally) (x : σ) :
    (monitor.score m s.untimed tally' x).verdict = (monitor.score m s tally x).verdict := by
  rw [score_mapFlow monitor FlowState.spares_untimed m hlatch]
  exact (score_uncounted monitor m s tally' tally x).1

/-- A judgement depends neither on the time stamps of the flow nor on the counters. -/
lemma judge_untimed (monitor : Monitor σ) (p : Packet) (s : FlowState) (tally tally' : Tally)
    (x : σ) :
    (monitor.judge p s.untimed tally' x).verdict = (monitor.judge p s tally x).verdict ∧
      (monitor.judge p s.untimed tally' x).flow = (monitor.judge p s tally x).flow.untimed := by
  obtain ⟨hverdict, hflow⟩ := judge_uncounted monitor p s tally' tally x
  rw [judge_mapFlow FlowState.spares_untimed (Equates.refl monitor p) rfl]
  exact ⟨hverdict, congrArg FlowState.untimed hflow⟩

lemma Follows.judge_eq (h : monitor.Follows good oracle) (p : Packet) {s t : FlowState}
    (hst : s.untimed = t.untimed) (tally tally' : Tally) {x y : σ} (hx : good x) (hy : good y) :
    (monitor.judge p s tally x).verdict = (monitor.judge p t tally' y).verdict ∧
      (monitor.judge p s tally x).flow.untimed = (monitor.judge p t tally' y).flow.untimed := by
  obtain ⟨hv, hf⟩ := judge_untimed monitor p s tally tally x
  obtain ⟨hv', hf'⟩ := judge_untimed monitor p t tally' tally y
  have hagree := judge_agrees h.alike p s.untimed tally (x := x) (y := y) ⟨hx, hy⟩
  rw [← hv, ← hf, ← hv', ← hf', ← hst]
  exact ⟨hagree.verdict_eq, hagree.flow_eq⟩

lemma lastVerdict_untimed (monitor : Monitor σ) (a : State σ) (s : FlowState) :
    (monitor.lastVerdict a s).1 =
      (monitor.lastVerdict ⟨.empty, .zero, a.scorer⟩ s.untimed).1 := by
  cases hlatch : s.latched with
  | some v =>
    have hlatch' : s.untimed.latched = some v := hlatch
    rw [lastVerdict_of_latched hlatch, lastVerdict_of_latched hlatch']
  | none =>
    have hlatch' : s.untimed.latched = none := hlatch
    cases hc : monitor.classifier with
    | fingerprint f =>
      rw [lastVerdict_of_fingerprint hc hlatch, lastVerdict_of_fingerprint hc hlatch']
    | model m =>
      cases hask : monitor.settings.asksEarly s with
      | false =>
        have hask' : monitor.settings.asksEarly s.untimed = false := hask
        rw [lastVerdict_of_silent hc hlatch hask, lastVerdict_of_silent hc hlatch' hask']
      | true =>
        have hask' : monitor.settings.asksEarly s.untimed = true := hask
        rw [lastVerdict_of_asking hc hlatch hask, lastVerdict_of_asking hc hlatch' hask']
        exact congrArg some (score_untimed m hlatch a.tally .zero a.scorer).symm

lemma Follows.lastVerdict_eq (h : monitor.Follows good oracle) {s t : FlowState}
    (hst : s.untimed = t.untimed) {a b : State σ} (ha : good a.scorer) (hb : good b.scorer) :
    (monitor.lastVerdict a s).1 = (monitor.lastVerdict b t).1 := by
  rw [lastVerdict_untimed monitor a s, lastVerdict_untimed monitor b t, ← hst]
  exact (lastVerdict_matches h.alike (s := ⟨.empty, .zero, a.scorer⟩)
    (t := ⟨.empty, .zero, b.scorer⟩) ⟨rfl, rfl, ha, hb⟩ s.untimed).1

/-! ### Kindred states -/

structure Kindred (good : σ → Prop) (flow : FlowId) (a b : State σ) : Prop where
  left_live : a.flows.Live
  right_live : b.flows.Live
  left_good : good a.scorer
  right_good : good b.scorer
  lookup_eq : (a.flows.lookup flow).map FlowState.untimed =
    (b.flows.lookup flow).map FlowState.untimed

variable {a b : State σ}

lemma Kindred.arrival_eq {p : Packet} (h : Kindred good p.flow a b) (now later : Nat) :
    (a.arrival p now).untimed = (b.arrival p later).untimed := by
  refine FlowState.untimed_record ?_ p now later
  have hlook := h.lookup_eq
  cases ha : a.flows.lookup p.flow with
  | none =>
    cases hb : b.flows.lookup p.flow with
    | none => rfl
    | some t => simp [ha, hb] at hlook
  | some s =>
    cases hb : b.flows.lookup p.flow with
    | none => simp [ha, hb] at hlook
    | some t => simpa [ha, hb] using hlook

lemma Follows.process_good (h : monitor.Follows good oracle) (ha : good a.scorer) (p : Packet)
    (now : Nat) : good (monitor.process a p now).2.scorer :=
  (process_matches h.alike ⟨rfl, rfl, ha, ha⟩ p now).2.related.1

/-- A packet put to kindred states gets one verdict and leaves them kindred. -/
theorem Kindred.process (h : monitor.Follows good oracle) {p : Packet}
    (hab : Kindred good p.flow a b) (now later : Nat) :
    (monitor.process a p now).1 = (monitor.process b p later).1 ∧
      Kindred good p.flow (monitor.process a p now).2 (monitor.process b p later).2 := by
  have hkin : (monitor.process a p now).1 = (monitor.process b p later).1 ∧
      ((monitor.process a p now).2.flows.lookup p.flow).map FlowState.untimed =
        ((monitor.process b p later).2.flows.lookup p.flow).map FlowState.untimed := by
    cases hports : monitor.portVerdict? p with
    | some v =>
      rw [process_of_stopped hports, process_of_stopped hports]
      exact ⟨rfl, hab.lookup_eq⟩
    | none =>
      have hpa := processed hab.left_live hports now
      have hpb := processed hab.right_live hports later
      obtain ⟨hverdict, hflow⟩ := h.judge_eq p (hab.arrival_eq now later) (a.counted p)
        (b.counted p) hab.left_good hab.right_good
      have heq : (monitor.process a p now).1 = (monitor.process b p later).1 := by
        rw [hpa.verdict_eq, hpb.verdict_eq]
        exact hverdict
      refine ⟨heq, ?_⟩
      rw [hpa.lookup_self, hpb.lookup_self, heq]
      split
      · rfl
      · exact congrArg some hflow
  exact ⟨hkin.1, process_live hab.left_live p now, process_live hab.right_live p later,
    h.process_good hab.left_good p now, h.process_good hab.right_good p later, hkin.2⟩

theorem Kindred.close (h : monitor.Follows good oracle) {flow : FlowId}
    (hab : Kindred good flow a b) :
    (monitor.close a flow).1 = (monitor.close b flow).1 := by
  have hlook := hab.lookup_eq
  cases ha : a.flows.lookup flow with
  | none =>
    cases hb : b.flows.lookup flow with
    | none => rw [close_of_absent ha, close_of_absent hb]
    | some t => simp [ha, hb] at hlook
  | some s =>
    cases hb : b.flows.lookup flow with
    | none => simp [ha, hb] at hlook
    | some t =>
      rw [(closed hab.left_live ha).verdict_eq, (closed hab.right_live hb).verdict_eq]
      refine h.lastVerdict_eq ?_ hab.left_good hab.right_good
      simpa [ha, hb] using hlook

/-! ### Runs -/

/-- The packets of a flow since it was last not in the table. -/
def memory (monitor : Monitor σ) (scorer : σ) (flow : FlowId) (events : List Event) : List Packet :=
  ((monitor.after scorer events).earlier flow (monitor.stay scorer flow events)).map (·.packet)

lemma memory_of_absent {x : σ} {flow : FlowId} {events : List Event}
    (h : (monitor.after x events).flows.lookup flow = none) :
    monitor.memory x flow events = [] := by
  simp [memory, State.earlier, h]

lemma memory_of_present {x : σ} {flow : FlowId} {events : List Event} {s : FlowState}
    (h : (monitor.after x events).flows.lookup flow = some s) :
    monitor.memory x flow events = (monitor.stay x flow events).packets := by
  simp [memory, State.earlier, h, Stay.packets]

lemma memory_snoc_packet {x : σ} {p : Packet} {events : List Event} {now : Nat} {s : FlowState}
    (h : (monitor.after x (events ++ [.packet p now])).flows.lookup p.flow = some s) :
    monitor.memory x p.flow (events ++ [.packet p now]) =
      monitor.memory x p.flow events ++ [p] := by
  rw [memory_of_present h, stay_snoc]
  simp [proceed, Stay.packets, memory]

lemma memory_snoc_other {x : σ} {flow : FlowId} {events : List Event} {event : Event}
    {s : FlowState} (hother : ∀ p now, event = .packet p now → p.flow ≠ flow)
    (h : (monitor.after x (events ++ [event])).flows.lookup flow = some s) :
    monitor.memory x flow (events ++ [event]) = monitor.memory x flow events := by
  have hbefore : (monitor.after x events).flows.lookup flow = some s := by
    rw [after_snoc] at h
    exact lookup_of_respond (after_live x events) hother h
  rw [memory_of_present h, memory_of_present hbefore, stay_snoc_other hother h]

/-- The packets as events, each with a time stamp. -/
def fed (packets : List (Packet × Nat)) : List Event := packets.map fun (p, now) => .packet p now

lemma fed_snoc (packets : List (Packet × Nat)) (p : Packet) (now : Nat) :
    fed (packets ++ [(p, now)]) = fed packets ++ [.packet p now] := by
  simp [fed]

lemma Follows.kindred_of_absent (h : monitor.Follows good oracle) {x y : σ} (hx : good x)
    (hy : good y) {flow : FlowId} {events : List Event}
    (hlook : (monitor.after x events).flows.lookup flow = none) :
    Kindred good flow (monitor.after x events) (.start y) :=
  ⟨after_live x events, FlowTable.live_empty, h.good_after hx events, hy, by
    rw [hlook]; rfl⟩

/-- A monitor at work and a new one that was fed the packets of a flow's present stay are kindred in
the flow. -/
theorem Follows.kindred (h : monitor.Follows good oracle) {x y : σ} (hx : good x) (hy : good y)
    (flow : FlowId) (events : List Event) {packets : List (Packet × Nat)}
    (hfed : packets.map (·.1) = monitor.memory x flow events) :
    Kindred good flow (monitor.after x events) (monitor.after y (fed packets)) := by
  induction events using List.reverseRecOn generalizing packets with
  | nil =>
    obtain rfl : packets = [] := by simpa [memory, State.earlier, State.start] using hfed
    have hlook : (monitor.after x []).flows.lookup flow = none := rfl
    exact h.kindred_of_absent hx hy hlook
  | append_singleton events event ih =>
    -- A flow that is not in the table has no memory, and the new monitor was fed nothing.
    cases hlook : (monitor.after x (events ++ [event])).flows.lookup flow with
    | none =>
      obtain rfl : packets = [] := by simpa [memory_of_absent hlook] using hfed
      exact h.kindred_of_absent hx hy hlook
    | some s =>
      by_cases hother : ∀ p now, event = .packet p now → p.flow ≠ flow
      -- The event is no packet of the flow, which stays: neither its state nor its memory changes.
      · have hkin := ih (hfed.trans (memory_snoc_other hother hlook))
        have hlook' := hlook
        rw [after_snoc] at hlook'
        have hbefore := lookup_of_respond hkin.left_live hother hlook'
        refine ⟨after_live x _, hkin.right_live, h.good_after hx _, hkin.right_good, ?_⟩
        rw [hlook, ← hbefore]
        exact hkin.lookup_eq
      · push Not at hother
        obtain ⟨p, now, rfl, rfl⟩ := hother
        -- The packet is the last that the new monitor is fed.
        rw [memory_snoc_packet hlook] at hfed
        obtain ⟨packets, later, rfl, hpackets, hlater⟩ := List.map_eq_append_iff.mp hfed
        obtain ⟨⟨q, now'⟩, rfl⟩ : ∃ e, later = [e] := by
          simpa [List.length_eq_one_iff] using congrArg List.length hlater
        obtain rfl : q = p := by simpa using hlater
        rw [fed_snoc, after_snoc, after_snoc]
        exact ((ih hpackets).process h now now').2

/-- **Isolation**: over a source whose answers depend on the question alone, what a monitor at work
says to a packet of a flow or to the flow's end is what a new monitor says that was fed the packets
of the flow since the flow was last not in the table. Packets of other flows, earlier stays of this
one and the time stamps in both runs are free. -/
theorem flows_isolated {settings : Settings} {backend : Backend σ} {monitor : Monitor (Pool σ)}
    (haccepted : withBackend settings backend = .ok monitor) (hanswers : backend.Answers oracle)
    (source fresh : σ) (flow : FlowId) (events : List Event) (packets : List (Packet × Nat))
    (hpackets : packets.map (·.1) = monitor.memory (.start source) flow events) :
    (∀ p now later, p.flow = flow →
      (monitor.process (monitor.after (.start source) events) p now).1 =
        (monitor.process (monitor.after (.start fresh) (fed packets)) p later).1) ∧
    (monitor.close (monitor.after (.start source) events) flow).1 =
      (monitor.close (monitor.after (.start fresh) (fed packets)) flow).1 := by
  have hfollows := follows_of_withBackend haccepted hanswers
  have hkin := hfollows.kindred (Pool.whole_start source) (Pool.whole_start fresh) flow events
    hpackets
  refine ⟨fun p now later hp => ?_, hkin.close hfollows⟩
  subst hp
  exact (hkin.process hfollows now later).1

open Sample in
/-- A flow whose second packet comes after a packet of another flow. -/
theorem flows_isolated_two_flows :
    [(packet 5, 0)].map (·.1) =
      Sample.monitor.memory (.start ()) (packet 5).flow
        [.packet (packet 5) 3, .packet (packet 6) 4] ∧
    (Sample.monitor.process
      (Sample.monitor.after (.start ()) [.packet (packet 5) 3, .packet (packet 6) 4])
        (packet 5) 9).1 =
      (Sample.monitor.process
        (Sample.monitor.after (.start ()) (fed [(packet 5, 0)])) (packet 5) 1).1 :=
  ⟨rfl, (flows_isolated accepted answers () () (packet 5).flow
    [.packet (packet 5) 3, .packet (packet 6) 4] [(packet 5, 0)] rfl).1 (packet 5) 9 1 rfl⟩

end Monitor

end FlowVerdict
