import FlowVerdict.Proofs.Monitor.Evidence
import Mathlib.Algebra.GroupWithZero.Nat

/-!
The counters add up. Each event adds to them what it brings: a packet, the verdict on it, and the
question asked for its sake; nothing is counted twice and nothing is left out. The counters of the
flows are those of the table, whichever way a flow leaves it, and what has come and not gone is
there.
-/

namespace FlowVerdict

open Monitor (Event Reply)

instance (e : Exchange) : Decidable e.Failed :=
  match h : e.answer with
  | .ok _ => isFalse fun ⟨_, herror⟩ => by cases h.symm.trans herror
  | .error cause => isTrue ⟨cause, h⟩

def Monitor.Event.packet? : Event → Option Packet
  | .packet p _ => some p
  | _ => none

/-- The verdict that a reply gives on a packet. -/
def Monitor.Reply.verdict? : Reply → Option Verdict
  | .verdict v => some v
  | _ => none

lemma Verdict.length_eq_counts (vs : List Verdict) :
    vs.length = vs.count .pass + vs.count .drop + vs.count .reset := by
  induction vs with
  | nil => rfl
  | cons v vs ih =>
    rw [List.length_cons, ih]
    cases v <;> simp <;> omega

namespace Tally

/-- The packets that got a verdict. -/
def verdicts (t : Tally) : Verdict → Nat
  | .pass => t.passed
  | .drop => t.dropped
  | .reset => t.reset

/-- More questions to the scorer. -/
def questions (t : Tally) (es : List Exchange) : Tally :=
  { t with
    scorerCalls := t.scorerCalls + es.length
    scorerFailures := t.scorerFailures + es.countP (·.Failed) }

lemma verdict_frame (t : Tally) (v : Verdict) : t.verdict v =
    { t with
      passed := (t.verdict v).passed
      dropped := (t.verdict v).dropped
      reset := (t.verdict v).reset } := by
  cases v <;> rfl

lemma verdicts_verdict (t : Tally) (v w : Verdict) :
    (t.verdict v).verdicts w = t.verdicts w + [v].count w := by
  cases v <;> cases w <;> rfl

/-- What has been counted between the first tally and the second: packets, verdicts on packets, and
questions. A packet is a hit at most once. -/
structure Adds (t : Tally) (packets : List Packet) (verdicts : List Verdict) (es : List Exchange)
    (t' : Tally) : Prop where
  packets_eq : t'.packets = t.packets + packets.length
  bytes_eq : t'.bytes = t.bytes + (packets.map (·.payload.length)).sum
  verdicts_eq : ∀ v, t'.verdicts v = t.verdicts v + verdicts.count v
  calls_eq : t'.scorerCalls = t.scorerCalls + es.length
  failures_eq : t'.scorerFailures = t.scorerFailures + es.countP (·.Failed)
  hits_le : t'.latchedHits ≤ t.latchedHits + packets.length

namespace Adds

variable {t t' t'' : Tally} {packets more : List Packet} {verdicts later : List Verdict}
  {es fs : List Exchange}

lemma refl (t : Tally) : t.Adds [] [] [] t := ⟨rfl, rfl, fun _ => rfl, rfl, rfl, Nat.le_refl _⟩

lemma trans (h : t.Adds packets verdicts es t') (h' : t'.Adds more later fs t'') :
    t.Adds (packets ++ more) (verdicts ++ later) (es ++ fs) t'' where
  packets_eq := by rw [h'.packets_eq, h.packets_eq, List.length_append, Nat.add_assoc]
  bytes_eq := by
    rw [h'.bytes_eq, h.bytes_eq, List.map_append, List.sum_append, Nat.add_assoc]
  verdicts_eq v := by rw [h'.verdicts_eq, h.verdicts_eq, List.count_append, Nat.add_assoc]
  calls_eq := by rw [h'.calls_eq, h.calls_eq, List.length_append, Nat.add_assoc]
  failures_eq := by rw [h'.failures_eq, h.failures_eq, List.countP_append, Nat.add_assoc]
  hits_le := by
    calc t''.latchedHits
        ≤ t'.latchedHits + more.length := h'.hits_le
      _ ≤ t.latchedHits + packets.length + more.length := Nat.add_le_add_right h.hits_le _
      _ = t.latchedHits + (packets ++ more).length := by rw [List.length_append, Nat.add_assoc]

lemma verdict (h : t.Adds packets [] es t') (v : Verdict) :
    t.Adds packets [v] es (t'.verdict v) where
  packets_eq := by rw [verdict_frame]; exact h.packets_eq
  bytes_eq := by rw [verdict_frame]; exact h.bytes_eq
  verdicts_eq w := by rw [verdicts_verdict, h.verdicts_eq]; rfl
  calls_eq := by rw [verdict_frame]; exact h.calls_eq
  failures_eq := by rw [verdict_frame]; exact h.failures_eq
  hits_le := by rw [verdict_frame]; exact h.hits_le

lemma evicted (h : t.Adds packets verdicts es t') (n : Nat) :
    t.Adds packets verdicts es (t'.evicted n) :=
  ⟨h.packets_eq, h.bytes_eq, h.verdicts_eq, h.calls_eq, h.failures_eq, h.hits_le⟩

end Adds

end Tally

namespace Monitor

variable {σ : Type} {monitor : Monitor σ} {state : State σ} {x : σ}

/-! ### What one event adds -/

lemma score_tally (monitor : Monitor σ) (m : ModelClassifier σ) (s : FlowState) (tally : Tally)
    (x : σ) : (monitor.score m s tally x).tally = tally.questions [m.exchange s x] := by
  simp only [score, ModelClassifier.exchange]
  cases (m.scorer.score x m.name (m.window.flatten s.window)).1 with
  | ok probabilities => rfl
  | error cause => rfl

lemma judge_tally (monitor : Monitor σ) (p : Packet) (s : FlowState) (tally : Tally) (x : σ) :
    (monitor.judge p s tally x).tally =
      (if s.latched.isSome then tally.hit else tally).questions (monitor.asked p s x) := by
  unfold asked
  cases hlatch : s.latched with
  | some v => rw [judge_of_latched hlatch]; rfl
  | none =>
    cases hc : monitor.classifier with
    | fingerprint f => rw [judge_of_fingerprint hc hlatch]; rfl
    | model m =>
      cases hask : monitor.settings.asks m.window s p with
      | false =>
        rw [judge_of_waiting hc hlatch hask]
        simp only [hask]
        rfl
      | true =>
        rw [judge_of_asking hc hlatch hask, score_tally]
        simp only [hask]
        rfl

lemma lastVerdict_tally (s : FlowState) : (monitor.lastVerdict state s).2.tally =
    state.tally.questions (monitor.askedLast s state.scorer) := by
  unfold askedLast
  cases hlatch : s.latched with
  | some v => rw [lastVerdict_of_latched hlatch]; rfl
  | none =>
    cases hc : monitor.classifier with
    | fingerprint f => rw [lastVerdict_of_fingerprint hc hlatch]; rfl
    | model m =>
      cases hask : monitor.settings.asksEarly s with
      | false =>
        rw [lastVerdict_of_silent hc hlatch hask]
        rfl
      | true =>
        rw [lastVerdict_of_asking hc hlatch hask]
        exact score_tally monitor m s state.tally state.scorer

/-- A packet that is judged on its flow is counted once, with what is asked for its sake. -/
lemma judgement_adds (monitor : Monitor σ) (state : State σ) (p : Packet) (now : Nat) :
    state.tally.Adds [p] [] (monitor.asked p (state.arrival p now) state.scorer)
      (monitor.judgement state p now).tally := by
  rw [judgement, judge_tally, State.counted]
  -- Each counter is looked at for a new flow and a known one, settled or not.
  refine ⟨?_, ?_, fun v => ?_, ?_, ?_, ?_⟩
  · split <;> split <;> rfl
  · split <;> split <;> rfl
  · cases v <;> split <;> split <;> rfl
  · split <;> split <;> rfl
  · split <;> split <;> rfl
  · split <;> split <;> simp [Tally.questions, Tally.hit, Tally.created, Tally.packet]

lemma process_adds (hs : state.flows.Live) (p : Packet) (now : Nat) :
    state.tally.Adds [p] [(monitor.process state p now).1] (monitor.exchanges state (.packet p now))
      (monitor.process state p now).2.tally := by
  cases hports : monitor.portVerdict? p with
  | some v =>
    rw [exchanges_of_stopped hports, process_of_stopped hports]
    have hpacket : state.tally.Adds [p] [] [] (state.tally.packet p.payload.length) :=
      ⟨rfl, rfl, fun v => by cases v <;> rfl, rfl, rfl, Nat.le_add_right _ _⟩
    exact hpacket.verdict v
  | none =>
    have hproc := processed hs hports now
    have hjudge := judgement_adds monitor state p now
    rw [exchanges_of_packet hs hports, hproc.tally_eq]
    refine Tally.Adds.verdict ?_ _
    split
    · exact hjudge.evicted 1
    · exact hjudge

lemma close_adds (hs : state.flows.Live) (flow : FlowId) :
    state.tally.Adds [] [] (monitor.exchanges state (.close flow))
      (monitor.close state flow).2.tally := by
  cases hlook : state.flows.lookup flow with
  | none =>
    rw [exchanges_of_absent hlook, close_of_absent hlook]
    exact .refl _
  | some s =>
    rw [exchanges_of_close hs hlook, (closed hs hlook).tally_eq, lastVerdict_tally]
    have hlast : state.tally.Adds [] [] (monitor.askedLast s state.scorer)
        (state.tally.questions (monitor.askedLast s state.scorer)) :=
      ⟨rfl, rfl, fun _ => rfl, rfl, rfl, Nat.le_refl _⟩
    exact hlast.evicted 1

/-- One event adds its packet, the verdict on the packet, and what is asked in its course. -/
theorem respond_adds (hs : state.flows.Live) (event : Event) :
    state.tally.Adds event.packet?.toList (monitor.respond state event).1.verdict?.toList
      (monitor.exchanges state event) (monitor.respond state event).2.tally := by
  cases event with
  | packet p now => exact process_adds hs p now
  | close flow => exact close_adds hs flow
  | sweep now => exact (Tally.Adds.refl state.tally).evicted _

lemma length_verdict? (monitor : Monitor σ) (state : State σ) (event : Event) :
    (monitor.respond state event).1.verdict?.toList.length = event.packet?.toList.length := by
  cases event <;> rfl

/-! ### The flows -/

/-- The counters of the flows are those of the table, where every flow that came is there or has
gone. -/
structure State.Balanced (state : State σ) : Prop where
  created_eq : state.tally.flowsCreated = state.flows.created
  evicted_eq : state.tally.flowsEvicted = state.flows.evicted
  table : state.flows.Balanced

namespace State.Balanced

lemma verdict (hb : state.Balanced) (v : Verdict) :
    State.Balanced { state with tally := state.tally.verdict v } := by
  rw [Tally.verdict_frame]
  exact ⟨hb.created_eq, hb.evicted_eq, hb.table⟩

lemma enter (hb : state.Balanced) (p : Packet) (now : Nat) : (state.enter p now).2.Balanced := by
  have htable := hb.table.getOrCreate p.flow (.fresh p.flow p.source now)
  unfold State.enter
  cases hfind : state.flows.find? p.flow with
  | some e =>
    rw [FlowTable.getOrCreate_of_some hfind] at htable ⊢
    exact ⟨hb.created_eq, hb.evicted_eq, htable⟩
  | none =>
    rw [FlowTable.getOrCreate_of_none hfind] at htable ⊢
    exact ⟨congrArg (· + 1) hb.created_eq, hb.evicted_eq, htable⟩

lemma conclude (hb : state.Balanced) (ticket : Ticket) (p : Packet) (s : FlowState) :
    (state.conclude ticket (monitor.judge p s state.tally state.scorer)).Balanced := by
  have htable := hb.table.modify ticket fun _ =>
    (monitor.judge p s state.tally state.scorer).flow
  refine ⟨?_, ?_, htable⟩
  · simp only [State.conclude, judge_tally]
    split <;> exact hb.created_eq
  · simp only [State.conclude, judge_tally]
    split <;> exact hb.evicted_eq

lemma forget (hb : state.Balanced) (hs : state.flows.Sound) (flow : FlowId) (ticket : Ticket) :
    (state.forget flow ticket).Balanced := by
  have htable := hs.balanced_removeTicket hb.table flow ticket
  have hcounts := state.flows.removeTicket_counts flow ticket
  unfold State.forget
  generalize state.flows.removeTicket flow ticket = r at htable hcounts
  obtain ⟨gone, flows⟩ := r
  obtain ⟨hcreated, hevicted⟩ := hcounts
  cases gone with
  | none => exact hb
  | some e =>
    refine ⟨hb.created_eq.trans hcreated.symm, ?_, htable⟩
    exact (congrArg (· + 1) hb.evicted_eq).trans hevicted.symm

lemma evict (hb : state.Balanced) (hs : state.flows.Sound) (flow : FlowId) (ticket : Ticket) :
    (state.evict flow ticket).Balanced := by
  have hmarked : State.Balanced
      { state with flows := state.flows.modify ticket FlowState.markEvicted } :=
    ⟨hb.created_eq, hb.evicted_eq, hb.table.modify ticket FlowState.markEvicted⟩
  exact hmarked.forget (hs.modify ticket FlowState.markEvicted) flow ticket

end State.Balanced

lemma conclude_sound (hs : state.flows.Sound) (ticket : Ticket) (j : Judgement σ) :
    (state.conclude ticket j).flows.Sound :=
  hs.modify ticket fun _ => j.flow

lemma observe_balanced (hb : state.Balanced) (hs : state.flows.Live) (p : Packet) (now : Nat) :
    (monitor.observe state p now).2.Balanced := by
  have henter := hb.enter p now
  have hsound : (state.enter p now).2.flows.Sound :=
    (hs.entered p.flow (.fresh p.flow p.source now)).sound
  rw [observe, State.meet_of_live hs]
  generalize state.enter p now = r at henter hsound
  obtain ⟨entry, entered⟩ := r
  have hconclude : (entered.conclude entry.ticket
      (monitor.judge p (entry.state.record p now) entered.tally entered.scorer)).Balanced :=
    henter.conclude entry.ticket p (entry.state.record p now)
  dsimp only
  split
  · exact hconclude.evict (conclude_sound hsound _ _) p.flow entry.ticket
  · exact hconclude

lemma process_balanced (hb : state.Balanced) (hs : state.flows.Live) (p : Packet) (now : Nat) :
    (monitor.process state p now).2.Balanced := by
  have hpacket : State.Balanced { state with tally := state.tally.packet p.payload.length } :=
    ⟨hb.created_eq, hb.evicted_eq, hb.table⟩
  cases hports : monitor.portVerdict? p with
  | some v =>
    rw [process_of_stopped hports]
    exact hpacket.verdict v
  | none =>
    have hobserve : (monitor.observe
        { state with tally := state.tally.packet p.payload.length } p now).2.Balanced :=
      observe_balanced hpacket hs p now
    simp only [process, hports]
    exact hobserve.verdict _

lemma close_balanced (hb : state.Balanced) (hs : state.flows.Live) (flow : FlowId) :
    (monitor.close state flow).2.Balanced := by
  unfold close
  cases state.flows.find? flow with
  | none => exact hb
  | some e =>
    have hflows : (monitor.lastVerdict state e.state).2.flows = state.flows := lastVerdict_flows _
    have hlast : (monitor.lastVerdict state e.state).2.Balanced := by
      refine ⟨?_, ?_, hflows ▸ hb.table⟩
      · rw [lastVerdict_tally, hflows]
        exact hb.created_eq
      · rw [lastVerdict_tally, hflows]
        exact hb.evicted_eq
    dsimp only
    split
    · exact hb
    · exact hlast.evict (hflows ▸ hs.toSound) flow e.ticket

lemma sweep_balanced (hb : state.Balanced) (now : Nat) :
    (monitor.sweep state now).2.Balanced := by
  refine ⟨hb.created_eq, ?_, hb.table.sweep _ _⟩
  simp only [sweep, FlowTable.sweep, List.length_map, Tally.evicted, hb.evicted_eq]

theorem respond_balanced (hb : state.Balanced) (hs : state.flows.Live) (event : Event) :
    (monitor.respond state event).2.Balanced := by
  cases event with
  | packet p now => exact process_balanced hb hs p now
  | close flow => exact close_balanced hb hs flow
  | sweep now => exact sweep_balanced hb now

theorem after_balanced (monitor : Monitor σ) (x : σ) (events : List Event) :
    (monitor.after x events).Balanced := by
  induction events using List.reverseRecOn with
  | nil => exact ⟨rfl, rfl, FlowTable.balanced_empty⟩
  | append_singleton events event ih =>
    rw [after_snoc]
    exact respond_balanced ih (after_live x events) event

/-! ### Runs -/

def packets (events : List Event) : List Packet := events.filterMap Event.packet?

/-- The verdicts on them, in their order. -/
def verdicts (monitor : Monitor σ) (x : σ) (events : List Event) : List Verdict :=
  (monitor.run (.start x) events).1.filterMap Reply.verdict?

lemma packets_snoc (events : List Event) (event : Event) :
    packets (events ++ [event]) = packets events ++ event.packet?.toList := by
  cases h : event.packet? <;> simp [packets, h]

lemma verdicts_snoc (monitor : Monitor σ) (x : σ) (events : List Event) (event : Event) :
    monitor.verdicts x (events ++ [event]) = monitor.verdicts x events ++
      (monitor.respond (monitor.after x events) event).1.verdict?.toList := by
  unfold verdicts after
  rw [run_append, List.filterMap_append]
  cases h : (monitor.respond (monitor.run (.start x) events).2 event).1.verdict? <;> simp [run, h]

/-- A run adds its packets, the verdicts on them, and all that was asked. -/
theorem after_adds (monitor : Monitor σ) (x : σ) (events : List Event) :
    Tally.zero.Adds (packets events) (monitor.verdicts x events) (monitor.log x events)
      (monitor.after x events).tally := by
  induction events using List.reverseRecOn with
  | nil => exact .refl _
  | append_singleton events event ih =>
    have hs : (monitor.after x events).flows.Live := after_live x events
    rw [packets_snoc, verdicts_snoc, log_snoc, after_snoc]
    exact ih.trans (respond_adds hs event)

lemma scorerCalls_eq (monitor : Monitor σ) (x : σ) (events : List Event) :
    (monitor.after x events).tally.scorerCalls = (monitor.log x events).length :=
  (after_adds monitor x events).calls_eq.trans (Nat.zero_add _)

lemma scorerFailures_eq (monitor : Monitor σ) (x : σ) (events : List Event) :
    (monitor.after x events).tally.scorerFailures = (monitor.log x events).countP (·.Failed) :=
  (after_adds monitor x events).failures_eq.trans (Nat.zero_add _)

lemma length_verdicts (monitor : Monitor σ) (x : σ) (events : List Event) :
    (monitor.verdicts x events).length = (packets events).length := by
  induction events using List.reverseRecOn with
  | nil => rfl
  | append_singleton events event ih =>
    rw [packets_snoc, verdicts_snoc, List.length_append, List.length_append, ih, length_verdict?]

/-- What the counters of a monitor tell of the packets handed to it, the verdicts on them, and the
flows in its table. -/
structure State.Accounts (state : State σ) (packets : List Packet) (verdicts : List Verdict) :
    Prop where
  packets_eq : state.tally.packets = packets.length
  bytes_eq : state.tally.bytes = (packets.map (·.payload.length)).sum
  passed_eq : state.tally.passed = verdicts.count .pass
  dropped_eq : state.tally.dropped = verdicts.count .drop
  reset_eq : state.tally.reset = verdicts.count .reset
  packets_eq_sum : state.tally.packets =
    state.tally.passed + state.tally.dropped + state.tally.reset
  created_eq : state.tally.flowsCreated = state.flows.created
  evicted_eq : state.tally.flowsEvicted = state.flows.evicted
  evicted_le : state.tally.flowsEvicted ≤ state.tally.flowsCreated
  active_eq : state.tally.activeFlows = state.flows.size
  failures_le : state.tally.scorerFailures ≤ state.tally.scorerCalls
  hits_le : state.tally.latchedHits ≤ state.tally.packets

/-- **The counters add up**: after every run, whatever the settings and the scorer, the counters
tell how many packets were handed over, what became of them, and how many flows are in the
table. -/
theorem counters_add_up (monitor : Monitor σ) (x : σ) (events : List Event) :
    (monitor.after x events).Accounts (packets events) (monitor.verdicts x events) := by
  have hadds := after_adds monitor x events
  have hbalanced : (monitor.after x events).Balanced := after_balanced monitor x events
  generalize monitor.after x events = state at hadds hbalanced ⊢
  have hpackets : state.tally.packets = (packets events).length :=
    hadds.packets_eq.trans (Nat.zero_add _)
  have hverdicts : ∀ v, state.tally.verdicts v = (monitor.verdicts x events).count v := by
    intro v
    rw [hadds.verdicts_eq v]
    cases v <;> exact Nat.zero_add _
  have htable : state.flows.size + state.flows.evicted = state.flows.created := hbalanced.table
  refine ⟨hpackets, hadds.bytes_eq.trans (Nat.zero_add _), hverdicts .pass, hverdicts .drop,
    hverdicts .reset, ?_, hbalanced.created_eq, hbalanced.evicted_eq, ?_, ?_, ?_, ?_⟩
  · calc state.tally.packets
        = (monitor.verdicts x events).length := by rw [hpackets, length_verdicts]
      _ = (monitor.verdicts x events).count .pass + (monitor.verdicts x events).count .drop +
            (monitor.verdicts x events).count .reset := Verdict.length_eq_counts _
      _ = state.tally.passed + state.tally.dropped + state.tally.reset := by
        rw [← hverdicts, ← hverdicts, ← hverdicts]
        rfl
  · rw [hbalanced.created_eq, hbalanced.evicted_eq]
    omega
  · rw [Tally.activeFlows, hbalanced.created_eq, hbalanced.evicted_eq]
    omega
  · calc state.tally.scorerFailures
        = (monitor.log x events).countP (·.Failed) := hadds.failures_eq.trans (Nat.zero_add _)
      _ ≤ (monitor.log x events).length := List.countP_le_length
      _ = state.tally.scorerCalls := (hadds.calls_eq.trans (Nat.zero_add _)).symm
  · calc state.tally.latchedHits
        ≤ 0 + (packets events).length := hadds.hits_le
      _ = state.tally.packets := by rw [Nat.zero_add, hpackets]

end Monitor

end FlowVerdict
