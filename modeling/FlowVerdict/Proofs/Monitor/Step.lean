import FlowVerdict.Monitor.Run
import FlowVerdict.Proofs.Flow.Table
import FlowVerdict.Proofs.Monitor.Judgement
import Mathlib.Data.List.Induction

/-!
What one event does to a monitor at work, said of the map from flows to states: a packet and the
host's end of a flow change the map at one flow, a sweep only takes flows out of it.
-/

namespace FlowVerdict.Monitor

variable {σ : Type} {monitor : Monitor σ} {state : State σ}

/-! ### Packets -/

/-- The flow of a packet with the packet counted. A flow that is not in the table is opened by the
packet. -/
def State.arrival (state : State σ) (p : Packet) (now : Nat) : FlowState :=
  ((state.flows.lookup p.flow).getD (.fresh p.flow p.source now)).record p now

def State.counted (state : State σ) (p : Packet) : Tally :=
  if (state.flows.lookup p.flow).isNone then (state.tally.packet p.payload.length).created
  else state.tally.packet p.payload.length

def judgement (monitor : Monitor σ) (state : State σ) (p : Packet) (now : Nat) : Judgement σ :=
  monitor.judge p (state.arrival p now) (state.counted p) state.scorer

/-- What a packet that is handed to its flow does to the monitor. -/
structure Processed (monitor : Monitor σ) (state : State σ) (p : Packet) (now : Nat)
    (r : Verdict × State σ) : Prop where
  verdict_eq : r.1 = (monitor.judgement state p now).verdict
  scorer_eq : r.2.scorer = (monitor.judgement state p now).scorer
  tally_eq : r.2.tally =
    (if monitor.isLast p r.1 then (monitor.judgement state p now).tally.evicted 1
     else (monitor.judgement state p now).tally).verdict r.1
  live : r.2.flows.Live
  lookup_self : r.2.flows.lookup p.flow =
    if monitor.isLast p r.1 then none else some (monitor.judgement state p now).flow
  lookup_ne : ∀ k, k ≠ p.flow → r.2.flows.lookup k = state.flows.lookup k

lemma process_of_stopped {p : Packet} {v : Verdict} (h : monitor.portVerdict? p = some v)
    (now : Nat) : monitor.process state p now =
      (v, { state with tally := (state.tally.packet p.payload.length).verdict v }) := by
  simp [process, h]

/-- A flow is marked on its way out of the table, and the mark goes with it. -/
lemma evict_of_mem (state : State σ) {e : FlowEntry} (hs : state.flows.Sound)
    (he : e ∈ state.flows.entries) : state.evict e.flow e.ticket =
      { state with
        flows := (state.flows.removeTicket e.flow e.ticket).2
        tally := state.tally.evicted 1 } := by
  have hmarked := FlowTable.mem_modify he FlowState.markEvicted
  have hfind := (hs.modify e.ticket FlowState.markEvicted).find?_of_mem hmarked
  have hremove := FlowTable.removeTicket_of_find? hfind
  have hflows := hs.removeTicket_modify he FlowState.markEvicted
  dsimp only at hremove
  rw [hremove] at hflows
  simp only [State.evict, State.forget, hremove, ← hflows]

/-- The state after a judgement on the flow of an entry, which leaves the table with its last
packet. -/
def State.settle (state : State σ) (e : FlowEntry) (j : Judgement σ) (last : Bool) : State σ :=
  if last then (state.conclude e.ticket j).evict e.flow e.ticket else state.conclude e.ticket j

lemma settle_true {e : FlowEntry} (hs : state.flows.Sound) (he : e ∈ state.flows.entries)
    (j : Judgement σ) : state.settle e j true =
      ⟨(state.flows.removeTicket e.flow e.ticket).2, j.tally.evicted 1, j.scorer⟩ := by
  have hevict := evict_of_mem (e := { e with state := j.flow }) (state.conclude e.ticket j)
    (hs.modify e.ticket fun _ => j.flow) (FlowTable.mem_modify he fun _ => j.flow)
  refine hevict.trans ?_
  simp only [State.conclude, hs.removeTicket_modify he]

lemma settle_counts {e : FlowEntry} (hs : state.flows.Sound) (he : e ∈ state.flows.entries)
    (j : Judgement σ) (last : Bool) : (state.settle e j last).scorer = j.scorer ∧
      (state.settle e j last).tally = if last then j.tally.evicted 1 else j.tally := by
  cases last with
  | true => rw [settle_true hs he]; exact ⟨rfl, rfl⟩
  | false => exact ⟨rfl, rfl⟩

lemma settle_live {e : FlowEntry} (hs : state.flows.Live) (he : e ∈ state.flows.entries)
    {j : Judgement σ} (hj : j.flow.evicted = false) (last : Bool) :
    (state.settle e j last).flows.Live := by
  cases last with
  | true =>
    rw [settle_true hs.toSound he]
    exact hs.removeTicket he
  | false => exact hs.modify e.ticket fun _ _ => hj

lemma lookup_settle {e : FlowEntry} (hs : state.flows.Sound) (he : e ∈ state.flows.entries)
    (j : Judgement σ) (last : Bool) (k : FlowId) : (state.settle e j last).flows.lookup k =
      if k = e.flow then (if last then none else some j.flow) else state.flows.lookup k := by
  cases last with
  | true =>
    rw [settle_true hs he]
    exact hs.lookup_removeTicket he k
  | false => exact hs.lookup_modify he (fun _ => j.flow) k

namespace State

lemma meet_of_marked {p : Packet} {now : Nat} (h : (state.enter p now).1.state.evicted = true) :
    state.meet p now =
      ((state.enter p now).2.forget p.flow (state.enter p now).1.ticket).meet p now := by
  rw [meet]
  exact if_pos h

lemma meet_of_unmarked {p : Packet} {now : Nat} (h : (state.enter p now).1.state.evicted = false) :
    state.meet p now = state.enter p now := by
  rw [meet]
  exact if_neg (by rw [h]; exact Bool.false_ne_true)

/-- Induction on the looks of a packet. -/
lemma looks {p : Packet} {now : Nat} {motive : State σ → Prop}
    (unmarked : ∀ state, (state.enter p now).1.state.evicted = false → motive state)
    (marked : ∀ state, (state.enter p now).1.state.evicted = true →
      motive ((state.enter p now).2.forget p.flow (state.enter p now).1.ticket) → motive state)
    (state : State σ) : motive state :=
  State.meet.induct p now motive (fun state => marked state)
    (fun state h => unmarked state (Bool.eq_false_iff.mpr h)) state

lemma evicted_enter (hs : state.flows.Live) (p : Packet) (now : Nat) :
    (state.enter p now).1.state.evicted = false := by
  have hmem := (hs.entered p.flow (.fresh p.flow p.source now)).mem
  exact (hs.getOrCreate p.flow (s := .fresh p.flow p.source now) rfl).unmarked _ hmem

/-- In a live table a packet finds its flow at the first look. -/
lemma meet_of_live (hs : state.flows.Live) (p : Packet) (now : Nat) :
    state.meet p now = state.enter p now :=
  meet_of_unmarked (evicted_enter hs p now)

end State

lemma judgement_evicted (hs : state.flows.Live) (p : Packet) (now : Nat) :
    (monitor.judgement state p now).flow.evicted = false := by
  rw [judgement, judge_evicted, State.arrival]
  cases hlook : state.flows.lookup p.flow with
  | none => rfl
  | some s =>
    have hunmarked : s.evicted = false := hs.evicted_of_lookup hlook
    exact hunmarked

/-- A packet that its ports do not stop is judged on its flow, and all else stays. -/
theorem processed (hs : state.flows.Live) {p : Packet} (h : monitor.portVerdict? p = none)
    (now : Nat) : Processed monitor state p now (monitor.process state p now) := by
  have hent := hs.entered p.flow (.fresh p.flow p.source now)
  have hlive := hs.getOrCreate p.flow (s := .fresh p.flow p.source now) rfl
  have hmeet : ∀ tally, State.meet ⟨state.flows, tally, state.scorer⟩ p now =
      State.enter ⟨state.flows, tally, state.scorer⟩ p now :=
    fun _ => State.meet_of_live (by exact hs) p now
  simp only [process, h, observe, hmeet, State.enter]
  generalize state.flows.getOrCreate p.flow (.fresh p.flow p.source now) = r at hent hlive
  obtain ⟨e, isNew, flows⟩ := r
  obtain ⟨hflow, hstate, hnew, hmem, -, hne⟩ := hent
  dsimp only at hflow hstate hnew hmem hlive hne
  -- The judgement reads the table before the packet entered it.
  have hj : monitor.judge p (e.state.record p now)
      (if isNew then (state.tally.packet p.payload.length).created
       else state.tally.packet p.payload.length) state.scorer = monitor.judgement state p now := by
    rw [hstate, hnew]; rfl
  have hset : ∀ (st : State σ) (j : Judgement σ),
      (if monitor.isLast p j.verdict then (st.conclude e.ticket j).evict p.flow e.ticket
       else st.conclude e.ticket j) = st.settle e j (monitor.isLast p j.verdict) := by
    intro st j
    rw [← hflow]; rfl
  have hunmarked : (monitor.judgement state p now).flow.evicted = false :=
    judgement_evicted hs p now
  simp only [hj, hset]
  generalize hj' : monitor.judgement state p now = j at hunmarked
  generalize hst : State.mk flows _ state.scorer = entered
  have hflows : entered.flows = flows := by rw [← hst]
  rw [← hflows] at hmem hlive
  obtain ⟨hscorer, htally⟩ := settle_counts hlive.toSound hmem j (monitor.isLast p j.verdict)
  have hlook := lookup_settle hlive.toSound hmem j (monitor.isLast p j.verdict)
  have htally' := congrArg (fun t : Tally => t.verdict j.verdict) htally
  refine ⟨by rw [hj'], by rw [hj']; exact hscorer, by rw [hj']; exact htally',
    settle_live hlive hmem hunmarked _, ?_, fun k hk => ?_⟩
  · rw [hj']
    exact (hlook p.flow).trans (if_pos hflow.symm)
  · refine (hlook k).trans ((if_neg (hflow ▸ hk)).trans ?_)
    rw [hflows, hne k hk]

/-! ### The host's end of a flow -/

lemma lastVerdict_of_latched {s : FlowState} {v : Verdict} (h : s.latched = some v) :
    monitor.lastVerdict state s = (some v, state) := by
  simp [lastVerdict, h]

lemma lastVerdict_of_asking {m : ModelClassifier σ} {s : FlowState}
    (hc : monitor.classifier = .model m) (h : s.latched = none)
    (hask : monitor.settings.asksEarly s = true) :
    monitor.lastVerdict state s =
      (some (monitor.score m s state.tally state.scorer).verdict,
        ⟨state.flows, (monitor.score m s state.tally state.scorer).tally,
          (monitor.score m s state.tally state.scorer).scorer⟩) := by
  have hask' : monitor.scoresPartially s = true := hask
  simp [lastVerdict, h, hc, hask']

lemma lastVerdict_of_silent {m : ModelClassifier σ} {s : FlowState}
    (hc : monitor.classifier = .model m) (h : s.latched = none)
    (hask : monitor.settings.asksEarly s = false) :
    monitor.lastVerdict state s = (none, state) := by
  have hask' : monitor.scoresPartially s = false := hask
  simp [lastVerdict, h, hc, hask']

lemma lastVerdict_of_fingerprint {f : Fingerprint} {s : FlowState}
    (hc : monitor.classifier = .fingerprint f) (h : s.latched = none) :
    monitor.lastVerdict state s = (none, state) := by
  simp [lastVerdict, h, hc]

@[simp] lemma lastVerdict_flows (s : FlowState) :
    (monitor.lastVerdict state s).2.flows = state.flows := by
  unfold lastVerdict
  split
  · split <;> rfl
  · rfl

lemma close_of_absent {flow : FlowId} (h : state.flows.lookup flow = none) :
    monitor.close state flow = (none, state) := by
  simp [close, FlowTable.lookup_eq_none.mp h]

/-- What the host's end of a flow under observation does to the monitor. -/
structure Closed (monitor : Monitor σ) (state : State σ) (flow : FlowId) (s : FlowState)
    (r : Option Verdict × State σ) : Prop where
  verdict_eq : r.1 = (monitor.lastVerdict state s).1
  scorer_eq : r.2.scorer = (monitor.lastVerdict state s).2.scorer
  tally_eq : r.2.tally = (monitor.lastVerdict state s).2.tally.evicted 1
  live : r.2.flows.Live
  lookup_eq : ∀ k, r.2.flows.lookup k = if k = flow then none else state.flows.lookup k

/-- A flow that the host ends leaves the table, and all other flows stay. -/
theorem closed (hs : state.flows.Live) {flow : FlowId} {s : FlowState}
    (h : state.flows.lookup flow = some s) :
    Closed monitor state flow s (monitor.close state flow) := by
  obtain ⟨e, hfind, rfl⟩ := Option.map_eq_some_iff.mp h
  obtain ⟨he, rfl⟩ := FlowTable.mem_of_find? hfind
  have hflows : (monitor.lastVerdict state e.state).2.flows = state.flows := lastVerdict_flows _
  have hevict := evict_of_mem (monitor.lastVerdict state e.state).2 (hflows ▸ hs.toSound)
    (hflows ▸ he)
  simp only [close, hfind, hs.unmarked e he, Bool.false_eq_true, if_false, hevict]
  refine ⟨rfl, rfl, rfl, ?_, fun k => ?_⟩
  · simpa only [hflows] using hs.removeTicket he
  · simpa only [hflows] using hs.lookup_removeTicket he k

/-! ### Sweeps -/

lemma sweep_live (hs : state.flows.Live) (now : Nat) :
    (monitor.sweep state now).2.flows.Live :=
  hs.sweep _ _

lemma lookup_sweep (hs : state.flows.Live) (now : Nat) (k : FlowId) :
    (monitor.sweep state now).2.flows.lookup k =
      (state.flows.lookup k).filter fun s => !s.isIdle monitor.settings.flows.idleTimeout now :=
  hs.lookup_sweep _ k

/-! ### Events and runs -/

lemma process_live (hs : state.flows.Live) (p : Packet) (now : Nat) :
    (monitor.process state p now).2.flows.Live := by
  cases h : monitor.portVerdict? p with
  | some v => simpa only [process_of_stopped h] using hs
  | none => exact (processed hs h now).live

lemma close_live (hs : state.flows.Live) (flow : FlowId) :
    (monitor.close state flow).2.flows.Live := by
  cases h : state.flows.lookup flow with
  | none => simpa only [close_of_absent h] using hs
  | some s => exact (closed hs h).live

lemma respond_live (hs : state.flows.Live) (event : Event) :
    (monitor.respond state event).2.flows.Live := by
  cases event with
  | packet p now => exact process_live hs p now
  | close flow => exact close_live hs flow
  | sweep now => exact sweep_live hs now

lemma lookup_process_of_ne (hs : state.flows.Live) {p : Packet} {k : FlowId} (hk : k ≠ p.flow)
    (now : Nat) : (monitor.process state p now).2.flows.lookup k = state.flows.lookup k := by
  cases h : monitor.portVerdict? p with
  | some v => simp only [process_of_stopped h]
  | none => exact (processed hs h now).lookup_ne k hk

lemma lookup_close_of_ne (hs : state.flows.Live) {flow k : FlowId} (hk : k ≠ flow) :
    (monitor.close state flow).2.flows.lookup k = state.flows.lookup k := by
  cases h : state.flows.lookup flow with
  | none => simp only [close_of_absent h]
  | some s => rw [(closed hs h).lookup_eq, if_neg hk]

lemma lookup_close_self (hs : state.flows.Live) (flow : FlowId) :
    (monitor.close state flow).2.flows.lookup flow = none := by
  cases h : state.flows.lookup flow with
  | none => rw [close_of_absent h, h]
  | some s => rw [(closed hs h).lookup_eq, if_pos rfl]

lemma lookup_of_respond {flow : FlowId} {event : Event} {s : FlowState} (hs : state.flows.Live)
    (hother : ∀ p now, event = .packet p now → p.flow ≠ flow)
    (h : (monitor.respond state event).2.flows.lookup flow = some s) :
    state.flows.lookup flow = some s := by
  cases event with
  | packet p now => exact (lookup_process_of_ne hs (hother p now rfl).symm now).symm.trans h
  | close k =>
    by_cases hk : flow = k
    · subst hk
      exact absurd ((lookup_close_self hs flow).symm.trans h) (by simp)
    · exact (lookup_close_of_ne hs hk).symm.trans h
  | sweep now =>
    have hsweep : (monitor.sweep state now).2.flows.lookup flow = some s := h
    rw [lookup_sweep hs] at hsweep
    exact (Option.filter_eq_some_iff.mp hsweep).1

/-- The state after events, the first of which finds a monitor that has not been at work. -/
def after (monitor : Monitor σ) (scorer : σ) (events : List Event) : State σ :=
  (monitor.run (.start scorer) events).2

lemma run_append (events more : List Event) :
    monitor.run state (events ++ more) =
      ((monitor.run state events).1 ++ (monitor.run (monitor.run state events).2 more).1,
       (monitor.run (monitor.run state events).2 more).2) := by
  induction events generalizing state with
  | nil => rfl
  | cons event events ih => simp only [List.cons_append, run, ih]

@[simp] lemma after_snoc (scorer : σ) (events : List Event) (event : Event) :
    monitor.after scorer (events ++ [event]) =
      (monitor.respond (monitor.after scorer events) event).2 := by
  simp only [after, run_append, run]

theorem after_live (scorer : σ) (events : List Event) :
    (monitor.after scorer events).flows.Live := by
  induction events using List.reverseRecOn with
  | nil => exact FlowTable.live_empty
  | append_singleton events event ih =>
    rw [after_snoc]
    exact respond_live ih event

end FlowVerdict.Monitor
