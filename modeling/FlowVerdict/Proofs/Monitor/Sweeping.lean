import FlowVerdict.Proofs.Monitor.Conservation

/-!
Idle sweeps. A flow in the table was last seen when its last packet was stamped, be the stamps in
order or not, so a sweep can be told from what happened: it takes the flows whose last packet was
stamped too long ago. Idleness only grows with time. A later sweep therefore takes all that an
earlier one takes, and makes up for it.

The unit of time does not matter, as long as stamps and timeout have the same.
-/

namespace FlowVerdict

lemma FlowState.isIdle_iff {s : FlowState} {timeout now : Nat} :
    s.isIdle timeout now = true ↔ s.lastSeen + timeout < now := by
  rw [isIdle, decide_eq_true_eq]
  omega

lemma FlowState.isIdle_mono {s : FlowState} {timeout earlier later : Nat} (hle : earlier ≤ later)
    (h : s.isIdle timeout earlier = true) : s.isIdle timeout later = true := by
  rw [isIdle_iff] at h ⊢
  omega

namespace Monitor

variable {σ : Type} {monitor : Monitor σ} {state : State σ} {flow : FlowId} {x : σ}
  {events : List Event}

def Event.stamp? (flow : FlowId) : Event → Option Nat
  | .packet p now => if p.flow = flow then some now else none
  | _ => none

def lastStamp (flow : FlowId) (events : List Event) : Option Nat :=
  (events.filterMap (Event.stamp? flow)).getLast?

lemma lastStamp_snoc (flow : FlowId) (events : List Event) (event : Event) :
    lastStamp flow (events ++ [event]) = (event.stamp? flow).or (lastStamp flow events) := by
  rw [lastStamp, List.filterMap_append, List.getLast?_append, lastStamp]
  cases hstamp : event.stamp? flow with
  | none => simp [hstamp]
  | some stamp => simp [hstamp]

/-- The last packet of the flow was stamped more than the timeout before the time. -/
def overdue (monitor : Monitor σ) (events : List Event) (now : Nat) (flow : FlowId) : Bool :=
  (lastStamp flow events).any fun stamp => stamp + monitor.settings.flows.idleTimeout < now

/-! ### When a flow was last seen -/

lemma lastSeen_judgement (monitor : Monitor σ) (state : State σ) (p : Packet) (now : Nat) :
    (monitor.judgement state p now).flow.lastSeen = now := by
  have hheard := monitor.heard p (state.arrival p now) (state.counted p) state.scorer
  rw [judgement, hheard.frame]
  rfl

/-- **A flow in the table was last seen with its last packet.** -/
theorem lastStamp_of_lookup {s : FlowState}
    (h : (monitor.after x events).flows.lookup flow = some s) :
    lastStamp flow events = some s.lastSeen := by
  -- Only a packet of the flow stamps it anew. All other events leave it as the one before did.
  induction events using List.reverseRecOn generalizing s with
  | nil => cases h
  | append_singleton events event ih =>
    have hs : (monitor.after x events).flows.Live := after_live x events
    rw [lastStamp_snoc]
    by_cases hother : ∀ p now, event = .packet p now → p.flow ≠ flow
    · have hstamp : event.stamp? flow = none := by
        cases event with
        | packet p now => exact if_neg (hother p now rfl)
        | close k => rfl
        | sweep now => rfl
      rw [after_snoc] at h
      rw [hstamp, Option.none_or]
      exact ih (lookup_of_respond hs hother h)
    · push Not at hother
      obtain ⟨p, now, rfl, rfl⟩ := hother
      have hports := portVerdict?_of_lookup h rfl
      have hproc : monitor.Processed (monitor.after x events) p now
          (monitor.process (monitor.after x events) p now) := processed hs hports now
      have hself := hproc.lookup_self
      rw [after_snoc] at h
      -- The packet was not the last of its flow, which is there as the judgement left it.
      have hflow : (monitor.judgement (monitor.after x events) p now).flow = s := by
        have hkept := hself.symm.trans h
        split at hkept
        · cases hkept
        · exact Option.some.inj hkept
      rw [← hflow, lastSeen_judgement]
      simp [Event.stamp?]

lemma isIdle_of_lookup {s : FlowState} (h : (monitor.after x events).flows.lookup flow = some s)
    (now : Nat) :
    s.isIdle monitor.settings.flows.idleTimeout now = monitor.overdue events now flow := by
  rw [overdue, lastStamp_of_lookup h, Option.any_some, Bool.eq_iff_iff, FlowState.isIdle_iff,
    decide_eq_true_iff]

/-! ### One sweep -/

/-- A sweep at a time after events: the flows whose last packet is overdue leave, they are counted,
and all else stays. -/
structure Swept (monitor : Monitor σ) (events : List Event) (state : State σ) (now : Nat)
    (r : Nat × State σ) : Prop where
  lookup_eq : ∀ flow, r.2.flows.lookup flow =
    if monitor.overdue events now flow then none else state.flows.lookup flow
  entries_eq :
    r.2.flows.entries = state.flows.entries.filter fun e => !monitor.overdue events now e.flow
  count_eq : r.1 = state.flows.entries.countP fun e => monitor.overdue events now e.flow
  created_eq : r.2.flows.created = state.flows.created
  evicted_eq : r.2.flows.evicted = state.flows.evicted + r.1
  tally_eq : r.2.tally = { state.tally with flowsEvicted := state.tally.flowsEvicted + r.1 }
  counters_agree : r.2.tally.flowsEvicted = r.2.flows.evicted
  scorer_eq : r.2.scorer = state.scorer

lemma isIdle_of_mem {e : FlowEntry} (he : e ∈ (monitor.after x events).flows.entries) (now : Nat) :
    e.state.isIdle monitor.settings.flows.idleTimeout now =
      monitor.overdue events now e.flow := by
  have hs : (monitor.after x events).flows.Live := after_live x events
  exact isIdle_of_lookup (hs.lookup_eq_some_iff.mpr ⟨e, he, rfl, rfl⟩) now

theorem swept (monitor : Monitor σ) (x : σ) (events : List Event) (now : Nat) :
    monitor.Swept events (monitor.after x events) now
      (monitor.sweep (monitor.after x events) now) := by
  have hs : (monitor.after x events).flows.Live := after_live x events
  have hbalanced : (monitor.sweep (monitor.after x events) now).2.Balanced :=
    sweep_balanced (monitor.after_balanced x events) now
  have hidle : ∀ e ∈ (monitor.after x events).flows.entries,
      e.state.isIdle monitor.settings.flows.idleTimeout now =
        monitor.overdue events now e.flow := fun e he => isIdle_of_mem he now
  refine ⟨fun flow => ?_, ?_, ?_, rfl, ?_, rfl, hbalanced.evicted_eq, rfl⟩
  · rw [lookup_sweep hs]
    cases hlook : (monitor.after x events).flows.lookup flow with
    | none => simp
    | some s =>
      rw [Option.filter_some, isIdle_of_lookup hlook]
      cases monitor.overdue events now flow <;> rfl
  · refine List.filter_congr fun e he => ?_
    rw [← hidle e he, FlowTable.isSwept]
    rfl
  · have hcount := (monitor.after x events).flows.length_sweep
      (·.isIdle monitor.settings.flows.idleTimeout now)
    exact hcount.trans (List.countP_congr fun e he => Bool.eq_iff_iff.mp (hidle e he))
  · simp only [sweep, FlowTable.sweep, List.length_map]

/-! ### One sweep after another -/

/-- A sweep and a later one against the later one alone. -/
structure Composes (monitor : Monitor σ) (state : State σ) (earlier later : Nat) : Prop where
  state_eq : (monitor.sweep (monitor.sweep state earlier).2 later).2 =
    (monitor.sweep state later).2
  count_eq : (monitor.sweep state earlier).1 +
    (monitor.sweep (monitor.sweep state earlier).2 later).1 = (monitor.sweep state later).1
  size_le : (monitor.sweep state later).2.flows.size ≤ (monitor.sweep state earlier).2.flows.size

theorem composes (monitor : Monitor σ) (state : State σ) {earlier later : Nat}
    (h : earlier ≤ later) : monitor.Composes state earlier later := by
  have hwider : ∀ s : FlowState, s.isIdle monitor.settings.flows.idleTimeout earlier = true →
      s.isIdle monitor.settings.flows.idleTimeout later = true := fun s => s.isIdle_mono h
  have hcount := state.flows.count_add_count_sweep hwider
  have hsum : (monitor.sweep state earlier).1 +
      (monitor.sweep (monitor.sweep state earlier).2 later).1 = (monitor.sweep state later).1 := by
    simp only [sweep, FlowTable.length_sweep]
    exact hcount
  refine ⟨?_, hsum, ?_⟩
  · have hflows := state.flows.sweep_sweep hwider
    have htally : (state.tally.evicted (monitor.sweep state earlier).1).evicted
        (monitor.sweep (monitor.sweep state earlier).2 later).1 =
          state.tally.evicted (monitor.sweep state later).1 := by
      simp only [Tally.evicted, Nat.add_assoc, hsum]
    exact congrArg₂ (fun flows tally => State.mk flows tally state.scorer) hflows htally
  · have hearlier := state.flows.size_sweep_add
      (·.isIdle monitor.settings.flows.idleTimeout earlier)
    have hlater := state.flows.size_sweep_add (·.isIdle monitor.settings.flows.idleTimeout later)
    have hle := state.flows.count_le_count hwider
    simp only [sweep]
    omega

lemma sweep_again (monitor : Monitor σ) (state : State σ) (now : Nat) :
    monitor.sweep (monitor.sweep state now).2 now = (0, (monitor.sweep state now).2) := by
  have hcomposes := monitor.composes state (Nat.le_refl now)
  have hnone : (monitor.sweep (monitor.sweep state now).2 now).1 = 0 := by
    have hsum := hcomposes.count_eq
    omega
  exact Prod.ext hnone hcomposes.state_eq

/-- **Idle sweeps are exact and compose**: after any events, a sweep takes the flows whose last
packet was stamped more than the timeout before it and leaves all else alone. An earlier sweep makes
no difference to a later one, except that they share the flows between them, and a second sweep at
the same time finds nothing. -/
theorem idle_sweeps_compose (monitor : Monitor σ) (x : σ) (events : List Event) :
    (∀ now, monitor.Swept events (monitor.after x events) now
      (monitor.sweep (monitor.after x events) now)) ∧
    (∀ earlier later, earlier ≤ later →
      monitor.Composes (monitor.after x events) earlier later) ∧
    ∀ now, monitor.sweep (monitor.sweep (monitor.after x events) now).2 now =
      (0, (monitor.sweep (monitor.after x events) now).2) :=
  ⟨monitor.swept x events, fun _ _ => monitor.composes _, monitor.sweep_again _⟩

open Sample in
/-- Two flows, the first of which has its stamps in reverse order. At the first time the other one
has been idle for the timeout and not for longer, so that only the second sweep takes it. -/
theorem idle_sweeps_compose_backward :
    let events := [.packet (packet 5) 10, .packet (packet 6) 3, .packet (packet 5) 2]
    let state := Sample.monitor.after (.start ()) events
    Sample.monitor.Swept events state 60003 (Sample.monitor.sweep state 60003) ∧
    Sample.monitor.Composes state 60003 60004 ∧
    (Sample.monitor.sweep state 60003).1 = 1 ∧ (Sample.monitor.sweep state 60004).1 = 2 := by
  intro events state
  obtain ⟨hswept, hcomposes, -⟩ := idle_sweeps_compose Sample.monitor (.start ()) events
  exact ⟨hswept 60003, hcomposes 60003 60004 (by decide), by decide +kernel, by decide +kernel⟩

end Monitor

end FlowVerdict
