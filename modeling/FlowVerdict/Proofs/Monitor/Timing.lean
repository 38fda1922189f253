import FlowVerdict.Proofs.Monitor.Isolation

/-!
Time matters to sweeps alone. A run in which no idle flow is looked for gives the same replies at
whatever times its packets arrive, and leaves the same state, the time stamps of flows aside.
-/

namespace FlowVerdict.Monitor

variable {σ : Type}

def State.untimed (state : State σ) : State σ := state.mapFlows FlowState.untimed

def Event.untimed : Event → Event
  | .packet p _ => .packet p 0
  | .close flow => .close flow
  | .sweep _ => .sweep 0

/-- An event that is no sweep does not see the time stamps, and its own time leaves no other
trace. -/
lemma respond_untimed (monitor : Monitor σ) (state : State σ) {event : Event}
    (h : ∀ now, event ≠ .sweep now) : monitor.respond state.untimed event.untimed =
      ((monitor.respond state event).1, (monitor.respond state event).2.untimed) := by
  cases event with
  | packet p now =>
    have hprocess : monitor.process state.untimed p 0 =
        ((monitor.process state p now).1, (monitor.process state p now).2.untimed) :=
      process_mapFlows FlowState.spares_untimed (Equates.refl monitor p) rfl (fun _ => rfl) state
        fun _ => rfl
    simp only [respond, Event.untimed, hprocess]
  | close flow =>
    simp only [respond, Event.untimed, State.untimed, close_mapFlows FlowState.spares_untimed]
  | sweep now => exact absurd rfl (h now)

/-- **Without sweeps no run depends on time.** -/
theorem run_untimed (monitor : Monitor σ) (state : State σ) {events : List Event}
    (h : ∀ event ∈ events, ∀ now, event ≠ .sweep now) :
    monitor.run state.untimed (events.map Event.untimed) =
      ((monitor.run state events).1, (monitor.run state events).2.untimed) := by
  induction events generalizing state with
  | nil => rfl
  | cons event events ih =>
    obtain ⟨hevent, hevents⟩ := List.forall_mem_cons.mp h
    simp only [List.map_cons, run, respond_untimed monitor state hevent, ih _ hevents]

@[simp] lemma State.untimed_start (x : σ) : (State.start x).untimed = .start x := rfl

@[simp] lemma State.untimed_tally (state : State σ) : state.untimed.tally = state.tally := rfl

@[simp] lemma State.untimed_size (state : State σ) :
    state.untimed.flows.size = state.flows.size := List.length_map ..

end FlowVerdict.Monitor
