import FlowVerdict.Proofs.Flow.Holders
import FlowVerdict.Proofs.Monitor.Stay

/-!
A monitor as one of those who hold the flows of its table.

All that a run does to the table can be done by holders: a packet looks its flow up, is recorded,
and has its flow judged; a flow that is let go is marked first and withdrawn by its ticket after
that. So whoever still holds a flow that has left the table finds it marked.
-/

namespace FlowVerdict

open HeldFlows (Operation Careful)

/-! ### The table -/

namespace FlowTable

variable {t : FlowTable} {e : FlowEntry} {f g : FlowState → FlowState}

lemma modify_modify (t : FlowTable) (ticket : Ticket) (f g : FlowState → FlowState) :
    (t.modify ticket f).modify ticket g = t.modify ticket (g ∘ f) := by
  simp only [modify, List.map_map]
  congr 1
  refine List.map_congr_left fun e _ => ?_
  by_cases h : e.ticket = ticket <;> simp [h]

lemma Sound.modify_congr (hs : t.Sound) (he : e ∈ t.entries) (h : f e.state = g e.state) :
    t.modify e.ticket f = t.modify e.ticket g := by
  simp only [FlowTable.modify]
  congr 1
  refine List.map_congr_left fun e' he' => ?_
  split
  · next hticket =>
    obtain rfl := List.inj_on_of_nodup_map hs.tickets_nodup he' he hticket
    rw [h]
  · rfl

end FlowTable

namespace Monitor

variable {σ : Type} {monitor : Monitor σ} {state : State σ} {ops : List Operation}

@[simp] lemma State.flows_forget (state : State σ) (flow : FlowId) (ticket : Ticket) :
    (state.forget flow ticket).flows = (state.flows.removeTicket flow ticket).2 := by
  unfold State.forget
  cases hfind : state.flows.find? flow with
  | none => simp [FlowTable.removeTicket, hfind]
  | some e => by_cases ht : e.ticket = ticket <;> simp [FlowTable.removeTicket, hfind, ht]

/-- A careful history that brings the table to what it is. -/
structure Held (ops : List Operation) (table : FlowTable) : Prop where
  careful : Careful ops
  table_eq : (HeldFlows.after ops).table = table

namespace Held

variable {table : FlowTable} {e : FlowEntry}

lemma nil : Held [] .empty := ⟨HeldFlows.careful_nil, rfl⟩

lemma snoc (h : Held ops table) (op : Operation) (hop : op.Careful (HeldFlows.after ops)) :
    Held (ops ++ [op]) ((HeldFlows.after ops).apply op).2.table :=
  ⟨h.careful.snoc op hop, by rw [HeldFlows.after_snoc]⟩

lemma enter (h : Held ops table) (initial : FlowState) :
    Held (ops ++ [.enter initial]) (table.getOrCreate initial.flow initial).2.2 :=
  h.table_eq ▸ h.snoc (.enter initial) trivial

lemma record (h : Held ops table) (ticket : Ticket) (p : Packet) (now : Nat) :
    Held (ops ++ [.record ticket p now]) (table.modify ticket fun s => s.record p now) :=
  h.table_eq ▸ h.snoc (.record ticket p now) trivial

lemma judge (h : Held ops table) (ticket : Ticket) (window : Window) (windowsScored : Nat)
    (latched : Option Verdict) :
    Held (ops ++ [.judge ticket window windowsScored latched])
      (table.modify ticket fun s => s.judged window windowsScored latched) :=
  h.table_eq ▸ h.snoc (.judge ticket window windowsScored latched) trivial

lemma sweep (h : Held ops table) (test : FlowState → Bool) :
    Held (ops ++ [.sweep test []]) (table.sweep test []).2 :=
  h.table_eq ▸ h.snoc (.sweep test []) trivial

/-- A flow is marked before its ticket is withdrawn, which makes the history careful. -/
lemma evict (h : Held ops table) (he : e ∈ table.entries) (flow : FlowId) :
    Held (ops ++ [.markEvicted e.ticket] ++ [.removeTicket flow e.ticket])
      ((table.modify e.ticket FlowState.markEvicted).removeTicket flow e.ticket).2 := by
  have hmarked : Held (ops ++ [.markEvicted e.ticket])
      (table.modify e.ticket FlowState.markEvicted) :=
    h.table_eq ▸ h.snoc (.markEvicted e.ticket) trivial
  have hmem : e ∈ (HeldFlows.after ops).all := HeldFlows.mem_all_of_mem (h.table_eq ▸ he)
  have hmark : (HeldFlows.after (ops ++ [.markEvicted e.ticket])).Marked e.ticket := by
    refine ⟨e.state.markEvicted, ?_, rfl⟩
    have hafter : HeldFlows.after (ops ++ [.markEvicted e.ticket]) =
        (HeldFlows.after ops).modify e.ticket FlowState.markEvicted := HeldFlows.after_snoc ..
    rw [hafter, HeldFlows.modify_eq_changeAt, HeldFlows.state?_changeAt,
      if_pos (List.mem_singleton_self _),
      (HeldFlows.orderly_after ops).state?_of_mem hmem, Option.map_some]
  exact hmarked.table_eq ▸ hmarked.snoc (.removeTicket flow e.ticket) hmark

/-- A judgement on a packet is the packet recorded and the flow judged. -/
lemma conclude (h : Held ops state.flows) (hs : state.flows.Sound) (he : e ∈ state.flows.entries)
    (monitor : Monitor σ) (p : Packet) (now : Nat) (tally : Tally) (x : σ) :
    ∃ more, Held (ops ++ more)
      (state.conclude e.ticket (monitor.judge p (e.state.record p now) tally x)).flows := by
  have hframe := (heard monitor p (e.state.record p now) tally x).frame
  generalize monitor.judge p (e.state.record p now) tally x = j at hframe ⊢
  have hheld := (h.record e.ticket p now).judge e.ticket j.flow.window j.flow.windowsScored
    j.flow.latched
  rw [FlowTable.modify_modify,
    hs.modify_congr (g := fun _ => j.flow) he hframe.symm, List.append_assoc] at hheld
  exact ⟨_, hheld⟩

lemma evictState (h : Held ops state.flows) (he : e ∈ state.flows.entries) (flow : FlowId) :
    ∃ more, Held (ops ++ more) (state.evict flow e.ticket).flows := by
  have hheld := h.evict he flow
  rw [List.append_assoc] at hheld
  exact ⟨_, by simpa only [State.evict, State.flows_forget] using hheld⟩

end Held

/-! ### Events -/

lemma exists_held_observe (monitor : Monitor σ) (h : Held ops state.flows)
    (hs : state.flows.Live) (p : Packet) (now : Nat) :
    ∃ more, Held (ops ++ more) (monitor.observe state p now).2.flows := by
  have hent := hs.entered p.flow (.fresh p.flow p.source now)
  have hentered : Held (ops ++ [.enter (.fresh p.flow p.source now)])
      (state.enter p now).2.flows := h.enter (.fresh p.flow p.source now)
  have hmem : (state.enter p now).1 ∈ (state.enter p now).2.flows.entries := hent.mem
  have hsound : (state.enter p now).2.flows.Sound := hent.sound
  obtain ⟨judging, hjudged⟩ := hentered.conclude hsound hmem monitor p now
    (state.enter p now).2.tally (state.enter p now).2.scorer
  simp only [observe, State.meet_of_live hs]
  split
  · obtain ⟨leaving, hleft⟩ := hjudged.evictState (FlowTable.mem_modify hmem _) p.flow
    exact ⟨_, by simpa only [List.append_assoc] using hleft⟩
  · exact ⟨_, by simpa only [List.append_assoc] using hjudged⟩

lemma exists_held_respond (h : Held ops state.flows) (hs : state.flows.Live) (event : Event) :
    ∃ more, Held (ops ++ more) (monitor.respond state event).2.flows := by
  cases event with
  | packet p now =>
    cases hport : monitor.portVerdict? p with
    | some v => exact ⟨[], by simpa [respond, process_of_stopped hport] using h⟩
    | none =>
      have hcounted : Held ops
          (State.mk state.flows (state.tally.packet p.payload.length) state.scorer).flows := h
      obtain ⟨more, hmore⟩ := exists_held_observe monitor hcounted hs p now
      exact ⟨more, by simpa only [respond, process, hport] using hmore⟩
  | close flow =>
    cases hfind : state.flows.find? flow with
    | none => exact ⟨[], by simpa [respond, close, hfind] using h⟩
    | some e =>
      have hmem := (FlowTable.mem_of_find? hfind).1
      simp only [respond, close, hfind, hs.unmarked e hmem]
      have hheld : Held ops (monitor.lastVerdict state e.state).2.flows := by
        rwa [lastVerdict_flows]
      exact hheld.evictState (by rwa [lastVerdict_flows]) flow
  | sweep now => exact ⟨_, h.sweep _⟩

/-! ### Runs -/

lemma exists_held_after (monitor : Monitor σ) (x : σ) (events : List Event) :
    ∃ ops, Held ops (monitor.after x events).flows := by
  induction events using List.reverseRecOn with
  | nil => exact ⟨[], .nil⟩
  | append_singleton events event ih =>
    obtain ⟨ops, h⟩ := ih
    obtain ⟨more, hmore⟩ := exists_held_respond h (after_live x events) event
    exact ⟨ops ++ more, by simpa only [after_snoc] using hmore⟩

/-- The table of a monitor after a run is one that careful holders leave behind. Every flow that
entered it is known to them, and is marked if and only if it has left. -/
theorem marked_iff_gone (monitor : Monitor σ) (x : σ) (events : List Event) :
    ∃ ops, Careful ops ∧ (HeldFlows.after ops).table = (monitor.after x events).flows ∧
      ∀ t < (monitor.after x events).flows.created,
        (HeldFlows.after ops).Marked t ↔ ¬ (HeldFlows.after ops).Stored t := by
  obtain ⟨ops, h⟩ := exists_held_after monitor x events
  have ho := HeldFlows.orderly_after ops
  refine ⟨ops, h.careful, h.table_eq, fun t ht => ⟨?_, ?_⟩⟩
  · rintro ⟨s, hs, hmark⟩ hstored
    obtain ⟨e, he, rfl⟩ := ho.stored_iff.mp hstored
    rw [ho.state?_of_mem (HeldFlows.mem_all_of_mem he), Option.some_inj] at hs
    have hunmarked := (after_live x events).unmarked e (h.table_eq ▸ he)
    rw [hs, hmark] at hunmarked
    cases hunmarked
  · exact (h.careful.accounted t (h.table_eq ▸ ht)).resolve_left

end Monitor

end FlowVerdict
