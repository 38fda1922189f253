import FlowVerdict.Flow.Holders
import FlowVerdict.Proofs.Flow.Table

/-!
What can be done to a table and to the flows that have left it.

A flow is enrolled under the next ticket, the states of some tickets are changed where they are, or
some tickets are withdrawn from the table. Tickets are never made up and never lost, which each of
the three moves keeps; what it does is told by the map from flows to tickets and by the map from
tickets to states.
-/

namespace FlowVerdict

/-- The entry with its state changed if its ticket is among the tickets. -/
def FlowEntry.changedAt (tickets : List Ticket) (change : FlowState → FlowState)
    (e : FlowEntry) : FlowEntry :=
  if e.ticket ∈ tickets then { e with state := change e.state } else e

@[simp] lemma FlowEntry.flow_changedAt (ts : List Ticket) (f : FlowState → FlowState)
    (e : FlowEntry) : (e.changedAt ts f).flow = e.flow := by
  unfold changedAt
  split <;> rfl

@[simp] lemma FlowEntry.ticket_changedAt (ts : List Ticket) (f : FlowState → FlowState)
    (e : FlowEntry) : (e.changedAt ts f).ticket = e.ticket := by
  unfold changedAt
  split <;> rfl

namespace HeldFlows

variable {h : HeldFlows} {k : FlowId} {t : Ticket} {s : FlowState} {e : FlowEntry}
  {ts : List Ticket} {f : FlowState → FlowState}

/-! ### Tickets -/

def all (h : HeldFlows) : List FlowEntry := h.table.entries ++ h.departed

/-- The ticket under which a flow is in the table. -/
def ticket? (h : HeldFlows) (flow : FlowId) : Option Ticket :=
  (h.table.find? flow).map (·.ticket)

/-- The ticket is that of a flow in the table. -/
def Stored (h : HeldFlows) (ticket : Ticket) : Prop := ∃ flow, h.ticket? flow = some ticket

/-- The state of the ticket is marked as having left the table. -/
def Marked (h : HeldFlows) (ticket : Ticket) : Prop :=
  ∃ s, h.state? ticket = some s ∧ s.evicted = true

/-- The table is sound, each ticket that was handed out is that of one entry, in the table or out of
it, and states carry the flows they are kept under. -/
structure Orderly (h : HeldFlows) : Prop where
  sound : h.table.Sound
  balanced : h.table.Balanced
  tickets : (h.all.map (·.ticket)).Perm (List.range h.table.created)
  flow_eq : ∀ e ∈ h.all, e.state.flow = e.flow

lemma orderly_empty : empty.Orderly :=
  ⟨FlowTable.sound_empty, FlowTable.balanced_empty, by simp [all, empty, FlowTable.empty],
    by simp [all, empty, FlowTable.empty]⟩

lemma mem_all_of_mem (he : e ∈ h.table.entries) : e ∈ h.all := List.mem_append_left _ he

lemma Orderly.tickets_nodup (ho : h.Orderly) : (h.all.map (·.ticket)).Nodup :=
  ho.tickets.nodup_iff.mpr List.nodup_range

lemma Orderly.lt_iff (ho : h.Orderly) : t < h.table.created ↔ ∃ e ∈ h.all, e.ticket = t := by
  rw [← List.mem_range, ← ho.tickets.mem_iff, List.mem_map]

lemma Orderly.eq_of_ticket_eq (ho : h.Orderly) {e' : FlowEntry} (he : e ∈ h.all)
    (he' : e' ∈ h.all) (ht : e.ticket = e'.ticket) : e = e' :=
  List.inj_on_of_nodup_map ho.tickets_nodup he he' ht

lemma Orderly.held?_eq_some_iff (ho : h.Orderly) :
    h.held? t = some e ↔ e ∈ h.all ∧ e.ticket = t :=
  find?_key_eq_some_iff ho.tickets_nodup

lemma Orderly.state?_eq_some_iff (ho : h.Orderly) :
    h.state? t = some s ↔ ∃ e ∈ h.all, e.ticket = t ∧ e.state = s := by
  simp only [state?, Option.map_eq_some_iff, ho.held?_eq_some_iff, and_assoc]

lemma Orderly.state?_of_mem (ho : h.Orderly) (he : e ∈ h.all) : h.state? e.ticket = some e.state :=
  ho.state?_eq_some_iff.mpr ⟨e, he, rfl, rfl⟩

lemma Orderly.ticket?_eq_some_iff (ho : h.Orderly) :
    h.ticket? k = some t ↔ ∃ e ∈ h.table.entries, e.flow = k ∧ e.ticket = t := by
  simp only [ticket?, Option.map_eq_some_iff, FlowTable.find?,
    find?_key_eq_some_iff ho.sound.flows_nodup, and_assoc]

lemma Orderly.stored_iff (ho : h.Orderly) : h.Stored t ↔ ∃ e ∈ h.table.entries, e.ticket = t := by
  simp only [Stored, ho.ticket?_eq_some_iff]
  exact ⟨fun ⟨_, e, he, _, ht⟩ => ⟨e, he, ht⟩, fun ⟨e, he, ht⟩ => ⟨e.flow, e, he, rfl, ht⟩⟩

lemma Orderly.stored_of_mem (ho : h.Orderly) (he : e ∈ h.table.entries) : h.Stored e.ticket :=
  ho.stored_iff.mpr ⟨e, he, rfl⟩

lemma Orderly.carries_flow (ho : h.Orderly) (hk : h.ticket? k = some t) :
    ∃ s, h.state? t = some s ∧ s.flow = k := by
  obtain ⟨e, he, rfl, rfl⟩ := ho.ticket?_eq_some_iff.mp hk
  exact ⟨e.state, ho.state?_of_mem (mem_all_of_mem he), ho.flow_eq e (mem_all_of_mem he)⟩

lemma Orderly.state?_created (ho : h.Orderly) : h.state? h.table.created = none := by
  refine Option.eq_none_iff_forall_ne_some.mpr fun s hs => ?_
  obtain ⟨e, he, ht, -⟩ := ho.state?_eq_some_iff.mp hs
  exact Nat.lt_irrefl _ (ho.lt_iff.mpr ⟨e, he, ht⟩)

lemma Orderly.ticket?_inj (ho : h.Orderly) {j : FlowId} (hj : h.ticket? j = some t)
    (hk : h.ticket? k = some t) : j = k := by
  obtain ⟨s, hs, rfl⟩ := ho.carries_flow hj
  obtain ⟨s', hs', rfl⟩ := ho.carries_flow hk
  rw [Option.some.inj (hs.symm.trans hs')]

lemma Orderly.exists_state? (ho : h.Orderly) (ht : h.Stored t) : ∃ s, h.state? t = some s := by
  obtain ⟨e, he, rfl⟩ := ho.stored_iff.mp ht
  exact ⟨e.state, ho.state?_of_mem (mem_all_of_mem he)⟩

/-! ### Enrolling a flow -/

/-- The flows with one more, under the next ticket. -/
def enroll (h : HeldFlows) (initial : FlowState) : HeldFlows where
  table :=
    { h.table with
      entries := h.table.entries ++ [⟨initial.flow, h.table.created, initial⟩]
      created := h.table.created + 1 }
  departed := h.departed

lemma apply_enter_of_some {initial : FlowState} (hk : h.ticket? initial.flow = some t) :
    h.apply (.enter initial) = (.got t false, h) := by
  obtain ⟨e, hfind, rfl⟩ := Option.map_eq_some_iff.mp hk
  simp only [apply, FlowTable.getOrCreate_of_some hfind]

lemma apply_enter_of_none {initial : FlowState} (hk : h.ticket? initial.flow = none) :
    h.apply (.enter initial) = (.got h.table.created true, h.enroll initial) := by
  have hfind : h.table.find? initial.flow = none := Option.map_eq_none_iff.mp hk
  simp only [apply, FlowTable.getOrCreate_of_none hfind]
  rfl

lemma all_enroll (h : HeldFlows) (initial : FlowState) :
    (h.enroll initial).all.Perm (⟨initial.flow, h.table.created, initial⟩ :: h.all) := by
  simp only [all, enroll, List.append_assoc, List.singleton_append]
  exact List.perm_middle

lemma Orderly.enroll (ho : h.Orderly) {initial : FlowState} (hk : h.ticket? initial.flow = none) :
    (h.enroll initial).Orderly := by
  have hfind : h.table.find? initial.flow = none := Option.map_eq_none_iff.mp hk
  have hsound := (ho.sound.entered initial.flow initial).sound
  have hbalanced := ho.balanced.getOrCreate initial.flow initial
  rw [FlowTable.getOrCreate_of_none hfind] at hsound hbalanced
  refine ⟨hsound, hbalanced, ?_, ?_⟩
  · calc ((h.enroll initial).all.map (·.ticket)).Perm (h.table.created :: h.all.map (·.ticket)) :=
          (all_enroll h initial).map _
      _ |>.Perm (h.table.created :: List.range h.table.created) := ho.tickets.cons _
      _ |>.Perm (List.range (h.table.created + 1)) := by
          rw [List.range_succ]
          exact (List.perm_append_singleton _ _).symm
  · intro e he
    rcases List.mem_cons.mp ((all_enroll h initial).mem_iff.mp he) with rfl | he
    · rfl
    · exact ho.flow_eq e he

lemma ticket?_enroll {initial : FlowState} (hk : h.ticket? initial.flow = none) (k : FlowId) :
    (h.enroll initial).ticket? k =
      if k = initial.flow then some h.table.created else h.ticket? k := by
  have hfind : h.table.find? initial.flow = none := Option.map_eq_none_iff.mp hk
  simp only [ticket?, FlowTable.find?, enroll, List.find?_append]
  split
  · next heq =>
    subst heq
    simp [show h.table.entries.find? (·.flow == initial.flow) = none from hfind]
  · next hne => simp [Ne.symm hne]

lemma Orderly.state?_enroll (ho : h.Orderly) {initial : FlowState}
    (hk : h.ticket? initial.flow = none) (t : Ticket) :
    (h.enroll initial).state? t = if t = h.table.created then some initial else h.state? t := by
  ext s
  simp only [(ho.enroll hk).state?_eq_some_iff, (all_enroll h initial).mem_iff, List.mem_cons,
    or_and_right, exists_or, exists_eq_left]
  split
  · next heq =>
    subst heq
    have hnone : ¬ ∃ e ∈ h.all, e.ticket = h.table.created ∧ e.state = s := by
      rintro ⟨e, he, ht, -⟩
      exact absurd (ho.lt_iff.mpr ⟨e, he, ht⟩) (Nat.lt_irrefl _)
    simp [hnone]
  · next hne => simp [Ne.symm hne, ho.state?_eq_some_iff]

/-! ### Changing states -/

/-- The flows with the states of some tickets changed, in the table or out of it. -/
def changeAt (h : HeldFlows) (tickets : List Ticket) (change : FlowState → FlowState) :
    HeldFlows where
  table := { h.table with entries := h.table.entries.map (·.changedAt tickets change) }
  departed := h.departed.map (·.changedAt tickets change)

lemma modify_eq_changeAt (h : HeldFlows) (t : Ticket) (f : FlowState → FlowState) :
    h.modify t f = h.changeAt [t] f := by
  simp only [modify, FlowTable.modify, changeAt, FlowEntry.changedAt, List.mem_singleton]

lemma all_changeAt (h : HeldFlows) (ts : List Ticket) (f : FlowState → FlowState) :
    (h.changeAt ts f).all = h.all.map (·.changedAt ts f) := by
  simp only [all, changeAt, List.map_append]

lemma Orderly.changeAt (ho : h.Orderly) (ts : List Ticket) (hf : ∀ s, (f s).flow = s.flow) :
    (h.changeAt ts f).Orderly := by
  refine ⟨ho.sound.map (by simp) (by simp), ?_, ?_, ?_⟩
  · simpa [HeldFlows.changeAt, FlowTable.Balanced, FlowTable.size] using ho.balanced
  · have hsame : (h.changeAt ts f).all.map (·.ticket) = h.all.map (·.ticket) := by
      rw [all_changeAt, List.map_map]
      exact List.map_congr_left fun e _ => e.ticket_changedAt ts f
    exact hsame ▸ ho.tickets
  · rw [all_changeAt]
    intro e' he'
    obtain ⟨e, he, rfl⟩ := List.mem_map.mp he'
    have hflow := ho.flow_eq e he
    unfold FlowEntry.changedAt
    split
    · exact (hf e.state).trans hflow
    · exact hflow

@[simp] lemma ticket?_changeAt (h : HeldFlows) (ts : List Ticket) (f : FlowState → FlowState) :
    (h.changeAt ts f).ticket? = h.ticket? := by
  funext k
  simp [ticket?, FlowTable.find?, changeAt, List.find?_map, Function.comp_def]

lemma state?_changeAt (h : HeldFlows) (ts : List Ticket) (f : FlowState → FlowState)
    (t : Ticket) :
    (h.changeAt ts f).state? t = if t ∈ ts then (h.state? t).map f else h.state? t := by
  have hentry : (h.changeAt ts f).held? t = (h.held? t).map (·.changedAt ts f) := by
    simp only [held?, changeAt, ← List.map_append, List.find?_map, Function.comp_def,
      FlowEntry.ticket_changedAt]
  rw [state?, hentry, state?]
  cases hfind : h.held? t with
  | none => simp
  | some e =>
    have ht : e.ticket = t := by simpa using List.find?_some hfind
    simp only [Option.map_some, FlowEntry.changedAt, ht]
    split <;> rfl

lemma stored_changeAt : (h.changeAt ts f).Stored t ↔ h.Stored t := by
  simp only [Stored, ticket?_changeAt]

lemma marked_changeAt (evicted : ∀ s, s.evicted = true → (f s).evicted = true)
    (hm : h.Marked t) : (h.changeAt ts f).Marked t := by
  obtain ⟨s, hs, hs'⟩ := hm
  simp only [Marked, state?_changeAt, hs]
  split
  · exact ⟨f s, rfl, evicted s hs'⟩
  · exact ⟨s, rfl, hs'⟩

/-! ### Withdrawing tickets -/

/-- The flows with those of some tickets taken out of the table. -/
def withdraw (h : HeldFlows) (tickets : List Ticket) : HeldFlows where
  table :=
    { h.table with
      entries := h.table.entries.filter fun e => e.ticket ∉ tickets
      evicted := h.table.evicted + tickets.length }
  departed := h.departed ++ h.table.entries.filter fun e => e.ticket ∈ tickets

lemma all_withdraw (h : HeldFlows) (ts : List Ticket) : (h.withdraw ts).all.Perm h.all := by
  have hsplit := List.filter_append_perm (fun e : FlowEntry => decide (e.ticket ∈ ts))
    h.table.entries
  simp only [← decide_not] at hsplit
  simp only [all, withdraw]
  refine (List.perm_append_comm.append_left _).trans ?_
  rw [← List.append_assoc]
  exact (List.perm_append_comm.trans hsplit).append_right _

lemma Orderly.length_withdrawn (ho : h.Orderly) (hn : ts.Nodup) (hts : ∀ t ∈ ts, h.Stored t) :
    (h.table.entries.filter fun e => e.ticket ∈ ts).length = ts.length := by
  have hperm : ((h.table.entries.filter fun e => e.ticket ∈ ts).map (·.ticket)).Perm ts := by
    refine (List.perm_ext_iff_of_nodup (ho.sound.filter _ 0).tickets_nodup hn).mpr fun t => ?_
    simp only [List.mem_map, List.mem_filter, decide_eq_true_eq]
    constructor
    · rintro ⟨e, ⟨-, he⟩, rfl⟩
      exact he
    · intro ht
      obtain ⟨e, he, rfl⟩ := ho.stored_iff.mp (hts t ht)
      exact ⟨e, ⟨he, ht⟩, rfl⟩
  rw [← hperm.length_eq, List.length_map]

lemma Orderly.withdraw (ho : h.Orderly) (hn : ts.Nodup) (hts : ∀ t ∈ ts, h.Stored t) :
    (h.withdraw ts).Orderly := by
  refine ⟨ho.sound.filter _ _, ?_, ((all_withdraw h ts).map _).trans ho.tickets, ?_⟩
  · have hlength := ho.length_withdrawn hn hts
    have hsplit := List.length_eq_length_filter_add (l := h.table.entries)
      fun e : FlowEntry => decide (e.ticket ∈ ts)
    simp only [← decide_not] at hsplit
    have hsize : h.table.entries.length + h.table.evicted = h.table.created := ho.balanced
    simp only [HeldFlows.withdraw, FlowTable.Balanced, FlowTable.size]
    omega
  · exact fun e he => ho.flow_eq e ((all_withdraw h ts).mem_iff.mp he)

lemma Orderly.ticket?_withdraw (ho : h.Orderly) (hn : ts.Nodup) (hts : ∀ t ∈ ts, h.Stored t)
    (k : FlowId) : (h.withdraw ts).ticket? k = (h.ticket? k).filter (· ∉ ts) := by
  ext t
  rw [(ho.withdraw hn hts).ticket?_eq_some_iff, Option.filter_eq_some_iff,
    ho.ticket?_eq_some_iff]
  simp only [HeldFlows.withdraw, List.mem_filter, decide_eq_true_eq]
  constructor
  · rintro ⟨e, ⟨he, hnot⟩, rfl, rfl⟩
    exact ⟨⟨e, he, rfl, rfl⟩, hnot⟩
  · rintro ⟨⟨e, he, rfl, rfl⟩, hnot⟩
    exact ⟨e, ⟨he, hnot⟩, rfl, rfl⟩

lemma Orderly.state?_withdraw (ho : h.Orderly) (hn : ts.Nodup) (hts : ∀ t ∈ ts, h.Stored t) :
    (h.withdraw ts).state? = h.state? := by
  funext t
  ext s
  simp only [(ho.withdraw hn hts).state?_eq_some_iff, ho.state?_eq_some_iff,
    (all_withdraw h ts).mem_iff]

lemma stored_of_singleton (hk : h.ticket? k = some t) : ∀ t' ∈ [t], h.Stored t' :=
  fun _ ht' => ⟨k, List.mem_singleton.mp ht' ▸ hk⟩

lemma Orderly.stored_withdraw (ho : h.Orderly) (hn : ts.Nodup) (hts : ∀ t ∈ ts, h.Stored t) :
    (h.withdraw ts).Stored t ↔ h.Stored t ∧ t ∉ ts := by
  simp only [Stored, ho.ticket?_withdraw hn hts, Option.filter_eq_some_iff, decide_eq_true_eq,
    exists_and_right]

lemma Orderly.marked_withdraw (ho : h.Orderly) (hn : ts.Nodup) (hts : ∀ t ∈ ts, h.Stored t) :
    (h.withdraw ts).Marked t ↔ h.Marked t := by
  simp only [Marked, ho.state?_withdraw hn hts]

lemma Orderly.ticket?_withdraw_one (ho : h.Orderly) (hk : h.ticket? k = some t) (j : FlowId) :
    (h.withdraw [t]).ticket? j = if j = k then none else h.ticket? j := by
  rw [ho.ticket?_withdraw (List.nodup_singleton t) (stored_of_singleton hk)]
  split
  · next heq => simp [heq, hk]
  · next hne =>
    cases hj : h.ticket? j with
    | none => rfl
    | some t' =>
      have ht : t' ≠ t := by
        rintro rfl
        exact hne (ho.ticket?_inj hj hk)
      simp [Option.filter, ht]

/-! ### Changed, then withdrawn -/

lemma Orderly.departed_not_stored (ho : h.Orderly) (he : e ∈ h.departed) :
    ¬ h.Stored e.ticket := by
  intro hstored
  obtain ⟨e', he', ht⟩ := ho.stored_iff.mp hstored
  have hn := ho.tickets_nodup
  rw [all, List.map_append, List.nodup_append] at hn
  exact hn.2.2 _ (List.mem_map_of_mem he') _ (List.mem_map_of_mem he) ht

lemma Orderly.departed_changeAt (ho : h.Orderly) (hts : ∀ t ∈ ts, h.Stored t) :
    (h.changeAt ts f).departed = h.departed := by
  refine (List.map_congr_left fun e he => ?_).trans (List.map_id _)
  have hnot : e.ticket ∉ ts := fun ht => ho.departed_not_stored he (hts _ ht)
  simp [FlowEntry.changedAt, hnot]

lemma Orderly.withdraw_changeAt (ho : h.Orderly) (hts : ∀ t ∈ ts, h.Stored t) :
    (h.changeAt ts f).withdraw ts =
      ⟨⟨h.table.entries.filter fun e => e.ticket ∉ ts, h.table.created,
          h.table.evicted + ts.length⟩,
        h.departed ++ (h.table.entries.filter fun e => e.ticket ∈ ts).map fun e =>
          { e with state := f e.state }⟩ := by
  have hleft : ((h.table.entries.filter fun e => e.ticket ∉ ts).map (·.changedAt ts f)) =
      h.table.entries.filter fun e => e.ticket ∉ ts := by
    refine (List.map_congr_left fun e he => ?_).trans (List.map_id _)
    have hnot : e.ticket ∉ ts := by simpa using (List.mem_filter.mp he).2
    simp [FlowEntry.changedAt, hnot]
  have hgone : ((h.table.entries.filter fun e => e.ticket ∈ ts).map (·.changedAt ts f)) =
      (h.table.entries.filter fun e => e.ticket ∈ ts).map fun e =>
        { e with state := f e.state } := by
    refine List.map_congr_left fun e he => ?_
    have ht : e.ticket ∈ ts := by simpa using (List.mem_filter.mp he).2
    simp [FlowEntry.changedAt, ht]
  simp only [HeldFlows.withdraw, ho.departed_changeAt hts]
  simp only [HeldFlows.changeAt, List.filter_map, Function.comp_def, FlowEntry.ticket_changedAt,
    hleft, hgone]

lemma Orderly.dismissed (ho : h.Orderly) (hts : ∀ t ∈ ts, h.Stored t) :
    (h.changeAt ts FlowState.markEvicted).Orderly ∧
      ∀ t ∈ ts, (h.changeAt ts FlowState.markEvicted).Stored t :=
  ⟨ho.changeAt ts fun _ => rfl, fun t ht => stored_changeAt.mpr (hts t ht)⟩

end HeldFlows

end FlowVerdict
