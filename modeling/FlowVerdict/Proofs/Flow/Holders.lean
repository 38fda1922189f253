import FlowVerdict.Proofs.Flow.Moves
import Mathlib.Data.List.Induction

/-!
What the holders of flows may rely on, whatever is done to the table.

Every operation comes down to one of three moves: a new flow is enrolled, states are changed where
they are, or tickets are withdrawn. What a history of operations keeps is shown of the moves.
-/

namespace FlowVerdict.HeldFlows

variable {h : HeldFlows} {k : FlowId} {t : Ticket} {e : FlowEntry} {ts : List Ticket}
  {f : FlowState → FlowState}

/-! ### Histories -/

/-- What the operations give back, one after the other, and the flows after them. -/
def run (h : HeldFlows) : List Operation → List Outcome × HeldFlows
  | [] => ([], h)
  | op :: ops =>
    let (outcome, h) := h.apply op
    let (outcomes, h) := h.run ops
    (outcome :: outcomes, h)

def after (ops : List Operation) : HeldFlows := (empty.run ops).2

def outcomes (ops : List Operation) : List Outcome := (empty.run ops).1

lemma run_append (h : HeldFlows) (ops later : List Operation) :
    h.run (ops ++ later) =
      ((h.run ops).1 ++ ((h.run ops).2.run later).1, ((h.run ops).2.run later).2) := by
  induction ops generalizing h with
  | nil => rfl
  | cons op ops ih => simp only [List.cons_append, run, ih]

@[simp] lemma after_snoc (ops : List Operation) (op : Operation) :
    after (ops ++ [op]) = ((after ops).apply op).2 := by
  simp only [after, run_append, run]

@[simp] lemma outcomes_snoc (ops : List Operation) (op : Operation) :
    outcomes (ops ++ [op]) = outcomes ops ++ [((after ops).apply op).1] := by
  simp only [outcomes, after, run_append, run]

/-! ### The operations as moves -/

lemma Orderly.filter_ticket (ho : h.Orderly) (he : e ∈ h.table.entries) :
    (h.table.entries.filter fun e' => e'.ticket ∈ [e.ticket]) = [e] := by
  refine List.perm_singleton.mp ?_
  have hn : h.table.entries.Nodup := List.Nodup.of_map _ ho.sound.tickets_nodup
  refine (List.perm_ext_iff_of_nodup (hn.filter _) (List.nodup_singleton e)).mpr fun e' => ?_
  simp only [List.mem_filter, List.mem_singleton, decide_eq_true_eq]
  constructor
  · rintro ⟨he', ht⟩
    exact ho.eq_of_ticket_eq (mem_all_of_mem he') (mem_all_of_mem he) ht
  · rintro rfl
    exact ⟨he, rfl⟩

/-- A ticket is told from all others by its flow as long as it is in the table. -/
lemma Orderly.filter_flow (ho : h.Orderly) (he : e ∈ h.table.entries) :
    h.table.entries.filter (·.flow != e.flow) =
      h.table.entries.filter fun e' => e'.ticket ∉ [e.ticket] := by
  refine List.filter_congr fun e' he' => ?_
  have hiff : e'.flow = e.flow ↔ e'.ticket = e.ticket := by
    constructor
    · intro hf
      rw [List.inj_on_of_nodup_map ho.sound.flows_nodup he' he hf]
    · intro ht
      rw [ho.eq_of_ticket_eq (mem_all_of_mem he') (mem_all_of_mem he) ht]
  simp [bne, BEq.beq, hiff]

lemma Orderly.apply_removeTicket (ho : h.Orderly) (hk : h.ticket? k = some t) :
    h.apply (.removeTicket k t) = (.removed true, h.withdraw [t]) := by
  obtain ⟨e, hfind, rfl⟩ := Option.map_eq_some_iff.mp hk
  obtain ⟨he, rfl⟩ := FlowTable.mem_of_find? hfind
  simp only [apply, FlowTable.removeTicket_of_find? hfind, ho.filter_flow he, HeldFlows.withdraw,
    ho.filter_ticket he, Option.isSome_some, Option.toList_some, List.length_singleton]

lemma apply_removeTicket_of_ne (hk : h.ticket? k ≠ some t) :
    h.apply (.removeTicket k t) = (.removed false, h) := by
  have hnone : h.table.removeTicket k t = (none, h.table) := by
    unfold FlowTable.removeTicket
    cases hfind : h.table.find? k with
    | none => rfl
    | some e =>
      have ht : e.ticket ≠ t := by simpa [ticket?, hfind] using hk
      simp [ht]
  simp [apply, hnone]

lemma Orderly.apply_remove (ho : h.Orderly) (hk : h.ticket? k = some t) :
    h.apply (.remove k) =
      (.found (some t), (h.changeAt [t] FlowState.markEvicted).withdraw [t]) := by
  have hmarked := ho.changeAt [t] (f := FlowState.markEvicted) fun _ => rfl
  have hk' : (h.changeAt [t] FlowState.markEvicted).ticket? k = some t := by
    rwa [ticket?_changeAt]
  have hstays : (h.changeAt [t] FlowState.markEvicted).departed = h.departed :=
    ho.departed_changeAt fun t' ht' => ⟨k, List.mem_singleton.mp ht' ▸ hk⟩
  have hremove : h.table.remove k =
      (h.changeAt [t] FlowState.markEvicted).table.removeTicket k t := by
    obtain ⟨e, hfind, rfl⟩ := Option.map_eq_some_iff.mp hk
    simp only [FlowTable.remove, hfind, ← modify_eq_changeAt, modify]
  obtain ⟨e, hfind, rfl⟩ := Option.map_eq_some_iff.mp hk'
  have hmoves := congrArg Prod.snd (hmarked.apply_removeTicket hk')
  simp only [apply, hstays] at hmoves
  simp only [apply, hremove, ← hmoves, FlowTable.removeTicket_of_find? hfind, Option.map_some]

lemma apply_remove_of_none (hk : h.ticket? k = none) : h.apply (.remove k) = (.found none, h) := by
  have hfind : h.table.find? k = none := Option.map_eq_none_iff.mp hk
  simp [apply, FlowTable.remove, hfind]

/-- The tickets in the table that are not locked and whose state answers to the test. -/
def sweepable (h : HeldFlows) (test : FlowState → Bool) (locked : List Ticket) : List Ticket :=
  (h.table.entries.filter (FlowTable.isSwept test locked)).map (·.ticket)

lemma Orderly.nodup_sweepable (ho : h.Orderly) (test : FlowState → Bool) (locked : List Ticket) :
    (h.sweepable test locked).Nodup :=
  (ho.sound.filter _ 0).tickets_nodup

lemma Orderly.mem_sweepable (ho : h.Orderly) {test : FlowState → Bool} {locked : List Ticket} :
    t ∈ h.sweepable test locked ↔
      h.Stored t ∧ t ∉ locked ∧ ∃ s, h.state? t = some s ∧ test s = true := by
  simp only [sweepable, List.mem_map, List.mem_filter, FlowTable.isSwept_iff]
  constructor
  · rintro ⟨e, ⟨he, hfree, htest⟩, rfl⟩
    exact ⟨ho.stored_of_mem he, hfree, e.state, ho.state?_of_mem (mem_all_of_mem he), htest⟩
  · rintro ⟨hstored, hfree, s, hs, htest⟩
    obtain ⟨e, he, rfl⟩ := ho.stored_iff.mp hstored
    rw [ho.state?_of_mem (mem_all_of_mem he), Option.some_inj] at hs
    exact ⟨e, ⟨he, hfree, hs ▸ htest⟩, rfl⟩

lemma Orderly.ticket_mem_sweepable (ho : h.Orderly) {test : FlowState → Bool}
    {locked : List Ticket} (he : e ∈ h.table.entries) :
    e.ticket ∈ h.sweepable test locked ↔ FlowTable.isSwept test locked e = true := by
  constructor
  · intro ht
    obtain ⟨e', he', ht⟩ := List.mem_map.mp ht
    obtain ⟨he', hswept⟩ := List.mem_filter.mp he'
    rwa [ho.eq_of_ticket_eq (mem_all_of_mem he') (mem_all_of_mem he) ht] at hswept
  · exact fun hswept => List.mem_map_of_mem (List.mem_filter.mpr ⟨he, hswept⟩)

/-- The flows that are swept are marked and then withdrawn. -/
lemma Orderly.apply_sweep (ho : h.Orderly) (test : FlowState → Bool) (locked : List Ticket) :
    h.apply (.sweep test locked) =
      (.swept (h.sweepable test locked).length,
        (h.changeAt (h.sweepable test locked) FlowState.markEvicted).withdraw
          (h.sweepable test locked)) := by
  have hgone : h.table.entries.filter (fun e => e.ticket ∈ h.sweepable test locked) =
      h.table.entries.filter (FlowTable.isSwept test locked) :=
    List.filter_congr fun e he => by simp [ho.ticket_mem_sweepable he]
  have hleft : h.table.entries.filter (fun e => e.ticket ∉ h.sweepable test locked) =
      h.table.entries.filter fun e => !FlowTable.isSwept test locked e :=
    List.filter_congr fun e he => by simp [ho.ticket_mem_sweepable he]
  rw [ho.withdraw_changeAt fun t ht => (ho.mem_sweepable.mp ht).1, hgone, hleft]
  simp [apply, FlowTable.sweep, sweepable]

/-- The tickets in the table that are not locked. -/
def visitable (h : HeldFlows) (locked : List Ticket) : List Ticket :=
  h.sweepable (fun _ => true) locked

lemma Orderly.mem_visitable (ho : h.Orderly) {locked : List Ticket} :
    t ∈ h.visitable locked ↔ h.Stored t ∧ t ∉ locked := by
  simp only [visitable, ho.mem_sweepable, and_true]
  exact ⟨fun ht => ⟨ht.1, ht.2.1⟩, fun ht => ⟨ht.1, ht.2, ho.exists_state? ht.1⟩⟩

lemma Orderly.map_visited (ho : h.Orderly) (locked : List Ticket) :
    (h.table.unlocked locked).map some = (h.visitable locked).map h.state? := by
  have hfree : FlowTable.isSwept (fun _ => true) locked = fun e => !locked.contains e.ticket :=
    funext fun e => Bool.and_true _
  simp only [FlowTable.unlocked, visitable, sweepable, hfree, List.map_map]
  refine List.map_congr_left fun e he => ?_
  exact (ho.state?_of_mem (mem_all_of_mem (List.mem_filter.mp he).1)).symm

/-- The ticket of a flow that has entered the table. -/
def Outcome.created? : Outcome → Option Ticket
  | .got ticket true => some ticket
  | _ => none

/-- All that an operation can come to. -/
inductive Effect (h : HeldFlows) : Operation → Outcome × HeldFlows → Prop
  /-- All stays as it is. -/
  | stay (op : Operation) {outcome : Outcome} (quiet : outcome.created? = none) :
    Effect h op (outcome, h)
  /-- A new flow enters. -/
  | enroll (initial : FlowState) (absent : h.ticket? initial.flow = none) :
    Effect h (.enter initial) (.got h.table.created true, h.enroll initial)
  /-- A state is changed, in the table or out of it, but it carries the same flow and a mark
  stays. -/
  | change (op : Operation) {outcome : Outcome} (quiet : outcome.created? = none)
    (tickets : List Ticket) {change : FlowState → FlowState}
    (flow_eq : ∀ s, (change s).flow = s.flow)
    (evicted : ∀ s, s.evicted = true → (change s).evicted = true) :
    Effect h op (outcome, h.changeAt tickets change)
  /-- A flow is withdrawn as it is. -/
  | withdraw {flow : FlowId} {ticket : Ticket} (stored : h.ticket? flow = some ticket) :
    Effect h (.removeTicket flow ticket) (.removed true, h.withdraw [ticket])
  /-- Flows are marked and withdrawn. -/
  | dismiss (op : Operation) {outcome : Outcome} (quiet : outcome.created? = none)
    {tickets : List Ticket} (nodup : tickets.Nodup) (stored : ∀ t ∈ tickets, h.Stored t) :
    Effect h op (outcome, (h.changeAt tickets FlowState.markEvicted).withdraw tickets)

lemma Orderly.effect (ho : h.Orderly) (op : Operation) : h.Effect op (h.apply op) := by
  cases op with
  | enter initial =>
    cases hk : h.ticket? initial.flow with
    | some t => exact apply_enter_of_some hk ▸ .stay _ rfl
    | none => exact apply_enter_of_none hk ▸ .enroll initial hk
  | get flow => exact .stay _ rfl
  | remove flow =>
    cases hk : h.ticket? flow with
    | some t =>
      exact ho.apply_remove hk ▸ .dismiss _ rfl (List.nodup_singleton t) (stored_of_singleton hk)
    | none => exact apply_remove_of_none hk ▸ .stay _ rfl
  | removeTicket flow ticket =>
    by_cases hk : h.ticket? flow = some ticket
    · exact ho.apply_removeTicket hk ▸ .withdraw hk
    · exact apply_removeTicket_of_ne hk ▸ .stay _ rfl
  | markEvicted ticket =>
    simp only [apply, modify_eq_changeAt]
    exact .change _ rfl _ (fun _ => rfl) fun _ _ => rfl
  | latch ticket verdict =>
    simp only [apply, modify_eq_changeAt]
    refine .change _ rfl _ (fun s => ?_) fun s => ?_ <;> unfold FlowState.latch <;> split <;> simp
  | record ticket packet now =>
    simp only [apply, modify_eq_changeAt]
    exact .change _ rfl _ (fun _ => rfl) fun _ he => he
  | judge ticket window windowsScored latched =>
    simp only [apply, modify_eq_changeAt]
    exact .change _ rfl _ (fun _ => rfl) fun _ he => he
  | sweep test locked =>
    exact ho.apply_sweep test locked ▸
      .dismiss _ rfl (ho.nodup_sweepable test locked) fun t ht => (ho.mem_sweepable.mp ht).1
  | visit locked => exact .stay _ rfl

/-! ### What every operation keeps -/

variable {op : Operation} {r : Outcome × HeldFlows}

lemma Effect.orderly (ho : h.Orderly) (he : h.Effect op r) : r.2.Orderly := by
  cases he with
  | stay => exact ho
  | enroll initial absent => exact ho.enroll absent
  | change _ _ ts flow_eq _ => exact ho.changeAt ts flow_eq
  | withdraw stored => exact ho.withdraw (List.nodup_singleton _) (stored_of_singleton stored)
  | dismiss _ _ nodup stored =>
    obtain ⟨hmarked, hstored⟩ := ho.dismissed stored
    exact hmarked.withdraw nodup hstored

lemma Effect.created (he : h.Effect op r) :
    List.range r.2.table.created = List.range h.table.created ++ r.1.created?.toList := by
  cases he with
  | enroll => exact List.range_succ
  | withdraw => exact (List.append_nil _).symm
  | stay _ quiet | change _ quiet _ _ _ | dismiss _ quiet _ _ =>
    simp only [quiet]
    exact (List.append_nil _).symm

lemma Effect.created_le (he : h.Effect op r) : h.table.created ≤ r.2.table.created := by
  have hlength := congrArg List.length he.created
  simp only [List.length_range, List.length_append] at hlength
  omega

lemma Effect.gone (ho : h.Orderly) (he : h.Effect op r) (ht : t < h.table.created)
    (hgone : ¬ h.Stored t) : ¬ r.2.Stored t := by
  cases he with
  | stay => exact hgone
  | enroll initial absent =>
    -- The flow that enters gets a ticket that is newer than `t`.
    rintro ⟨k, hk⟩
    rw [ticket?_enroll absent] at hk
    split at hk
    · exact Nat.ne_of_gt ht (Option.some.inj hk)
    · exact hgone ⟨k, hk⟩
  | change => rwa [stored_changeAt]
  | withdraw stored =>
    rw [ho.stored_withdraw (List.nodup_singleton _) (stored_of_singleton stored)]
    exact fun hstored => hgone hstored.1
  | dismiss _ _ nodup stored =>
    obtain ⟨hmarked, hstored⟩ := ho.dismissed stored
    rw [hmarked.stored_withdraw nodup hstored, stored_changeAt]
    exact fun hstored => hgone hstored.1

/-- Every ticket that was handed out is that of a flow in the table or is marked. -/
def Accounted (h : HeldFlows) : Prop := ∀ t < h.table.created, h.Stored t ∨ h.Marked t

/-- The operation withdraws no ticket that is not marked. -/
def Operation.Careful (h : HeldFlows) : Operation → Prop
  | .removeTicket _ ticket => h.Marked ticket
  | _ => True

lemma Effect.accounted (ho : h.Orderly) (he : h.Effect op r) (ha : h.Accounted)
    (hcare : op.Careful h) : r.2.Accounted := by
  cases he with
  | stay => exact ha
  | enroll initial absent =>
    intro t ht
    by_cases hnew : t = h.table.created
    · exact .inl ⟨initial.flow, by rw [ticket?_enroll absent, if_pos rfl, hnew]⟩
    · have hlt : t < h.table.created := Nat.lt_of_le_of_ne (Nat.le_of_lt_succ ht) hnew
      refine (ha t hlt).imp ?_ ?_
      · rintro ⟨k, hk⟩
        refine ⟨k, ?_⟩
        rw [ticket?_enroll absent, if_neg, hk]
        rintro rfl
        rw [absent] at hk
        cases hk
      · rintro ⟨s, hs, hmark⟩
        exact ⟨s, by rw [ho.state?_enroll absent, if_neg hnew, hs], hmark⟩
  | change _ _ ts _ evicted =>
    intro t ht
    exact (ha t ht).imp stored_changeAt.mpr (marked_changeAt evicted)
  | @withdraw _ ticket stored =>
    intro t ht
    rw [ho.stored_withdraw (List.nodup_singleton _) (stored_of_singleton stored),
      ho.marked_withdraw (List.nodup_singleton _) (stored_of_singleton stored)]
    -- The one operation that may lose a ticket unmarked is the one that has to be careful.
    by_cases hsame : t = ticket
    · exact .inr (hsame ▸ hcare)
    · exact (ha t ht).imp_left fun hstored => ⟨hstored, by simpa using hsame⟩
  | @dismiss _ _ _ ts nodup stored =>
    intro t ht
    obtain ⟨hmarked, hstored⟩ := ho.dismissed stored
    rw [hmarked.stored_withdraw nodup hstored, hmarked.marked_withdraw nodup hstored,
      stored_changeAt]
    -- Those that leave were stored, so they have a state to mark.
    by_cases hmem : t ∈ ts
    · obtain ⟨s, hs⟩ := ho.exists_state? (stored t hmem)
      exact .inr ⟨s.markEvicted, by rw [state?_changeAt, if_pos hmem, hs, Option.map_some], rfl⟩
    · exact (ha t ht).imp (fun hstored => ⟨hstored, hmem⟩) (marked_changeAt fun _ _ => rfl)

/-! ### What every history keeps -/

lemma orderly_after (ops : List Operation) : (after ops).Orderly := by
  induction ops using List.reverseRecOn with
  | nil => exact orderly_empty
  | append_singleton ops op ih =>
    rw [after_snoc]
    exact (ih.effect op).orderly ih

lemma created_outcomes (ops : List Operation) :
    (outcomes ops).filterMap Outcome.created? = List.range (after ops).table.created := by
  induction ops using List.reverseRecOn with
  | nil => rfl
  | append_singleton ops op ih =>
    rw [outcomes_snoc, after_snoc, List.filterMap_append, ih,
      ((orderly_after ops).effect op).created]
    cases h : (((after ops).apply op).1).created? <;> simp [h]

lemma gone_for_good (ops later : List Operation) (ht : t < (after ops).table.created)
    (hgone : ¬ (after ops).Stored t) :
    t < (after (ops ++ later)).table.created ∧ ¬ (after (ops ++ later)).Stored t := by
  induction later using List.reverseRecOn with
  | nil => simpa using ⟨ht, hgone⟩
  | append_singleton later op ih =>
    have ho := orderly_after (ops ++ later)
    rw [← List.append_assoc, after_snoc]
    exact ⟨Nat.lt_of_lt_of_le ih.1 (ho.effect op).created_le, (ho.effect op).gone ho ih.1 ih.2⟩

/-- No operation of the history withdraws a ticket that is not marked by then. -/
def Careful (ops : List Operation) : Prop :=
  ∀ before op rest, ops = before ++ op :: rest → op.Careful (after before)

lemma Careful.of_snoc {ops : List Operation} (hcare : Careful (ops ++ [op])) :
    Careful ops ∧ op.Careful (after ops) :=
  ⟨fun before o rest heq => hcare before o (rest ++ [op]) (by simp [heq]), hcare ops op [] rfl⟩

lemma careful_nil : Careful [] := fun before op rest h => by
  cases before <;> cases h

lemma Careful.snoc {ops : List Operation} (hcare : Careful ops) (op : Operation)
    (hop : op.Careful (after ops)) : Careful (ops ++ [op]) := by
  intro before o rest heq
  rcases List.eq_nil_or_concat rest with rfl | ⟨rest, last, rfl⟩
  · obtain ⟨rfl, hlast⟩ := List.append_inj' heq rfl
    cases hlast
    exact hop
  · rw [List.concat_eq_append, ← List.cons_append, ← List.append_assoc] at heq
    obtain ⟨hinit, -⟩ := List.append_inj' heq rfl
    exact hcare before o rest hinit

lemma Careful.accounted {ops : List Operation} (hcare : Careful ops) : (after ops).Accounted := by
  induction ops using List.reverseRecOn with
  | nil => exact fun t ht => absurd ht (Nat.not_lt_zero t)
  | append_singleton ops op ih =>
    obtain ⟨hcare, hop⟩ := hcare.of_snoc
    have ho := orderly_after ops
    rw [after_snoc]
    exact (ho.effect op).accounted ho (ih hcare) hop

/-- What those who hold the flows may rely on after any history of operations. -/
structure Reliable (ops : List Operation) : Prop where
  /-- A flow is in the table once. -/
  flows_nodup : ((after ops).table.entries.map (·.flow)).Nodup
  /-- The state under the ticket of a flow carries the flow. -/
  carries_flow : ∀ k t, (after ops).ticket? k = some t →
    ∃ s, (after ops).state? t = some s ∧ s.flow = k
  /-- A flow that is in the table is found there, and nothing is touched. -/
  enter_known : ∀ initial t, (after ops).ticket? initial.flow = some t →
    (after ops).apply (.enter initial) = (.got t false, after ops)
  /-- A flow that is not in the table enters it in the given state, under a ticket that has no state
  yet, and nothing else is touched. -/
  enter_new : ∀ initial, (after ops).ticket? initial.flow = none →
    (after ops).state? (after ops).table.created = none ∧
    ((after ops).apply (.enter initial)).1 = .got (after ops).table.created true ∧
    (∀ k, ((after ops).apply (.enter initial)).2.ticket? k =
      if k = initial.flow then some (after ops).table.created else (after ops).ticket? k) ∧
    ∀ t, ((after ops).apply (.enter initial)).2.state? t =
      if t = (after ops).table.created then some initial else (after ops).state? t
  /-- The flows that entered got the tickets in order, and as many are counted. -/
  created : (outcomes ops).filterMap Outcome.created? = List.range (after ops).table.created
  /-- The table holds the flows that entered less those that left. -/
  size_eq : (after ops).table.evicted ≤ (after ops).table.created ∧
    (after ops).table.size = (after ops).table.created - (after ops).table.evicted
  /-- A ticket that has left the table never comes back. -/
  gone : ∀ t < (after ops).table.created, ¬ (after ops).Stored t →
    ∀ later, ¬ (after (ops ++ later)).Stored t
  /-- A ticket is withdrawn only if it is the one in the table. -/
  removeTicket_outcome : ∀ k t, ((after ops).apply (.removeTicket k t)).1 =
    .removed (decide ((after ops).ticket? k = some t))
  /-- A stale ticket changes nothing. -/
  removeTicket_stale : ∀ k t, (after ops).ticket? k ≠ some t →
    ((after ops).apply (.removeTicket k t)).2 = after ops
  /-- A ticket that is withdrawn takes its flow out of the table, and nothing else is touched. -/
  removeTicket : ∀ k t, (after ops).ticket? k = some t →
    (∀ j, ((after ops).apply (.removeTicket k t)).2.ticket? j =
      if j = k then none else (after ops).ticket? j) ∧
    ((after ops).apply (.removeTicket k t)).2.state? = (after ops).state?
  /-- A sweep takes out and marks the tickets in the table that are not locked and whose state
  answers to the test, tells their number, and leaves all others as they are. -/
  sweep : ∀ test locked, ∃ gone : List Ticket, gone.Nodup ∧
    (∀ t, t ∈ gone ↔ (after ops).Stored t ∧ t ∉ locked ∧
      ∃ s, (after ops).state? t = some s ∧ test s = true) ∧
    ((after ops).apply (.sweep test locked)).1 = .swept gone.length ∧
    (∀ k, ((after ops).apply (.sweep test locked)).2.ticket? k =
      ((after ops).ticket? k).filter (· ∉ gone)) ∧
    ∀ t, ((after ops).apply (.sweep test locked)).2.state? t =
      if t ∈ gone then ((after ops).state? t).map FlowState.markEvicted else (after ops).state? t
  /-- A visit sees the states of the tickets in the table that are not locked, each once, and
  touches nothing. -/
  visit : ∀ locked, ∃ (seen : List Ticket) (states : List FlowState), seen.Nodup ∧
    (∀ t, t ∈ seen ↔ (after ops).Stored t ∧ t ∉ locked) ∧
    states.map some = seen.map (after ops).state? ∧
    (after ops).apply (.visit locked) = (.visited states, after ops)
  /-- If no ticket was withdrawn before it was marked, every flow that entered is in the table or
  marked. -/
  accounted : Careful ops → ∀ t < (after ops).table.created,
    (after ops).Stored t ∨ (after ops).Marked t

/-- After any history the table keeps what those who hold its flows rely on: a ticket is that of one
flow for good, in the table or out of it. -/
theorem holders_rely_on_tickets (ops : List Operation) : Reliable ops where
  flows_nodup := (orderly_after ops).sound.flows_nodup
  carries_flow _ _ := (orderly_after ops).carries_flow
  enter_known _ _ := apply_enter_of_some
  enter_new initial absent := by
    have ho := orderly_after ops
    rw [apply_enter_of_none absent]
    exact ⟨ho.state?_created, rfl, ticket?_enroll absent, ho.state?_enroll absent⟩
  created := created_outcomes ops
  size_eq := by
    have hsize : (after ops).table.size + (after ops).table.evicted = (after ops).table.created :=
      (orderly_after ops).balanced
    omega
  gone t ht hgone later := (gone_for_good ops later ht hgone).2
  removeTicket_outcome k t := by
    by_cases hk : (after ops).ticket? k = some t
    · rw [(orderly_after ops).apply_removeTicket hk, decide_eq_true hk]
    · rw [apply_removeTicket_of_ne hk, decide_eq_false hk]
  removeTicket_stale k t hk := by rw [apply_removeTicket_of_ne hk]
  removeTicket k t hk := by
    have ho := orderly_after ops
    rw [ho.apply_removeTicket hk]
    exact ⟨ho.ticket?_withdraw_one hk,
      ho.state?_withdraw (List.nodup_singleton t) (stored_of_singleton hk)⟩
  sweep test locked := by
    have ho := orderly_after ops
    have hn := ho.nodup_sweepable test locked
    obtain ⟨hmarked, hstored⟩ := ho.dismissed fun t ht => (ho.mem_sweepable.mp ht).1
    refine ⟨(after ops).sweepable test locked, hn, fun t => ho.mem_sweepable, ?_⟩
    rw [ho.apply_sweep]
    refine ⟨rfl, fun k => ?_, fun t => ?_⟩
    · rw [hmarked.ticket?_withdraw hn hstored, ticket?_changeAt]
    · rw [hmarked.state?_withdraw hn hstored, state?_changeAt]
  visit locked := by
    have ho := orderly_after ops
    refine ⟨(after ops).visitable locked, (after ops).table.unlocked locked,
      ho.nodup_sweepable _ locked, fun t => ho.mem_visitable, ho.map_visited locked, rfl⟩
  accounted hcare := hcare.accounted

/-- The ticket of a flow that left does not take out the flow that came in its place. -/
example :
    let near : Endpoint := ⟨.ofBytes 10 0 0 1, 40000⟩
    let flow : FlowId := .between near ⟨.ofBytes 10 0 0 2, 443⟩ .tcp
    outcomes [.getOrCreate flow near 0, .remove flow, .getOrCreate flow near 9,
        .removeTicket flow 0, .removeTicket flow 1] =
      [.got 0 true, .found (some 0), .got 1 true, .removed false, .removed true] := by
  rfl

end FlowVerdict.HeldFlows
