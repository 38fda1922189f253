import FlowVerdict.Proofs.Monitor.Lifecycle
import FlowVerdict.Proofs.Monitor.Permanence

/-!
How many questions a monitor asks. Every flow comes into the table with one credit. The question
that settles the flow uses it up, be it answered or, without a second chance, a failure, and a
settled flow asks no more. So the questions that settled their flows, together with the flows in the
table that are not settled yet, are never more than the flows that came, those long gone included.
-/

namespace FlowVerdict

/-- Once the question has been put, its flow is settled: it was answered, or there is no second
chance. -/
def Exchange.Settles (settings : Settings) (e : Exchange) : Prop :=
  e.Failed → settings.scoring.rescoreOnFailure = false

instance (settings : Settings) (e : Exchange) : Decidable (e.Settles settings) :=
  inferInstanceAs (Decidable (_ → _))

lemma Exchange.not_settles_iff {settings : Settings} {e : Exchange} :
    ¬e.Settles settings ↔ e.Failed ∧ settings.scoring.rescoreOnFailure = true := by
  simp [Settles]

lemma Exchange.settles_of_not_failed {settings : Settings} {e : Exchange} (h : ¬e.Failed) :
    e.Settles settings :=
  fun hfailed => absurd hfailed h

/-- The flow has its credit. -/
def FlowState.unsettled (s : FlowState) : Bool := s.latched.isNone

/-- How the questions of a stay keep to their budget: one answer at most, and before the last
question only failures, each with a second chance. -/
structure Stay.Frugal (stay : Stay) (settings : Settings) : Prop where
  answered_le : stay.exchanges.countP (fun e => ¬e.Failed) ≤ 1
  vain : ∀ e ∈ stay.exchanges.dropLast,
    e.Failed ∧ settings.scoring.rescoreOnFailure = true
  length_le : settings.scoring.rescoreOnFailure = false → stay.exchanges.length ≤ 1

lemma countP_le_one {α : Type} {p : α → Bool} {l : List α} (h : ∀ a ∈ l.dropLast, p a = false) :
    l.countP p ≤ 1 := by
  rcases List.eq_nil_or_concat l with rfl | ⟨init, last, rfl⟩
  · exact Nat.zero_le 1
  · rw [List.concat_eq_append, List.dropLast_concat] at h
    have hinit : init.countP p = 0 := List.countP_eq_zero.mpr fun a ha => by simp [h a ha]
    have hlast : [last].countP p ≤ [last].length := List.countP_le_length
    rw [List.concat_eq_append, List.countP_append, hinit, Nat.zero_add]
    exact hlast

namespace Monitor

variable {σ : Type} {monitor : Monitor σ} {state : State σ} {flow : FlowId} {hs : List Hearing}
  {s s' : FlowState} {h : Hearing}

/-! ### Stays -/

/-- Questions of which only the last may have settled the flow, and none has if the flow is not
settled. -/
structure Spent (settings : Settings) (s : FlowState) (es : List Exchange) : Prop where
  vain : s.latched = none → ∀ e ∈ es, ¬e.Settles settings
  last : ∀ e ∈ es.dropLast, ¬e.Settles settings

lemma Spent.snoc {settings : Settings} {es : List Exchange} (hspent : Spent settings s es)
    (hlatch : s.latched = none) (e : Exchange) :
    ∀ e' ∈ (es ++ [e]).dropLast, ¬e'.Settles settings := by
  rw [List.dropLast_concat]
  exact hspent.vain hlatch

lemma Heard.spent (hheard : Heard monitor s h s')
    (hspent : Spent monitor.settings s (hs.flatMap (·.exchanges))) :
    Spent monitor.settings s' ((hs ++ [h]).flatMap (·.exchanges)) := by
  rw [List.flatMap_append, List.flatMap_singleton]
  cases hheard with
  | settled => simpa using hspent
  | payload _ hlatch =>
    rw [List.append_nil]
    exact ⟨fun _ => hspent.vain hlatch, hspent.last⟩
  | waiting _ hlatch =>
    rw [List.append_nil]
    exact ⟨fun _ => hspent.vain hlatch, hspent.last⟩
  | answered _ hlatch => exact ⟨nofun, hspent.snoc hlatch _⟩
  | @failed p m cause _ hlatch =>
    refine ⟨fun hnone => ?_, hspent.snoc hlatch _⟩
    cases hrescore : monitor.settings.scoring.rescoreOnFailure with
    | false => simp [FlowState.unanswered, hrescore] at hnone
    | true =>
      refine List.forall_mem_append.mpr ⟨hspent.vain hlatch, List.forall_mem_singleton.mpr ?_⟩
      exact Exchange.not_settles_iff.mpr ⟨⟨cause, rfl⟩, hrescore⟩

lemma Path.spent (path : Path monitor flow hs s) :
    Spent monitor.settings s (hs.flatMap (·.exchanges)) := by
  induction path with
  | opened => exact ⟨by simp, by simp⟩
  | next _ _ _ _ _ now hheard ih => exact hheard.spent ⟨ih.vain, ih.last⟩

lemma not_settles_of_mem_dropLast (monitor : Monitor σ) (x : σ) (flow : FlowId)
    (events : List Event) :
    ∀ e ∈ (monitor.stay x flow events).exchanges.dropLast, ¬e.Settles monitor.settings := by
  obtain ⟨hs, s, es, path, hparting, hexch⟩ := monitor.exists_path_of_stay x flow events
  rw [hexch]
  cases hparting with
  | silent => simpa using path.spent.last
  | asked _ hlatch => exact path.spent.snoc hlatch _

theorem stay_frugal (monitor : Monitor σ) (x : σ) (flow : FlowId) (events : List Event) :
    (monitor.stay x flow events).Frugal monitor.settings := by
  have hlast := not_settles_of_mem_dropLast monitor x flow events
  generalize monitor.stay x flow events = stay at hlast
  have hvain : ∀ e ∈ stay.exchanges.dropLast,
      e.Failed ∧ monitor.settings.scoring.rescoreOnFailure = true :=
    fun e he => Exchange.not_settles_iff.mp (hlast e he)
  refine ⟨countP_le_one fun e he => by simp [(hvain e he).1], hvain, fun hrescore => ?_⟩
  rw [← List.countP_true]
  refine countP_le_one fun e he => ?_
  cases hrescore.symm.trans (hvain e he).2

/-! ### Credits -/

/-- Whatever is settled, it costs one credit at most. -/
lemma countP_singleton_le {α : Type} (p : α → Bool) (a : α) : [a].countP p ≤ 1 :=
  List.countP_le_length

lemma credit_of_unlatched (h : s.latched = none) : [s].countP (·.unsettled) = 1 := by
  simp [FlowState.unsettled, h]

lemma credit_of_latched {v : Verdict} (h : s.latched = some v) :
    [s].countP (·.unsettled) = 0 := by
  simp [FlowState.unsettled, h]

/-- A hearing uses up no more than the flow's credit. -/
lemma Heard.spends (hheard : Heard monitor s h s') :
    h.exchanges.countP (·.Settles monitor.settings) + [s'].countP (·.unsettled) ≤
      [s].countP (·.unsettled) := by
  cases hheard with
  | settled => simp
  | payload _ hlatch =>
    rw [credit_of_unlatched hlatch, List.countP_nil, Nat.zero_add]
    exact countP_singleton_le _ _
  | waiting _ hlatch =>
    rw [credit_of_unlatched hlatch, List.countP_nil, Nat.zero_add]
    exact countP_singleton_le _ _
  | answered _ hlatch =>
    rw [credit_of_unlatched hlatch, credit_of_latched rfl, Nat.add_zero]
    exact countP_singleton_le _ _
  | @failed p m cause _ hlatch =>
    rw [credit_of_unlatched hlatch]
    cases hrescore : monitor.settings.scoring.rescoreOnFailure with
    | true =>
      -- The question had a second chance, so it takes no credit.
      have hvain : ¬Exchange.Settles monitor.settings
          ⟨m.name, m.window.flatten (m.window.collect s p).window, .error cause⟩ :=
        Exchange.not_settles_iff.mpr ⟨⟨cause, rfl⟩, hrescore⟩
      rw [List.countP_cons_of_neg (by simpa using hvain), List.countP_nil, Nat.zero_add]
      exact countP_singleton_le _ _
    | false =>
      rw [credit_of_latched (v := .pass) rfl]
      exact countP_singleton_le _ _

lemma Parting.spends {es : List Exchange} (hparting : Parting monitor s es) :
    es.countP (·.Settles monitor.settings) ≤ [s].countP (·.unsettled) := by
  cases hparting with
  | silent => simp
  | asked _ hlatch =>
    rw [credit_of_unlatched hlatch]
    exact countP_singleton_le _ _

/-- The credits that are spent in the course of an event, and those that are left in the table after
it, were there before or came with a flow. -/
def Thrifty (settings : Settings) (state : State σ) (es : List Exchange) (next : State σ) : Prop :=
  es.countP (·.Settles settings) + next.flows.count (·.unsettled) + state.tally.flowsCreated ≤
    state.flows.count (·.unsettled) + next.tally.flowsCreated

lemma process_thrifty (hs : state.flows.Live) (p : Packet) (now : Nat) :
    Thrifty monitor.settings state (monitor.exchanges state (.packet p now))
      (monitor.process state p now).2 := by
  cases hports : monitor.portVerdict? p with
  | some v =>
    have hframe := Tally.verdict_frame (state.tally.packet p.payload.length) v
    rw [Thrifty, exchanges_of_stopped hports, process_of_stopped hports, hframe]
    simp [Tally.packet]
  | none =>
    have hproc : Processed monitor state p now _ := processed hs hports now
    have hcreated := (admitted hs hports now).created_eq
    have hcount := hs.count_add hproc.live.toSound hproc.lookup_ne (·.unsettled)
    have hspends := (monitor.heard p (state.arrival p now) (state.counted p) state.scorer).spends
    have harrival : [state.arrival p now].countP (·.unsettled) =
        (state.flows.lookup p.flow).toList.countP (·.unsettled) +
          if (state.flows.lookup p.flow).isNone then 1 else 0 := by
      unfold State.arrival
      cases state.flows.lookup p.flow <;> rfl
    have hleft : ((monitor.process state p now).2.flows.lookup p.flow).toList.countP
        (·.unsettled) ≤ [(monitor.judgement state p now).flow].countP (·.unsettled) := by
      rw [hproc.lookup_self]
      split
      · exact Nat.zero_le _
      · exact Nat.le_refl _
    rw [Thrifty, exchanges_of_packet hs hports]
    rw [judgement] at hleft
    dsimp only at hspends
    omega

lemma close_thrifty (hs : state.flows.Live) (flow : FlowId) :
    Thrifty monitor.settings state (monitor.exchanges state (.close flow))
      (monitor.close state flow).2 := by
  cases hlook : state.flows.lookup flow with
  | none =>
    rw [Thrifty, exchanges_of_absent hlook, close_of_absent hlook]
    simp
  | some s =>
    have hclosed : Closed monitor state flow s (monitor.close state flow) := closed hs hlook
    have hcreated : (monitor.close state flow).2.tally.flowsCreated = state.tally.flowsCreated := by
      rw [hclosed.tally_eq, lastVerdict_tally]
      rfl
    have hne : ∀ k, k ≠ flow →
        (monitor.close state flow).2.flows.lookup k = state.flows.lookup k :=
      fun k hk => (hclosed.lookup_eq k).trans (if_neg hk)
    have hcount := hs.count_add hclosed.live.toSound hne (·.unsettled)
    have hspends := (monitor.parting s state.scorer).spends
    rw [hlook, (hclosed.lookup_eq flow).trans (if_pos rfl)] at hcount
    rw [Thrifty, exchanges_of_close hs hlook, hcreated]
    simp only [Option.toList_some, Option.toList_none, List.countP_nil] at hcount
    omega

/-- No event spends credits that are not there. -/
theorem respond_thrifty (hs : state.flows.Live) (event : Event) :
    Thrifty monitor.settings state (monitor.exchanges state event)
      (monitor.respond state event).2 := by
  cases event with
  | packet p now => exact process_thrifty hs p now
  | close flow => exact close_thrifty hs flow
  | sweep now =>
    have hle := state.flows.count_sweep_le (·.isIdle monitor.settings.flows.idleTimeout now) []
      (·.unsettled)
    rw [Thrifty, exchanges_of_sweep, List.countP_nil, Nat.zero_add]
    exact Nat.add_le_add_right hle _

/-- The questions that settled a flow and the flows in the table that are not settled are no more
than the flows that came. -/
theorem settling_le_created (monitor : Monitor σ) (x : σ) (events : List Event) :
    (monitor.log x events).countP (·.Settles monitor.settings) +
        (monitor.after x events).flows.count (·.unsettled) ≤
      (monitor.after x events).tally.flowsCreated := by
  induction events using List.reverseRecOn with
  | nil => exact Nat.le_refl 0
  | append_singleton events event ih =>
    have hthrifty : Thrifty monitor.settings (monitor.after x events) _ _ :=
      respond_thrifty (after_live x events) event
    rw [log_snoc, after_snoc, List.countP_append]
    unfold Thrifty at hthrifty
    omega

/-- **The budget**: in every run, whatever the settings and the scorer, the questions of a stay
bring at most one answer, all but the last of them failed with a second chance, and no event asks
for a flow that is settled. So there are no more questions than failures and flows created, and
without a second chance no more than flows created. -/
theorem questions_keep_to_budget (monitor : Monitor σ) (x : σ) (events : List Event) :
    let state := monitor.after x events
    (∀ flow, (monitor.stay x flow events).Frugal monitor.settings) ∧
    (∀ flow s v event, state.flows.lookup flow = some s → s.latched = some v →
      (monitor.stay x flow (events ++ [event])).exchanges =
        (monitor.stay x flow events).exchanges) ∧
    state.tally.scorerCalls ≤ state.tally.scorerFailures + state.tally.flowsCreated ∧
    (monitor.settings.scoring.rescoreOnFailure = false →
      state.tally.scorerCalls ≤ state.tally.flowsCreated) := by
  intro state
  have hsettling := settling_le_created monitor x events
  have hcalls : state.tally.scorerCalls = (monitor.log x events).length :=
    scorerCalls_eq monitor x events
  have hfailures : state.tally.scorerFailures = (monitor.log x events).countP (·.Failed) :=
    scorerFailures_eq monitor x events
  refine ⟨fun flow => stay_frugal monitor x flow events, fun flow s v event hlook hlatch => ?_, ?_,
    fun hrescore => ?_⟩
  · rw [stay_snoc]
    exact exchanges_proceed_of_latched (after_live x events)
      (fun _ hp => portVerdict?_of_lookup hlook hp) hlook hlatch (path_of_lookup hlook).2.2.1
  -- A question that was answered has settled its flow, and no flow is settled twice.
  · have hanswered : (monitor.log x events).countP (fun e => ¬e.Failed) ≤
        (monitor.log x events).countP (·.Settles monitor.settings) :=
      List.countP_mono_left fun e _ h =>
        decide_eq_true (Exchange.settles_of_not_failed (of_decide_eq_true h))
    calc state.tally.scorerCalls
        = (monitor.log x events).countP (·.Failed) +
            (monitor.log x events).countP (fun e => ¬e.Failed) := by
          rw [hcalls, List.length_eq_countP_add_countP (·.Failed)]
          simp
      _ ≤ state.tally.scorerFailures + state.tally.flowsCreated := by
          rw [hfailures]
          exact Nat.add_le_add_left
            (Nat.le_trans hanswered (Nat.le_of_add_right_le hsettling)) _
  · have hall : (monitor.log x events).countP (·.Settles monitor.settings) =
        (monitor.log x events).length :=
      List.countP_eq_length.mpr fun e _ => decide_eq_true fun _ => hrescore
    rw [hcalls, ← hall]
    exact Nat.le_of_add_right_le hsettling

end Monitor

end FlowVerdict
