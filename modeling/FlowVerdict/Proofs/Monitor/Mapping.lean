import FlowVerdict.Proofs.Monitor.Stay

/-!
A monitor at work on flows that are seen through a function. A function that leaves alone what
judging reads and changes goes through a judgement, and with it through an event: the monitor on the
changed flows does what it does on the flows themselves, and what it leaves is changed alike.

The packet may be another one as well, as long as the monitor does not tell the two apart.
-/

namespace FlowVerdict

namespace FlowState

/-- The function leaves alone what judging reads and changes in a flow, and the mark. -/
structure Spares (f : FlowState → FlowState) : Prop where
  judged : ∀ s window windowsScored latched,
    f (s.judged window windowsScored latched) = (f s).judged window windowsScored latched
  markEvicted : ∀ s, f s.markEvicted = (f s).markEvicted
  evicted_eq : ∀ s, (f s).evicted = s.evicted

lemma spares_id : Spares id := ⟨fun _ _ _ _ => rfl, fun _ => rfl, fun _ => rfl⟩

namespace Spares

variable {f : FlowState → FlowState}

lemma eq_judged (hf : Spares f) (s : FlowState) :
    f s = (f s).judged s.window s.windowsScored s.latched :=
  hf.judged s s.window s.windowsScored s.latched

lemma window_eq (hf : Spares f) (s : FlowState) : (f s).window = s.window := by
  rw [hf.eq_judged s]
  rfl

lemma scored_eq (hf : Spares f) (s : FlowState) : (f s).windowsScored = s.windowsScored := by
  rw [hf.eq_judged s]
  rfl

lemma latched_eq (hf : Spares f) (s : FlowState) : (f s).latched = s.latched := by
  rw [hf.eq_judged s]
  rfl

lemma answered (hf : Spares f) (s : FlowState) (v : Verdict) :
    f (s.answered v) = (f s).answered v := by
  have h : f (s.answered v) = (f s).judged .empty (s.windowsScored + 1) (some v) :=
    hf.judged s _ _ _
  rw [h, ← hf.scored_eq s]
  rfl

lemma unanswered (hf : Spares f) (s : FlowState) (rescore : Bool) :
    f (s.unanswered rescore) = (f s).unanswered rescore := by
  cases rescore with
  | false =>
    have h : f (s.unanswered false) = (f s).judged s.window (s.windowsScored + 1) (some .pass) :=
      hf.judged s _ _ _
    rw [h, ← hf.scored_eq s, ← hf.window_eq s]
    rfl
  | true =>
    have h : f (s.unanswered true) = (f s).judged .empty (s.windowsScored + 1) s.latched :=
      hf.judged s _ _ _
    rw [h, ← hf.scored_eq s, ← hf.latched_eq s]
    rfl

lemma latch (hf : Spares f) (s : FlowState) (v : Verdict) :
    (f s).latch v = ((s.latch v).1, f (s.latch v).2) := by
  unfold FlowState.latch
  rw [hf.latched_eq]
  cases s.latched with
  | some earlier => rfl
  | none =>
    have h : f { s with latched := some v } = (f s).judged s.window s.windowsScored (some v) :=
      hf.judged s _ _ _
    rw [h, ← hf.window_eq s, ← hf.scored_eq s]
    rfl

end Spares

end FlowState

def Judgement.mapFlow {σ : Type} (f : FlowState → FlowState) (j : Judgement σ) : Judgement σ :=
  { j with flow := f j.flow }

namespace Monitor

variable {σ : Type} {monitor : Monitor σ} {f : FlowState → FlowState} {p q : Packet}

def State.mapFlows (f : FlowState → FlowState) (state : State σ) : State σ :=
  { state with flows := state.flows.mapStates f }

@[simp] lemma State.mapFlows_id (state : State σ) : state.mapFlows id = state := by
  rw [State.mapFlows, FlowTable.mapStates_id]

/-- Two packets of a flow that the monitor does not tell apart, their directions aside. -/
structure Equates (monitor : Monitor σ) (p q : Packet) : Prop where
  flow_eq : q.flow = p.flow
  length_eq : q.payload.length = p.payload.length
  teardown_eq : q.isTeardown = p.isTeardown
  row_eq : ∀ m, monitor.classifier = .model m → ∀ d, m.window.row q d = m.window.row p d
  verdict_eq : ∀ g, monitor.classifier = .fingerprint g →
    monitor.payloadVerdict g q = monitor.payloadVerdict g p

lemma Equates.refl (monitor : Monitor σ) (p : Packet) : monitor.Equates p p :=
  ⟨rfl, rfl, rfl, fun _ _ _ => rfl, fun _ _ => rfl⟩

lemma Equates.isLast_eq (h : monitor.Equates p q) (v : Verdict) :
    monitor.isLast q v = monitor.isLast p v := by
  simp only [isLast, h.teardown_eq]

/-! ### Judgements -/

lemma score_mapFlow (monitor : Monitor σ) (hf : FlowState.Spares f) (m : ModelClassifier σ)
    {s : FlowState} (hlatch : s.latched = none) (tally : Tally) (x : σ) :
    monitor.score m (f s) tally x = (monitor.score m s tally x).mapFlow f := by
  have hlatch' : (f s).latched = none := (hf.latched_eq s).trans hlatch
  cases hanswer : (m.scorer.score x m.name (m.window.flatten s.window)).1 with
  | ok probabilities =>
    have hanswer' := hanswer
    rw [← hf.window_eq s] at hanswer'
    rw [score_of_ok hlatch hanswer, score_of_ok hlatch' hanswer', ← hf.answered, hf.window_eq]
    rfl
  | error cause =>
    have hanswer' := hanswer
    rw [← hf.window_eq s] at hanswer'
    rw [score_of_error hlatch hanswer, score_of_error hlatch' hanswer', ← hf.unanswered,
      hf.window_eq]
    rfl

/-- **A judgement goes through the function** if the packet keeps its direction. -/
theorem judge_mapFlow (hf : FlowState.Spares f) (h : monitor.Equates p q) {s : FlowState}
    (hdirection : (f s).directionOf q = s.directionOf p) (tally : Tally) (x : σ) :
    monitor.judge q (f s) tally x = (monitor.judge p s tally x).mapFlow f := by
  cases hlatch : s.latched with
  | some v =>
    have hlatch' : (f s).latched = some v := (hf.latched_eq s).trans hlatch
    rw [judge_of_latched hlatch, judge_of_latched hlatch']
    rfl
  | none =>
    have hlatch' : (f s).latched = none := (hf.latched_eq s).trans hlatch
    cases hc : monitor.classifier with
    | fingerprint g =>
      rw [judge_of_fingerprint hc hlatch, judge_of_fingerprint hc hlatch']
      simp only [judgeByFingerprint, h.verdict_eq g hc, hf.latch, Judgement.mapFlow]
      split <;> rfl
    | model m =>
      -- The packet leaves the same row, so the two windows fill, and the scorer is asked, at once.
      have hpush : m.window.pushPacket (f s).window q ((f s).directionOf q) =
          m.window.pushPacket s.window p (s.directionOf p) := by
        rw [WindowShape.pushPacket, hf.window_eq, hdirection, h.row_eq m hc,
          WindowShape.pushPacket]
      have hcollect : m.window.collect (f s) q = f (m.window.collect s p) := by
        have hkept : f (m.window.collect s p) = (f s).judged
          (m.window.pushPacket s.window p (s.directionOf p)).2 s.windowsScored s.latched :=
          hf.judged s _ _ _
        rw [hkept, ← hpush, ← hf.scored_eq s, ← hf.latched_eq s]
        rfl
      have hfills : m.window.fills (f s) q = m.window.fills s p := congrArg Prod.fst hpush
      have hask : monitor.settings.asks m.window (f s) q = monitor.settings.asks m.window s p := by
        rw [Settings.asks, hfills, hcollect, h.teardown_eq, Settings.asksEarly, hf.window_eq]
        rfl
      have hcollected : (m.window.collect s p).latched = none := hlatch
      rw [judge_of_model hc hlatch, judge_of_model hc hlatch', hask, hcollect,
        score_mapFlow monitor hf m hcollected]
      split <;> rfl

lemma lastVerdict_mapFlows (hf : FlowState.Spares f) (state : State σ) (s : FlowState) :
    monitor.lastVerdict (state.mapFlows f) (f s) =
      ((monitor.lastVerdict state s).1, (monitor.lastVerdict state s).2.mapFlows f) := by
  cases hlatch : s.latched with
  | some v =>
    have hlatch' : (f s).latched = some v := (hf.latched_eq s).trans hlatch
    rw [lastVerdict_of_latched hlatch, lastVerdict_of_latched hlatch']
  | none =>
    have hlatch' : (f s).latched = none := (hf.latched_eq s).trans hlatch
    cases hc : monitor.classifier with
    | fingerprint g =>
      rw [lastVerdict_of_fingerprint hc hlatch, lastVerdict_of_fingerprint hc hlatch']
    | model m =>
      have hsame : monitor.settings.asksEarly (f s) = monitor.settings.asksEarly s := by
        simp only [Settings.asksEarly, hf.window_eq]
      cases hask : monitor.settings.asksEarly s with
      | false =>
        rw [lastVerdict_of_silent hc hlatch hask,
          lastVerdict_of_silent hc hlatch' (hsame.trans hask)]
      | true =>
        have hscore := score_mapFlow monitor hf m hlatch state.tally state.scorer
        rw [lastVerdict_of_asking hc hlatch hask,
          lastVerdict_of_asking hc hlatch' (hsame.trans hask)]
        simp only [State.mapFlows, hscore, Judgement.mapFlow]

/-! ### The table -/

lemma enter_mapFlows (h : monitor.Equates p q) {now later : Nat}
    (hfresh : f (.fresh p.flow p.source now) = .fresh p.flow q.source later) (state : State σ) :
    (state.mapFlows f).enter q later =
      ({ (state.enter p now).1 with state := f (state.enter p now).1.state },
        (state.enter p now).2.mapFlows f) := by
  have htable := state.flows.getOrCreate_mapStates f p.flow (.fresh p.flow p.source now)
  rw [hfresh] at htable
  simp only [State.enter, State.mapFlows, h.flow_eq, htable]

lemma conclude_mapFlows (state : State σ) (ticket : Ticket) (j : Judgement σ) :
    (state.mapFlows f).conclude ticket (j.mapFlow f) = (state.conclude ticket j).mapFlows f := by
  have hmodify : (state.flows.mapStates f).modify ticket (fun _ => f j.flow) =
      (state.flows.modify ticket fun _ => j.flow).mapStates f :=
    state.flows.modify_mapStates f (fun _ => j.flow) _ (fun _ => rfl) ticket
  simp only [State.conclude, State.mapFlows, Judgement.mapFlow, hmodify]

lemma forget_mapFlows (state : State σ) (flow : FlowId) (ticket : Ticket) :
    (state.mapFlows f).forget flow ticket = (state.forget flow ticket).mapFlows f := by
  simp only [State.forget, State.mapFlows, FlowTable.removeTicket_mapStates]
  generalize state.flows.removeTicket flow ticket = r
  obtain ⟨gone, flows⟩ := r
  cases gone <;> rfl

lemma evict_mapFlows (hf : FlowState.Spares f) (state : State σ) (flow : FlowId)
    (ticket : Ticket) :
    (state.mapFlows f).evict flow ticket = (state.evict flow ticket).mapFlows f := by
  have hmarked : (state.flows.mapStates f).modify ticket FlowState.markEvicted =
      (state.flows.modify ticket FlowState.markEvicted).mapStates f :=
    state.flows.modify_mapStates f _ _ (fun s => (hf.markEvicted s).symm) ticket
  have hforget := forget_mapFlows (f := f)
    { state with flows := state.flows.modify ticket FlowState.markEvicted } flow ticket
  rw [State.evict, State.evict, ← hforget]
  simp only [State.mapFlows, hmarked]

lemma meet_mapFlows (hf : FlowState.Spares f) (h : monitor.Equates p q) {now later : Nat}
    (hfresh : f (.fresh p.flow p.source now) = .fresh p.flow q.source later) (state : State σ) :
    (state.mapFlows f).meet q later =
      ({ (state.meet p now).1 with state := f (state.meet p now).1.state },
        (state.meet p now).2.mapFlows f) := by
  induction state using State.looks with
  | marked state marked ih =>
    have henter := enter_mapFlows h hfresh state
    have hmarked : ((state.mapFlows f).enter q later).1.state.evicted = true := by
      rw [henter]
      exact (hf.evicted_eq _).trans marked
    rw [State.meet_of_marked hmarked, State.meet_of_marked marked, henter, h.flow_eq,
      forget_mapFlows]
    exact ih
  | unmarked state unmarked =>
    have henter := enter_mapFlows h hfresh state
    have hunmarked : ((state.mapFlows f).enter q later).1.state.evicted = false := by
      rw [henter]
      exact (hf.evicted_eq _).trans unmarked
    rw [State.meet_of_unmarked hunmarked, State.meet_of_unmarked unmarked, henter]

/-! ### Events -/

lemma observe_mapFlows (hf : FlowState.Spares f) (h : monitor.Equates p q) {now later : Nat}
    (hfresh : f (.fresh p.flow p.source now) = .fresh p.flow q.source later)
    (hrecord : ∀ s, f (s.record p now) = (f s).record q later) (state : State σ)
    (hdirection : (f (state.meet p now).1.state).directionOf q =
      (state.meet p now).1.state.directionOf p) :
    monitor.observe (state.mapFlows f) q later =
      ((monitor.observe state p now).1, (monitor.observe state p now).2.mapFlows f) := by
  have hmeet := meet_mapFlows hf h hfresh state
  generalize hr : state.meet p now = r at hdirection hmeet
  obtain ⟨entry, met⟩ := r
  have hdirection' : (f (entry.state.record p now)).directionOf q =
      (entry.state.record p now).directionOf p := by
    rw [hrecord]
    exact hdirection
  have hjudge := judge_mapFlow hf h hdirection' met.tally met.scorer
  rw [hrecord] at hjudge
  simp only [observe, hmeet, hr, h.flow_eq]
  generalize monitor.judge p (entry.state.record p now) met.tally met.scorer = j at hjudge ⊢
  have hjudge' : monitor.judge q ((f entry.state).record q later)
      (met.mapFlows f).tally (met.mapFlows f).scorer = j.mapFlow f := hjudge
  have hlast : monitor.isLast q (j.mapFlow f).verdict = monitor.isLast p j.verdict :=
    h.isLast_eq j.verdict
  rw [hjudge', hlast, conclude_mapFlows, evict_mapFlows hf]
  split <;> rfl

/-- **A packet goes through the function**, if a new flow does and the packet keeps its
direction. -/
theorem process_mapFlows (hf : FlowState.Spares f) (h : monitor.Equates p q) {now later : Nat}
    (hfresh : f (.fresh p.flow p.source now) = .fresh p.flow q.source later)
    (hrecord : ∀ s, f (s.record p now) = (f s).record q later) (state : State σ)
    (hdirection : ∀ tally, (f (State.meet { state with tally } p now).1.state).directionOf q =
      (State.meet { state with tally } p now).1.state.directionOf p) :
    monitor.process (state.mapFlows f) q later =
      ((monitor.process state p now).1, (monitor.process state p now).2.mapFlows f) := by
  have hobserve := observe_mapFlows hf h hfresh hrecord
    { state with tally := state.tally.packet p.payload.length } (hdirection _)
  simp only [process, monitor.portVerdict?_eq_of_flow_eq h.flow_eq, h.length_eq]
  cases monitor.portVerdict? p with
  | some v => rfl
  | none => exact congrArg (fun r : Verdict × State σ =>
      (r.1, { r.2 with tally := r.2.tally.verdict r.1 })) hobserve

lemma Equates.process_eq (h : monitor.Equates p q) (hsource : q.source = p.source) (state : State σ)
    (now : Nat) : monitor.process state q now = monitor.process state p now := by
  have hrecord : ∀ s : FlowState, s.record p now = s.record q now := fun s => by
    simp only [FlowState.record, h.length_eq]
  have hdirection : ∀ s : FlowState, s.directionOf q = s.directionOf p := fun s => by
    simp only [FlowState.directionOf, Packet.directionFrom, hsource]
  have hprocess := process_mapFlows (f := id) FlowState.spares_id h (hsource ▸ rfl) hrecord
    state fun _ => hdirection _
  rwa [State.mapFlows_id, State.mapFlows_id] at hprocess

theorem close_mapFlows (hf : FlowState.Spares f) (state : State σ) (flow : FlowId) :
    monitor.close (state.mapFlows f) flow =
      ((monitor.close state flow).1, (monitor.close state flow).2.mapFlows f) := by
  have hfind := state.flows.find?_mapStates f flow
  have hfind' : (state.mapFlows f).flows.find? flow = _ := hfind
  unfold close
  rw [hfind']
  cases state.flows.find? flow with
  | none => rfl
  | some e =>
    simp only [Option.map_some, hf.evicted_eq, lastVerdict_mapFlows hf, evict_mapFlows hf]
    split <;> rfl

end Monitor

end FlowVerdict
