import FlowVerdict.Proofs.Monitor.Conservation
import FlowVerdict.Proofs.Monitor.Questions

/-!
How flows come into the table and how they leave it.

A packet that its ports let pass brings its flow into the table unless it is there. It takes the
flow out again if it is answered by a reset, or if it closes the connection, closed connections
leave the table, and the packet is not dropped: a segment that is dropped never arrives, and its
retransmissions still find the settled verdict. The host's end of a flow takes it out in any case.
No other flow is touched.
-/

namespace FlowVerdict

/-- The verdict that a question comes to. Without an answer the flow passes. -/
def Exchange.verdict (rules : Rules) (e : Exchange) : Verdict :=
  match e.answer with
  | .ok probabilities => rules.verdict probabilities
  | .error _ => .pass

/-- The ports of a packet, if it has any, let it pass. -/
def Settings.Admits (settings : Settings) (p : Packet) : Prop :=
  p.transport.hasPorts = true → settings.ports.verdict? p.source.port p.target.port = none

namespace Monitor

variable {σ : Type} {monitor : Monitor σ} {state : State σ} {flow : FlowId} {s : FlowState}

lemma portVerdict?_eq_none_iff {p : Packet} :
    monitor.portVerdict? p = none ↔ monitor.settings.Admits p := by
  simp [portVerdict?, Settings.Admits]

/-! ### Packets -/

/-- The last packet of a flow is answered by a reset, or closes the connection and is not
dropped. -/
lemma isLast_iff {p : Packet} {v : Verdict} : monitor.isLast p v = true ↔
    v = .reset ∨ p.isTeardown = true ∧ monitor.settings.flows.evictOnClose = true ∧ v ≠ .drop := by
  simp [isLast, and_assoc]

lemma judge_counts_no_flow (monitor : Monitor σ) (p : Packet) (s : FlowState) (tally : Tally)
    (x : σ) : (monitor.judge p s tally x).tally.flowsCreated = tally.flowsCreated ∧
      (monitor.judge p s tally x).tally.flowsEvicted = tally.flowsEvicted := by
  rw [judge_tally]
  split <;> exact ⟨rfl, rfl⟩

lemma counted_counts (state : State σ) (p : Packet) :
    (state.counted p).flowsCreated =
      state.tally.flowsCreated + (if (state.flows.lookup p.flow).isNone then 1 else 0) ∧
    (state.counted p).flowsEvicted = state.tally.flowsEvicted := by
  unfold State.counted
  split <;> exact ⟨rfl, rfl⟩

/-- What a packet that its ports let pass does to the flows in the table, `r` being the verdict and
the state after it. A flow that comes and goes with one packet is counted once as created and once
as evicted. -/
structure Admitted (settings : Settings) (state : State σ) (p : Packet) (now : Nat)
    (r : Verdict × State σ) : Prop where
  created_eq : r.2.tally.flowsCreated =
    state.tally.flowsCreated + if (state.flows.lookup p.flow).isNone then 1 else 0
  evicted_eq : r.2.tally.flowsEvicted =
    state.tally.flowsEvicted + if (r.2.flows.lookup p.flow).isNone then 1 else 0
  lookup_eq_none_iff : r.2.flows.lookup p.flow = none ↔
    r.1 = .reset ∨ p.isTeardown = true ∧ settings.flows.evictOnClose = true ∧ r.1 ≠ .drop
  /-- The flow is the one that was there, or else a new one, with the packet counted. -/
  flow_eq : ∀ t, r.2.flows.lookup p.flow = some t → t = { state.arrival p now with
    window := t.window, windowsScored := t.windowsScored, latched := t.latched }
  lookup_ne : ∀ k, k ≠ p.flow → r.2.flows.lookup k = state.flows.lookup k

lemma Processed.lookup_isNone {p : Packet} {now : Nat} {r : Verdict × State σ}
    (h : Processed monitor state p now r) :
    (r.2.flows.lookup p.flow).isNone = monitor.isLast p r.1 := by
  rw [h.lookup_self]
  split
  · next hlast => simp [hlast]
  · next hlast => simpa using hlast

theorem admitted (hs : state.flows.Live) {p : Packet} (h : monitor.portVerdict? p = none)
    (now : Nat) : Admitted monitor.settings state p now (monitor.process state p now) := by
  have hproc := processed hs h now
  generalize monitor.process state p now = r at hproc ⊢
  obtain ⟨hcreated, hevicted⟩ := counted_counts state p
  obtain ⟨hcreated', hevicted'⟩ :=
    judge_counts_no_flow monitor p (state.arrival p now) (state.counted p) state.scorer
  refine ⟨?_, ?_, ?_, ?_, hproc.lookup_ne⟩
  · rw [hproc.tally_eq, Tally.verdict_frame, ← hcreated, ← hcreated']
    split <;> rfl
  · rw [hproc.tally_eq, Tally.verdict_frame, ← hevicted, ← hevicted', hproc.lookup_isNone]
    split <;> rfl
  · rw [← Option.isNone_iff_eq_none, hproc.lookup_isNone]
    exact isLast_iff
  · intro t ht
    rw [hproc.lookup_self] at ht
    split at ht
    · cases ht
    · obtain rfl := Option.some.inj ht
      exact (monitor.heard p (state.arrival p now) (state.counted p) state.scorer).frame

/-! ### The host's end of a flow -/

/-- What the host's end of a flow comes to, and what is asked for it. -/
inductive Ending (monitor : Monitor σ) (s : FlowState) (x : σ) :
    Option Verdict → List Exchange → Prop
  /-- The flow is settled. -/
  | settled {v : Verdict} (latched : s.latched = some v) : Ending monitor s x (some v) []
  /-- The packets that wait in the window are asked about, padded to a full window. -/
  | scored {m : ModelClassifier σ} {packets : List Packet} {e : Exchange}
    (latched : s.latched = none) (classifier : monitor.classifier = .model m)
    (partially : monitor.settings.window.scorePartialOnClose = true) (nonempty : packets ≠ [])
    (waiting : m.window.Holds s packets) (asks : Asks m.name m.window s.opener packets e)
    (answer : e.answer = (m.scorer.score x e.model e.features).1) :
    Ending monitor s x (some (e.verdict m.rules)) [e]
  /-- There is nothing to ask about, or it is not to be asked. -/
  | silent (latched : s.latched = none)
    (quiet : ∀ m, monitor.classifier = .model m →
      monitor.settings.window.scorePartialOnClose = true → s.window.length = 0) :
    Ending monitor s x none []

lemma score_verdict (m : ModelClassifier σ) (hlatch : s.latched = none) (tally : Tally) (x : σ) :
    (monitor.score m s tally x).verdict = (m.exchange s x).verdict m.rules := by
  unfold Exchange.verdict ModelClassifier.exchange
  cases hanswer : (m.scorer.score x m.name (m.window.flatten s.window)).1 with
  | ok probabilities => rw [score_of_ok hlatch hanswer]
  | error cause => rw [score_of_error hlatch hanswer]

lemma Path.ending {hs : List Hearing} (path : Path monitor flow hs s)
    (hsize : ∀ m, monitor.classifier = .model m → m.window.size ≠ 0) (state : State σ) :
    Ending monitor s state.scorer (monitor.lastVerdict state s).1
      (monitor.askedLast s state.scorer) := by
  unfold askedLast
  cases hlatch : s.latched with
  | some v =>
    rw [lastVerdict_of_latched hlatch]
    exact .settled hlatch
  | none =>
    cases hc : monitor.classifier with
    | fingerprint f =>
      rw [lastVerdict_of_fingerprint hc hlatch]
      exact .silent hlatch fun m hm => by cases hc.symm.trans hm
    | model m =>
      cases hask : monitor.settings.asksEarly s with
      | false =>
        rw [lastVerdict_of_silent hc hlatch hask]
        refine .silent hlatch fun _ _ hpartial => Classical.not_not.mp fun hrows => ?_
        exact absurd (Settings.asksEarly_iff.mpr ⟨hpartial, hrows⟩) (by simp [hask])
      | true =>
        obtain ⟨batches, rest, -, hb⟩ := path.batched hc (hsize m hc)
        obtain ⟨hpartial, hrows⟩ := Settings.asksEarly_iff.mp hask
        have hholds := hb.holds hlatch
        rw [lastVerdict_of_asking hc hlatch hask, score_verdict m hlatch]
        refine .scored hlatch hc hpartial ?_ hholds
          ⟨rfl, hholds.flatten_eq, m.window.length_flatten _⟩ rfl
        intro hnil
        rw [hholds.length_window, hnil] at hrows
        exact hrows rfl

/-! ### Reachable states -/

lemma lookup_respond_eq_or (hs : state.flows.Live) (event : Event) (k : FlowId) :
    (monitor.respond state event).2.flows.lookup k = state.flows.lookup k ∨
      (∃ p now, event = .packet p now ∧ p.flow = k ∧ monitor.settings.Admits p) ∨
      event = .close k ∨ ∃ now, event = .sweep now := by
  cases event with
  | packet p now =>
    cases hports : monitor.portVerdict? p with
    | some v =>
      refine .inl ?_
      simp only [respond, process_of_stopped hports]
    | none =>
      by_cases hk : k = p.flow
      · exact .inr (.inl ⟨p, now, rfl, hk.symm, portVerdict?_eq_none_iff.mp hports⟩)
      · exact .inl (lookup_process_of_ne hs hk now)
  | close flow =>
    by_cases hk : k = flow
    · exact .inr (.inr (.inl (by rw [hk])))
    · exact .inl (lookup_close_of_ne hs hk)
  | sweep now => exact .inr (.inr (.inr ⟨now, rfl⟩))

/-- **Flows come and go**: in every run of accepted settings, a packet that its ports let pass
creates its flow exactly if the flow is not in the table, and evicts it exactly if the verdict is a
reset, or the packet closes the connection and is not dropped, closed connections being evicted. The
host's end of a flow evicts it and comes to its settled verdict, or else to the verdict on the rows
that wait, or else to none; if the flow is not in the table, nothing happens. Apart from sweeps
nothing else changes what the table holds of a flow. -/
theorem flows_come_and_go {settings : Settings} {scorer? : Option (Scorer σ)}
    (haccepted : assemble settings scorer? = .ok monitor) (x : σ) (events : List Event) :
    let state := monitor.after x events
    (∀ p now, settings.Admits p →
      Admitted settings state p now (monitor.process state p now)) ∧
    (∀ flow s, state.flows.lookup flow = some s →
      Ending monitor s state.scorer (monitor.close state flow).1
        (monitor.exchanges state (.close flow)) ∧
      (monitor.close state flow).2.tally.flowsEvicted = state.tally.flowsEvicted + 1 ∧
      ∀ k, (monitor.close state flow).2.flows.lookup k =
        if k = flow then none else state.flows.lookup k) ∧
    (∀ flow, state.flows.lookup flow = none → monitor.close state flow = (none, state)) ∧
    ∀ event k, (monitor.respond state event).2.flows.lookup k = state.flows.lookup k ∨
      (∃ p now, event = .packet p now ∧ p.flow = k ∧ settings.Admits p) ∨
      event = .close k ∨ ∃ now, event = .sweep now := by
  intro state
  have hs : state.flows.Live := after_live x events
  obtain rfl := settings_of_assemble haccepted
  refine ⟨fun p now hports => admitted hs (portVerdict?_eq_none_iff.mpr hports) now,
    fun flow s hlook => ?_, fun flow => close_of_absent, lookup_respond_eq_or hs⟩
  have hclosed : Closed monitor state flow s (monitor.close state flow) := closed hs hlook
  have hending := (path_of_lookup hlook).1.ending
    (fun m hc => size_ne_zero_of_assemble haccepted hc) state
  rw [← hclosed.verdict_eq, ← exchanges_of_close hs hlook] at hending
  refine ⟨hending, ?_, hclosed.lookup_eq⟩
  rw [hclosed.tally_eq, lastVerdict_tally]
  rfl

open Sample in
/-- The end of a connection that is dropped leaves the flow in the table, where the host's end finds
the verdict. -/
theorem flows_come_and_go_dropped_fin :
    let state := Sample.monitor.after (.start ()) [.packet (packet 5) 3, .packet (packet 5) 4]
    let fin : Packet := { packet 5 with flags := ⟨TcpFlags.fin⟩ }
    Sample.settings.Admits fin ∧ fin.isTeardown = true ∧
    (Sample.monitor.process state fin 5).1 = .drop ∧
    Admitted Sample.settings state fin 5 (Sample.monitor.process state fin 5) ∧
    (Sample.monitor.process state fin 5).2.flows.lookup fin.flow ≠ none ∧
    (Sample.monitor.close state fin.flow).1 = some .drop ∧
    (Sample.monitor.close state fin.flow).2.flows.lookup fin.flow = none := by
  intro state fin
  have hports : Sample.settings.Admits fin := fun _ => by decide
  have hdrop : (Sample.monitor.process state fin 5).1 = .drop := by decide +kernel
  obtain ⟨hpackets, hclose, -⟩ := flows_come_and_go accepted (.start ())
    [.packet (packet 5) 3, .packet (packet 5) 4]
  have hadmitted := hpackets fin 5 hports
  have htracked : (state.flows.lookup fin.flow).isSome = true := by decide +kernel
  obtain ⟨s, hlook⟩ := Option.isSome_iff_exists.mp htracked
  refine ⟨hports, by decide, hdrop, hadmitted, ?_, by decide +kernel, ?_⟩
  · rw [Ne, hadmitted.lookup_eq_none_iff, hdrop]
    simp
  · rw [(hclose fin.flow s hlook).2.2, if_pos rfl]

end Monitor

end FlowVerdict
