import FlowVerdict.Proofs.Monitor.Questions
import Mathlib.Algebra.Group.Action.Defs
import Mathlib.Algebra.GroupWithZero.Nat
import Mathlib.Algebra.Order.BigOperators.Group.List
import Mathlib.Algebra.Order.Group.Nat

/-!
What the table says of a flow under observation. The entry stands under the flow's own identity, it
counts the packets of the flow's present stay and their bytes, and its window holds whole rows.

Where a model judges, a flow that is not settled has all its packets accounted for: each went into a
window that was scored in vain or waits in the one that is filling up. Only a connection that closes
without leaving the table may have had a window scored before it was full.
-/

namespace FlowVerdict

/-! ### Counts -/

/-- The state is that of the flow, is not marked as leaving, and has counted the packets. -/
structure FlowState.Counts (s : FlowState) (flow : FlowId) (packets : List Packet) : Prop where
  flow_eq : s.flow = flow
  evicted_eq : s.evicted = false
  packets_eq : s.packets = packets.length
  bytes_eq : s.bytes = (packets.map (·.payload.length)).sum

lemma FlowState.Counts.record {s : FlowState} {flow : FlowId} {packets : List Packet}
    (h : s.Counts flow packets) (p : Packet) (now : Nat) :
    (s.record p now).Counts flow (packets ++ [p]) := by
  refine ⟨h.flow_eq, h.evicted_eq, ?_, ?_⟩
  · simp [FlowState.record, h.packets_eq]
  · simp [FlowState.record, h.bytes_eq]

namespace Monitor

variable {σ : Type} {monitor : Monitor σ} {m : ModelClassifier σ} {flow : FlowId}
  {hs : List Hearing} {s s' : FlowState} {h : Hearing}

lemma Path.counts (path : Path monitor flow hs s) : s.Counts flow (hs.map (·.packet)) := by
  induction path with
  | opened => exact ⟨rfl, rfl, rfl, rfl⟩
  | @next hs s h s' _ _ _ _ _ now hheard ih =>
    have hcount := ih.record h.packet now
    rw [hheard.frame, List.map_append]
    exact ⟨hcount.flow_eq, hcount.evicted_eq, hcount.packets_eq, hcount.bytes_eq⟩

lemma Path.contains_opener (path : Path monitor flow hs s) (hne : hs ≠ []) :
    flow.contains s.opener = true := by
  obtain ⟨h, rest, rfl⟩ := List.exists_cons_of_ne_nil hne
  have hsource : h.packet.source = s.opener := path.source_of_head h rfl
  have hflow : h.packet.flow = flow := (path.flow_eq_of_mem List.mem_cons_self).1
  rw [← hsource]
  exact Packet.contains_source hflow

/-! ### Settled verdicts -/

lemma Heard.of_latched_after {v : Verdict} (hheard : Heard monitor s h s')
    (hlatch : s'.latched = some v) : s.latched = some v ∨ h.verdict = v := by
  cases hheard with
  | settled => exact .inl hlatch
  | payload _ hnone =>
    simp only [judgeByFingerprint, FlowState.latch, hnone] at hlatch
    split at hlatch
    · exact .inr (Option.some.inj hlatch)
    · exact .inl hlatch
  | waiting => exact .inl hlatch
  | answered => exact .inr (Option.some.inj hlatch)
  | failed =>
    unfold FlowState.unanswered at hlatch
    split at hlatch
    · exact .inl hlatch
    · exact .inr (Option.some.inj hlatch)

lemma Path.exists_verdict_of_latched {v : Verdict} (path : Path monitor flow hs s)
    (hlatch : s.latched = some v) : ∃ h ∈ hs, h.verdict = v := by
  induction path with
  | opened => cases hlatch
  | @next hs s h s' _ _ _ _ _ now hheard ih =>
    rcases hheard.of_latched_after hlatch with hbefore | hv
    · obtain ⟨g, hg, hv⟩ := ih hbefore
      exact ⟨g, List.mem_append_left _ hg, hv⟩
    · exact ⟨h, by simp, hv⟩

lemma Heard.eq_of_fingerprint {f : Fingerprint} (hc : monitor.classifier = .fingerprint f)
    (hheard : Heard monitor s h s') (hkept : h.verdict ≠ .reset) : s' = s := by
  cases hheard with
  | settled => rfl
  | @payload p f' hc' =>
    have hverdict : monitor.payloadVerdict f' p ≠ .reset := hkept
    simp only [judgeByFingerprint, hverdict, if_false]
  | waiting hc' => cases hc.symm.trans hc'
  | answered hc' => cases hc.symm.trans hc'
  | failed hc' => cases hc.symm.trans hc'

/-- A flow that is judged by its payloads and was not reset is not settled and has no rows. -/
lemma Path.of_fingerprint {f : Fingerprint} (hc : monitor.classifier = .fingerprint f)
    (path : Path monitor flow hs s) (hkept : ∀ g ∈ hs, g.verdict ≠ .reset) :
    s.latched = none ∧ s.window = .empty := by
  induction path with
  | opened => exact ⟨rfl, rfl⟩
  | @next hs s h s' _ _ _ _ _ now hheard ih =>
    rw [hheard.eq_of_fingerprint hc (hkept h (by simp))]
    exact ih fun g hg => hkept g (List.mem_append_left _ hg)

/-! ### Windows and scores -/

lemma Heard.fits (hc : monitor.classifier = .model m) (hheard : Heard monitor s h s')
    (hfits : m.window.Fits s.window) : m.window.Fits s'.window := by
  cases hheard with
  | settled => exact hfits
  | payload hc' => cases hc.symm.trans hc'
  | @waiting p m' hc' =>
    obtain rfl := Classifier.model.inj (hc.symm.trans hc')
    exact hfits.pushPacket p _
  | answered => exact .empty m.window
  | @failed p m' cause hc' =>
    obtain rfl := Classifier.model.inj (hc.symm.trans hc')
    unfold FlowState.unanswered
    split
    · exact .empty m.window
    · exact hfits.pushPacket p _

lemma Path.fits (hc : monitor.classifier = .model m) (path : Path monitor flow hs s) :
    m.window.Fits s.window := by
  induction path with
  | opened => exact .empty m.window
  | next _ _ _ _ _ now hheard ih => exact hheard.fits hc ih

/-- How far hearings have brought a flow: the windows scored are the questions asked, a flow that is
not settled has passed every packet, and a settled one has had a window scored. -/
structure Scored (settings : Settings) (hs : List Hearing) (s : FlowState) : Prop where
  windowsScored_eq : s.windowsScored = (hs.flatMap (·.exchanges)).length
  pass : s.latched = none → ∀ h ∈ hs, h.verdict = .pass
  unscored : s.latched = none → settings.scoring.rescoreOnFailure = false → s.windowsScored = 0
  scored : s.latched ≠ none → 1 ≤ s.windowsScored

lemma Scored.record {settings : Settings} (h : Scored settings hs s) (p : Packet) (now : Nat) :
    Scored settings hs (s.record p now) :=
  ⟨h.windowsScored_eq, h.pass, h.unscored, h.scored⟩

lemma Heard.scored (hc : monitor.classifier = .model m) (hheard : Heard monitor s h s')
    (hscored : Scored monitor.settings hs s) : Scored monitor.settings (hs ++ [h]) s' := by
  have hcalls : ((hs ++ [h]).flatMap (·.exchanges)).length =
      s.windowsScored + h.exchanges.length := by simp [hscored.windowsScored_eq]
  have hpass : s.latched = none → h.verdict = .pass → ∀ g ∈ hs ++ [h], g.verdict = .pass :=
    fun hlatch hv => List.forall_mem_append.mpr
      ⟨hscored.pass hlatch, List.forall_mem_singleton.mpr hv⟩
  cases hheard with
  | settled hlatch =>
    exact ⟨hcalls.symm, by simp [hlatch], hscored.unscored, hscored.scored⟩
  | payload hc' => cases hc.symm.trans hc'
  | waiting _ hlatch =>
    exact ⟨hcalls.symm, fun _ => hpass hlatch rfl, hscored.unscored, hscored.scored⟩
  | answered =>
    exact ⟨hcalls.symm, by simp [FlowState.answered], by simp [FlowState.answered],
      by simp [FlowState.answered]⟩
  | failed _ hlatch =>
    cases hrescore : monitor.settings.scoring.rescoreOnFailure with
    | true =>
      refine ⟨hcalls.symm, fun _ => hpass hlatch rfl, ?_, fun hsome => absurd hlatch hsome⟩
      simp [hrescore]
    | false =>
      exact ⟨hcalls.symm, by simp [FlowState.unanswered], by simp [FlowState.unanswered],
        by simp [FlowState.unanswered]⟩

lemma Path.scored (hc : monitor.classifier = .model m) (path : Path monitor flow hs s) :
    Scored monitor.settings hs s := by
  induction path with
  | opened => exact ⟨rfl, by simp, fun _ _ => rfl, fun hsome => absurd rfl hsome⟩
  | @next hs s h s' _ _ _ _ _ now hheard ih =>
    exact hheard.scored hc (ih.record h.packet now)

end Monitor

/-! ### Packets in windows -/

section

variable {settings : Settings} {name : String} {shape : WindowShape} {opener : Endpoint}
  {b : List Hearing}

lemma Batch.length_exchanges (hb : Batch settings name shape opener b) :
    (b.map (·.exchanges.length)).sum = 1 := by
  cases hb with
  | @mk quiet h e hquiet hexch _ _ _ =>
    have hzero : ∀ n ∈ quiet.map (·.exchanges.length), n = 0 :=
      List.forall_mem_map.mpr fun g hg => by rw [hquiet g hg, List.length_nil]
    rw [List.map_append, List.sum_append, List.sum_eq_zero hzero]
    simp [hexch]

lemma Batch.length_le (hb : Batch settings name shape opener b) : b.length ≤ shape.size := by
  cases hb with
  | mk _ _ _ hle _ => simpa using hle

lemma Batch.length_eq (hb : Batch settings name shape opener b)
    (hopen : settings.window.scorePartialOnClose = true →
      ∀ h ∈ b, h.packet.isTeardown = false) : b.length = shape.size := by
  cases hb with
  | @mk quiet h e _ _ _ _ htrigger =>
    rcases htrigger with hfull | ⟨hpartial, hclose⟩
    · simpa using hfull
    · have hnot := hopen hpartial h (by simp)
      rw [hclose] at hnot
      cases hnot

end

namespace Batched

variable {settings : Settings} {name : String} {shape : WindowShape} {s : FlowState}
  {batches : List (List Hearing)} {rest : List Hearing}

lemma length_exchanges (hb : Batched settings name shape s batches rest) :
    ((batches.flatten ++ rest).flatMap (·.exchanges)).length = batches.length := by
  have hone : ∀ n ∈ batches.map fun b => (b.map (·.exchanges.length)).sum, n = 1 :=
    List.forall_mem_map.mpr fun b hmem => (hb.batch b hmem).length_exchanges
  have hzero : ∀ n ∈ rest.map (·.exchanges.length), n = 0 :=
    List.forall_mem_map.mpr fun g hg => by rw [hb.quiet g hg, List.length_nil]
  have hsum := List.sum_eq_card_nsmul _ 1 hone
  rw [List.flatMap_append, List.length_append, List.length_flatMap, List.length_flatMap,
    List.sum_eq_zero hzero, List.map_flatten, List.sum_flatten, List.map_map]
  simpa [Function.comp_def] using hsum

lemma length_flatten_le (hb : Batched settings name shape s batches rest) :
    batches.flatten.length ≤ shape.size * batches.length := by
  have hle : ∀ n ∈ batches.map List.length, n ≤ shape.size :=
    List.forall_mem_map.mpr fun b hmem => (hb.batch b hmem).length_le
  have hsum := List.sum_le_card_nsmul _ shape.size hle
  rwa [← List.length_flatten, List.length_map, smul_eq_mul, Nat.mul_comm] at hsum

lemma length_flatten_eq (hb : Batched settings name shape s batches rest)
    (hopen : settings.window.scorePartialOnClose = true →
      ∀ b ∈ batches, ∀ h ∈ b, h.packet.isTeardown = false) :
    batches.flatten.length = shape.size * batches.length := by
  have heq : ∀ n ∈ batches.map List.length, n = shape.size :=
    List.forall_mem_map.mpr fun b hmem =>
      (hb.batch b hmem).length_eq fun hpartial => hopen hpartial b hmem
  have hsum := List.sum_eq_card_nsmul _ shape.size heq
  rwa [← List.length_flatten, List.length_map, smul_eq_mul, Nat.mul_comm] at hsum

end Batched

/-! ### Flows under observation -/

/-- A flow that is not settled: its packets went into full windows that were scored in vain, and
into the one that is filling up. A window was scored before it was full only if connections close
without leaving the table. -/
structure FlowState.Waits (s : FlowState) (settings : Settings) : Prop where
  rows_lt : s.window.length < settings.window.size
  packets_le : s.packets ≤ settings.window.size * s.windowsScored + s.window.length
  packets_eq :
    ¬(settings.window.scorePartialOnClose = true ∧ settings.flows.evictOnClose = false) →
      s.packets = settings.window.size * s.windowsScored + s.window.length
  unscored : settings.scoring.rescoreOnFailure = false →
    s.windowsScored = 0 ∧ s.packets < settings.window.size

/-- A flow whose windows go to a model. -/
structure FlowState.Modelled (s : FlowState) (settings : Settings) (model : ModelSettings) :
    Prop where
  values_eq : s.window.values.length = s.window.length * model.features.length
  scored : s.latched ≠ none → 1 ≤ s.windowsScored
  waits : s.latched = none → s.Waits settings

/-- A flow under observation whose present stay has the packets. -/
structure FlowState.Tracks (s : FlowState) (settings : Settings) (flow : FlowId)
    (packets : List Packet) : Prop where
  counts : s.Counts flow packets
  opener_side : flow.contains s.opener = true
  latched_ne : s.latched ≠ some .reset
  packets_pos : 1 ≤ s.packets
  rows_le : s.window.length ≤ settings.window.size
  fingerprint : settings.activeModel? = .ok none → s.latched = none ∧ s.window = .empty
  model : ∀ name model, settings.activeModel? = .ok (some (name, model)) →
    s.Modelled settings model

namespace Monitor

variable {σ : Type} {monitor : Monitor σ} {m : ModelClassifier σ} {flow : FlowId}
  {hs : List Hearing} {s : FlowState}

/-- Where connections leave the table as they close, a packet that passed and was not the last of
its flow closes none. -/
lemma isTeardown_of_kept {h : Hearing} (hpass : h.verdict = .pass)
    (hkept : monitor.isLast h.packet h.verdict = false)
    (hevict : monitor.settings.flows.evictOnClose = true) : h.packet.isTeardown = false := by
  simpa [isLast, hpass, hevict] using hkept

lemma Path.waits (hc : monitor.classifier = .model m)
    (hwindow : m.window.size = monitor.settings.window.size)
    (hsize : monitor.settings.window.size ≠ 0) (path : Path monitor flow hs s)
    (hkept : ∀ g ∈ hs, monitor.isLast g.packet g.verdict = false) (hlatch : s.latched = none) :
    s.Waits monitor.settings := by
  obtain ⟨batches, rest, rfl, hb⟩ := path.batched hc (hwindow ▸ hsize)
  have hscored := path.scored hc
  have hcalls : s.windowsScored = batches.length :=
    hscored.windowsScored_eq.trans hb.length_exchanges
  have hrows : s.window.length = rest.length := by
    rw [(hb.holds hlatch).length_window, List.length_map]
  have hshort : s.window.length < monitor.settings.window.size :=
    hwindow ▸ (hb.holds hlatch).length_window_lt
  have hpackets : s.packets = batches.flatten.length + s.window.length := by
    rw [path.counts.packets_eq, List.length_map, List.length_append, hrows]
  have hle : batches.flatten.length ≤ monitor.settings.window.size * s.windowsScored := by
    rw [← hwindow, hcalls]
    exact hb.length_flatten_le
  refine ⟨hshort, by omega, fun hnot => ?_, fun hrescore => ?_⟩
  · -- A packet that closed the connection would have been the last of the flow.
    have hfull := hb.length_flatten_eq fun hpartial b hmem g hg => by
      have hall : g ∈ batches.flatten ++ rest :=
        List.mem_append_left _ (List.mem_flatten.mpr ⟨b, hmem, hg⟩)
      refine isTeardown_of_kept (hscored.pass hlatch g hall) (hkept g hall) ?_
      simpa [hpartial] using hnot
    rw [hwindow, ← hcalls] at hfull
    omega
  · have hzero := hscored.unscored hlatch hrescore
    rw [hzero, Nat.mul_zero] at hle
    exact ⟨hzero, by omega⟩

lemma Path.tracks {settings : Settings} {scorer? : Option (Scorer σ)}
    (haccepted : assemble settings scorer? = .ok monitor) (path : Path monitor flow hs s)
    (hne : hs ≠ []) (hstays : ∀ g ∈ hs, g.verdict ≠ .reset)
    (hkept : ∀ g ∈ hs, monitor.isLast g.packet g.verdict = false) :
    s.Tracks settings flow (hs.map (·.packet)) := by
  have hcounts := path.counts
  have hlatched : s.latched ≠ some .reset := fun hreset => by
    obtain ⟨g, hg, hv⟩ := path.exists_verdict_of_latched hreset
    exact hstays g hg hv
  have hpos : 1 ≤ s.packets := by
    rw [hcounts.packets_eq, List.length_map]
    exact List.length_pos_of_ne_nil hne
  obtain ⟨hsize, ⟨hactive, rfl⟩ | ⟨name, model, scorer, hactive, -, -, rfl⟩⟩ :=
    assembled haccepted
  · obtain ⟨hlatch, hwindow⟩ := path.of_fingerprint rfl hstays
    refine ⟨hcounts, path.contains_opener hne, hlatched, hpos, ?_, fun _ => ⟨hlatch, hwindow⟩,
      fun name model hactive' => ?_⟩
    · rw [hwindow]
      exact Nat.zero_le _
    · cases hactive.symm.trans hactive'
  · have hfits := path.fits rfl
    refine ⟨hcounts, path.contains_opener hne, hlatched, hpos, hfits.length_le,
      fun hactive' => ?_, fun name' model' hactive' => ?_⟩
    · cases hactive.symm.trans hactive'
    · cases hactive.symm.trans hactive'
      exact ⟨hfits.length_values, (path.scored rfl).scored, path.waits rfl rfl hsize hkept⟩

/-- **The table tracks its flows**: in every run of accepted settings, the entry of a flow is its
own, is not marked as leaving, and agrees with the packets of the flow's present stay. Flows are
marked only as they leave, so no packet finds its flow marked, and none looks twice. -/
theorem table_tracks_flows {settings : Settings} {scorer? : Option (Scorer σ)}
    (haccepted : assemble settings scorer? = .ok monitor) (x : σ) (events : List Event) :
    (∀ flow s, (monitor.after x events).flows.lookup flow = some s →
      s.Tracks settings flow (monitor.stay x flow events).packets) ∧
    ∀ p now, ((monitor.after x events).enter p now).1.state.evicted = false ∧
      (monitor.after x events).meet p now = (monitor.after x events).enter p now := by
  refine ⟨fun flow s hlook => ?_, fun p now => ?_⟩
  · obtain ⟨path, hne, -, hstays⟩ := path_of_lookup hlook
    exact path.tracks haccepted hne hstays (isLast_of_lookup hlook)
  · have hlive : (monitor.after x events).flows.Live := after_live x events
    exact ⟨State.evicted_enter hlive p now, State.meet_of_live hlive p now⟩

open Sample in
/-- A flow whose first window is scored in vain, with its third packet in the next one. -/
theorem table_tracks_flows_rescored :
    let events := [.packet (packet 6) 3, .packet (reply 6) 4, .packet (packet 6) 5]
    withBackend rescoring backend = .ok rescorer ∧
    ∃ s, (rescorer.after (.start ()) events).flows.lookup (packet 6).flow = some s ∧
      s.packets = 3 ∧ s.windowsScored = 1 ∧ s.window.length = 1 ∧
      s.Tracks rescoring (packet 6).flow
        (rescorer.stay (.start ()) (packet 6).flow events).packets := by
  intro events
  have hcounts : ((rescorer.after (.start ()) events).flows.lookup (packet 6).flow).map
      (fun s => (s.packets, s.windowsScored, s.window.length)) = some (3, 1, 1) := by
    decide +kernel
  obtain ⟨s, hlook, hs⟩ := Option.map_eq_some_iff.mp hcounts
  simp only [Prod.mk.injEq] at hs
  have htracks := (table_tracks_flows rescorer_accepted (.start ()) events).1 _ s hlook
  exact ⟨rescorer_accepted, s, hlook, hs.1, hs.2.1, hs.2.2, htracks⟩

end Monitor

end FlowVerdict
