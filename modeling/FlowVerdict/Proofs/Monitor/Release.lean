import FlowVerdict.Proofs.Monitor.Evidence
import FlowVerdict.Proofs.Monitor.Tracking

/-!
What a settled flow still holds. An answer settles a flow and frees its window. A question without
an answer settles the flow too if there is no second chance, but the rows that were asked about stay
where they are, for as long as the flow is in the table.
-/

namespace FlowVerdict

/-- How questions settled a flow, and what its window holds since. -/
inductive Settlement (settings : Settings) (rules : Rules) (shape : WindowShape)
    (es : List Exchange) (w : Window) (v : Verdict) : Prop
  /-- The last question was answered, and the window is free. -/
  | answered {e : Exchange} {probabilities : List Float32} (last : es.getLast? = some e)
    (answer : e.answer = .ok probabilities) (verdict : rules.verdict probabilities = v)
    (released : w = .empty)
  /-- The only question failed, and the window holds the rows it was about: as many as it takes, or
  some if the connection has closed and the flow stays in the table nevertheless. -/
  | failed {e : Exchange} (only : es = [e]) (failed : e.Failed)
    (final : settings.scoring.rescoreOnFailure = false) (verdict : v = .pass)
    (asked : e.features = shape.flatten w)
    (rows : w.length = settings.window.size ∨
      settings.window.scorePartialOnClose = true ∧ settings.flows.evictOnClose = false ∧
        1 ≤ w.length)

namespace Monitor

variable {σ : Type} {monitor : Monitor σ} {m : ModelClassifier σ} {flow : FlowId}
  {hs : List Hearing} {s s' : FlowState} {h : Hearing} {v : Verdict}

lemma rows_of_asks {settings : Settings} {shape : WindowShape} {p : Packet}
    (hask : settings.asks shape s p = true) : (shape.collect s p).window.length = shape.size ∨
      settings.window.scorePartialOnClose = true ∧ p.isTeardown = true ∧
        1 ≤ (shape.collect s p).window.length := by
  simp only [Settings.asks, Settings.asksEarly, Window.isEmpty, Bool.or_eq_true, Bool.and_eq_true,
    Bool.not_eq_true', beq_eq_false_iff_ne] at hask
  rcases hask with hfills | ⟨hclose, hpartial, hne⟩
  · exact .inl (WindowShape.length_collect_of_fills hfills)
  · exact .inr ⟨hpartial, hclose, Nat.one_le_iff_ne_zero.mpr hne⟩

lemma Heard.settlement (hc : monitor.classifier = .model m)
    (hwindow : m.window.size = monitor.settings.window.size) (hheard : Heard monitor s h s')
    (hscored : Scored monitor.settings hs s)
    (hkept : monitor.isLast h.packet h.verdict = false)
    (hbefore : s.latched = some v →
      Settlement monitor.settings m.rules m.window (hs.flatMap (·.exchanges)) s.window v)
    (hlatch : s'.latched = some v) :
    Settlement monitor.settings m.rules m.window ((hs ++ [h]).flatMap (·.exchanges)) s'.window
      v := by
  rw [List.flatMap_append, List.flatMap_singleton]
  cases hheard with
  | settled =>
    rw [List.append_nil]
    exact hbefore hlatch
  | payload hc' => cases hc.symm.trans hc'
  | waiting _ hnone => cases hnone.symm.trans hlatch
  | @answered p m' probabilities hc' =>
    obtain rfl := Classifier.model.inj (hc.symm.trans hc')
    exact .answered List.getLast?_concat rfl (Option.some.inj hlatch) rfl
  | @failed p m' cause hc' hnone hask =>
    obtain rfl := Classifier.model.inj (hc.symm.trans hc')
    cases hrescore : monitor.settings.scoring.rescoreOnFailure with
    | true =>
      simp only [FlowState.unanswered, hrescore, if_true] at hlatch
      cases hnone.symm.trans hlatch
    | false =>
      simp only [FlowState.unanswered, hrescore, Bool.false_eq_true, if_false] at hlatch ⊢
      -- Without a second chance, a flow that is not settled has not been asked about before.
      have hfirst : hs.flatMap (·.exchanges) = [] := by
        rw [← List.length_eq_zero_iff, ← hscored.windowsScored_eq]
        exact hscored.unscored hnone hrescore
      refine .failed (by rw [hfirst, List.nil_append]) ⟨cause, rfl⟩ hrescore
        (Option.some.inj hlatch).symm rfl ?_
      rcases rows_of_asks hask with hfull | ⟨hpartial, hclose, hrows⟩
      · exact .inl (hfull.trans hwindow)
      · refine .inr ⟨hpartial, ?_, hrows⟩
        simpa [isLast, hclose] using hkept

theorem Path.settlement (hc : monitor.classifier = .model m)
    (hwindow : m.window.size = monitor.settings.window.size) (path : Path monitor flow hs s)
    (hkept : ∀ g ∈ hs, monitor.isLast g.packet g.verdict = false) (hlatch : s.latched = some v) :
    Settlement monitor.settings m.rules m.window (hs.flatMap (·.exchanges)) s.window v := by
  induction path with
  | opened => cases hlatch
  | @next hs s h s' path _ _ _ _ now hheard ih =>
    refine hheard.settlement hc hwindow ((path.scored hc).record h.packet now)
      (hkept h (by simp)) ?_ hlatch
    exact ih fun g hg => hkept g (List.mem_append_left _ hg)

/-- **What a settled flow holds**: in every run, a flow in the table that a model's answer has
settled has a free window, and a flow that was settled for want of an answer holds the rows asked
about. -/
theorem settled_flow_holds {settings : Settings} {scorer : Scorer σ}
    (haccepted : assemble settings (some scorer) = .ok monitor) {name : String}
    {model : ModelSettings} (hactive : settings.activeModel? = .ok (some (name, model))) (x : σ)
    (events : List Event) :
    ∀ flow s v, (monitor.after x events).flows.lookup flow = some s → s.latched = some v →
      Settlement settings model.rules (settings.window.shape model)
        (monitor.stay x flow events).exchanges s.window v := by
  intro flow s v hlook hlatch
  obtain ⟨hset, hc⟩ := classifier_of_assemble haccepted hactive
  obtain ⟨path, -, hfarewell, -⟩ := path_of_lookup hlook
  rw [← hset] at hc ⊢
  rw [Stay.exchanges, hfarewell, List.append_nil]
  exact path.settlement hc rfl (isLast_of_lookup hlook) hlatch

open Sample in
/-- A flow settled for want of an answer holds both rows of its window. One settled by an answer
holds none. -/
theorem settled_flow_holds_two_flows :
    let events := [.packet (packet 5) 3, .packet (packet 5) 4, .packet (packet 6) 5,
      .packet (reply 6) 6]
    let state := Sample.monitor.after (.start ()) events
    (∃ s, state.flows.lookup (packet 5).flow = some s ∧ s.window.length = 0 ∧
      Settlement Sample.settings model.rules (Sample.settings.window.shape model)
        (Sample.monitor.stay (.start ()) (packet 5).flow events).exchanges s.window .drop) ∧
    ∃ s, state.flows.lookup (packet 6).flow = some s ∧ s.window.length = 2 ∧
      Settlement Sample.settings model.rules (Sample.settings.window.shape model)
        (Sample.monitor.stay (.start ()) (packet 6).flow events).exchanges s.window .pass := by
  intro events state
  have hholds := settled_flow_holds accepted rfl (.start ()) events
  have hdropped : (state.flows.lookup (packet 5).flow).map
      (fun s => (s.latched, s.window.length)) = some (some .drop, 0) := by decide +kernel
  have hpassed : (state.flows.lookup (packet 6).flow).map
      (fun s => (s.latched, s.window.length)) = some (some .pass, 2) := by decide +kernel
  obtain ⟨s, hs, hdropped⟩ := Option.map_eq_some_iff.mp hdropped
  obtain ⟨t, ht, hpassed⟩ := Option.map_eq_some_iff.mp hpassed
  simp only [Prod.mk.injEq] at hdropped hpassed
  exact ⟨⟨s, hs, hdropped.2, hholds _ s .drop hs hdropped.1⟩,
    t, ht, hpassed.2, hholds _ t .pass ht hpassed.1⟩

open Sample in
/-- Not every settled flow has a free window. -/
theorem settled_flow_keeps_rows :
    let state := Sample.monitor.after (.start ()) [.packet (packet 6) 5, .packet (reply 6) 6]
    withBackend Sample.settings backend = .ok Sample.monitor ∧
    ¬∀ flow s, state.flows.lookup flow = some s → s.latched ≠ none →
      s.window.length = 0 ∧ s.window.values = [] := by
  intro state
  refine ⟨accepted, fun hall => ?_⟩
  have hpassed : (state.flows.lookup (packet 6).flow).map
      (fun s => (s.latched, s.window.length)) = some (some .pass, 2) := by decide +kernel
  obtain ⟨s, hs, hpassed⟩ := Option.map_eq_some_iff.mp hpassed
  simp only [Prod.mk.injEq] at hpassed
  have hzero := (hall _ s hs (by simp [hpassed.1])).1
  rw [hpassed.2] at hzero
  cases hzero

end Monitor

end FlowVerdict
