import FlowVerdict.Proofs.Monitor.Assembly
import FlowVerdict.Proofs.Monitor.Stay

/-!
No packet is held up without evidence. Where a model judges, a packet is dropped or answered by a
reset only because its ports say so or because the model, asked in the flow's present stay, gave an
answer whose first matching rule says so. Whatever goes wrong with a question lets the packet pass.
-/

namespace FlowVerdict

/-- The question was answered, and the first rule that matches the answer has the verdict. -/
def Exchange.Shows (rules : Rules) (v : Verdict) (e : Exchange) : Prop :=
  ∃ probabilities rule, e.answer = .ok probabilities ∧
    rules.find? (·.accepts probabilities) = some rule ∧ rule.verdict = v

/-- The question was not answered. -/
def Exchange.Failed (e : Exchange) : Prop := ∃ cause, e.answer = .error cause

lemma Rules.exists_of_verdict {rules : Rules} {probabilities : List Float32}
    (h : rules.verdict probabilities ≠ .pass) :
    ∃ rule, rules.find? (·.accepts probabilities) = some rule ∧
      rule.verdict = rules.verdict probabilities := by
  unfold Rules.verdict at h ⊢
  cases hfind : rules.find? (·.accepts probabilities) with
  | none => simp [hfind] at h
  | some rule => exact ⟨rule, rfl, rfl⟩

namespace Monitor

variable {σ : Type} {monitor : Monitor σ} {m : ModelClassifier σ} {flow : FlowId}
  {hs : List Hearing} {s s' : FlowState} {h : Hearing}

/-- A verdict is backed by hearings if it lets pass or a question in them shows it. -/
def Backed (rules : Rules) (hs : List Hearing) (v : Verdict) : Prop :=
  v ≠ .pass → ∃ g ∈ hs, ∃ e ∈ g.exchanges, e.Shows rules v

lemma Backed.append {rules : Rules} {v : Verdict} (hb : Backed rules hs v) (more : List Hearing) :
    Backed rules (hs ++ more) v := by
  intro hv
  obtain ⟨g, hg, e, he, hshows⟩ := hb hv
  exact ⟨g, List.mem_append_left _ hg, e, he, hshows⟩

/-- A hearing of a flow whose settled verdict is backed has a backed verdict, and leaves the settled
verdict backed. -/
lemma Heard.backed (hheard : Heard monitor s h s') (hc : monitor.classifier = .model m)
    (hlatched : ∀ v, s.latched = some v → Backed m.rules hs v) :
    Backed m.rules (hs ++ [h]) h.verdict ∧
      ∀ v, s'.latched = some v → Backed m.rules (hs ++ [h]) v := by
  cases hheard with
  | @settled p w hlatch =>
    exact ⟨(hlatched w hlatch).append _, fun v hv => (hlatched v hv).append _⟩
  | payload hc' => simp [hc] at hc'
  | waiting _ hlatch =>
    refine ⟨fun hv => absurd rfl hv, fun v hv => ?_⟩
    exact absurd (hlatch.symm.trans hv) (by simp)
  | @answered p m' probabilities hc' hlatch _ =>
    obtain rfl := Classifier.model.inj (hc.symm.trans hc')
    -- The question asked for this packet shows the verdict.
    have hbacked : ∀ v, m.rules.verdict probabilities = v →
        Backed m.rules (hs ++ [⟨p, m.rules.verdict probabilities,
          [⟨m.name, m.window.flatten (m.window.collect s p).window, .ok probabilities⟩]⟩]) v := by
      rintro v rfl hv
      obtain ⟨rule, hfind, hrule⟩ := Rules.exists_of_verdict hv
      exact ⟨_, List.mem_append_right _ (List.mem_singleton_self _), _, List.mem_singleton_self _,
        probabilities, rule, rfl, hfind, hrule⟩
    exact ⟨hbacked _ rfl, fun v hv => hbacked v (Option.some.inj hv)⟩
  | @failed p m' cause hc' hlatch _ =>
    -- A failure settles the flow to pass, if it settles it at all.
    refine ⟨fun hv => absurd rfl hv, fun v hv => ?_⟩
    cases hrescore : monitor.settings.scoring.rescoreOnFailure with
    | true =>
      simp only [FlowState.unanswered, hrescore, if_true] at hv
      exact absurd (hlatch.symm.trans hv) (by simp)
    | false =>
      simp only [FlowState.unanswered, hrescore] at hv
      obtain rfl := Option.some.inj hv
      exact fun hne => absurd rfl hne

lemma Path.latched_backed (hc : monitor.classifier = .model m) (path : Path monitor flow hs s) :
    ∀ v, s.latched = some v → Backed m.rules hs v := by
  induction path with
  | opened => simp [FlowState.fresh]
  | @next hs s h s' _ _ _ _ _ now hheard ih =>
    have hlatched : ∀ v, (s.record h.packet now).latched = some v → Backed m.rules hs v := ih
    exact (hheard.backed hc hlatched).2

theorem Path.last_backed (hc : monitor.classifier = .model m)
    (path : Path monitor flow (hs ++ [h]) s) : Backed m.rules (hs ++ [h]) h.verdict := by
  generalize hsplit : hs ++ [h] = all at path
  cases path with
  | opened => simp at hsplit
  | @next hs' t h' _ path _ _ _ _ now hheard =>
    obtain ⟨rfl, hlast⟩ := List.append_inj' hsplit rfl
    obtain rfl : h = h' := by simpa using hlast
    have hbefore := path.latched_backed hc
    have hlatched : ∀ v, (t.record h.packet now).latched = some v → Backed m.rules hs v := hbefore
    exact (hheard.backed hc hlatched).1

/-! ### Failures -/

lemma Heard.of_failed {e : Exchange} (hheard : Heard monitor s h s') (he : e ∈ h.exchanges)
    (hfailed : e.Failed) : h.verdict = .pass ∧
      (monitor.settings.scoring.rescoreOnFailure = false → s'.latched = some .pass) := by
  obtain ⟨cause, hcause⟩ := hfailed
  cases hheard with
  | settled => cases he
  | payload => cases he
  | waiting => cases he
  | answered =>
    rw [List.mem_singleton.mp he] at hcause
    cases hcause
  | failed =>
    refine ⟨rfl, fun hrescore => ?_⟩
    simp [FlowState.unanswered, hrescore]

/-- After a question that failed, a flow that is not scored again is settled to pass. -/
lemma Path.latched_of_failed (path : Path monitor flow hs s)
    (hrescore : monitor.settings.scoring.rescoreOnFailure = false) {e : Exchange} (hmem : h ∈ hs)
    (he : e ∈ h.exchanges) (hfailed : e.Failed) : s.latched = some .pass := by
  induction path with
  | opened => cases hmem
  | next path _ _ _ _ now hheard ih =>
    rcases List.mem_append.mp hmem with hmem | hmem
    · have hlatch := ih hmem
      rw [(hheard.of_latched hlatch).2.2]
      exact hlatch
    · rw [List.mem_singleton.mp hmem] at he
      exact (hheard.of_failed he hfailed).2 hrescore

/-- A packet whose question fails passes, and so do all later packets if the flow is not scored
again. -/
theorem Path.pass_of_failed {before after : List Hearing} {e : Exchange}
    (path : Path monitor flow (before ++ h :: after) s) (he : e ∈ h.exchanges)
    (hfailed : e.Failed) : h.verdict = .pass ∧
      (monitor.settings.scoring.rescoreOnFailure = false → ∀ g ∈ after, g.verdict = .pass) := by
  generalize hsplit : before ++ h :: after = hs at path
  induction path generalizing after with
  | opened => simp at hsplit
  | next path _ _ _ _ now hheard ih =>
    -- The cut is at the last hearing, or the induction hypothesis knows of it.
    rcases split_of_snoc hsplit with ⟨-, rfl, rfl⟩ | ⟨init, rfl, hinit⟩
    · exact ⟨(hheard.of_failed he hfailed).1, by simp⟩
    · obtain ⟨hpass, hlater⟩ := ih hinit
      refine ⟨hpass, fun hrescore g hg => ?_⟩
      rcases List.mem_append.mp hg with hg | hg
      · exact hlater hrescore g hg
      · rw [List.mem_singleton.mp hg]
        have hlatch := path.latched_of_failed hrescore (h := h) (hinit ▸ by simp) he hfailed
        exact (hheard.of_latched hlatch).1

/-! ### Runs -/

lemma backed_process (hc : monitor.classifier = .model m) {p : Packet}
    (hports : monitor.portVerdict? p = none) (x : σ) (events : List Event) (now : Nat) :
    Backed m.rules (monitor.stay x p.flow (events ++ [.packet p now])).hearings
      (monitor.process (monitor.after x events) p now).1 := by
  have hstay : (monitor.stay x p.flow (events ++ [.packet p now])).hearings =
      (monitor.after x events).earlier p.flow (monitor.stay x p.flow events) ++
        [⟨p, (monitor.process (monitor.after x events) p now).1,
          monitor.exchanges (monitor.after x events) (.packet p now)⟩] := by
    simp [proceed]
  have hpath := (monitor.told x p.flow (events ++ [.packet p now])).path
  rw [hstay] at hpath ⊢
  obtain ⟨s, path⟩ := hpath fun g hg _ => by
    obtain ⟨-, hlast⟩ := List.append_inj' (hg.trans (List.nil_append [g]).symm) rfl
    rw [← List.singleton_inj.mp hlast]
    exact hports
  exact path.last_backed hc

/-- **No packet is held up without evidence**: where a model judges, a packet that does not pass has
ports with that verdict, or a question asked in its flow's present stay, perhaps for its own sake,
was answered and the first rule that matches the answer has that verdict. A packet whose question
fails passes, and unless flows may be scored again so do all later packets of the stay. -/
theorem held_up_on_evidence {settings : Settings} {scorer : Scorer σ}
    (haccepted : assemble settings (some scorer) = .ok monitor) {name : String}
    {model : ModelSettings} (hactive : settings.activeModel? = .ok (some (name, model))) (x : σ)
    (events : List Event) :
    (∀ p now, (monitor.process (monitor.after x events) p now).1 ≠ .pass →
      p.transport.hasPorts = true ∧ settings.ports.verdict? p.source.port p.target.port =
        some (monitor.process (monitor.after x events) p now).1 ∨
      ∃ h ∈ (monitor.stay x p.flow (events ++ [.packet p now])).hearings, ∃ e ∈ h.exchanges,
        e.Shows model.rules (monitor.process (monitor.after x events) p now).1) ∧
    ∀ flow before h after, (monitor.stay x flow events).hearings = before ++ h :: after →
      (∃ e ∈ h.exchanges, e.Failed) → h.verdict = .pass ∧
        (settings.scoring.rescoreOnFailure = false → ∀ g ∈ after, g.verdict = .pass) := by
  obtain ⟨hset, hc⟩ := classifier_of_assemble haccepted hactive
  refine ⟨fun p now hv => ?_, fun flow before h after hsplit ⟨e, he, hfailed⟩ => ?_⟩
  · cases hports : monitor.portVerdict? p with
    | some v =>
      rw [process_of_stopped hports]
      simp only [portVerdict?, hset] at hports
      split at hports
      · next hhas => exact .inl ⟨hhas, hports⟩
      · cases hports
    | none => exact .inr (backed_process hc hports x events now hv)
  · have hpath := (monitor.told x flow events).path
    rw [hsplit] at hpath
    obtain ⟨s, path⟩ := hpath fun g hg hnil => by
      have hmem : h ∈ [g] := hg ▸ by simp
      rw [List.mem_singleton.mp hmem, hnil] at he
      cases he
    rw [← hset]
    exact path.pass_of_failed he hfailed

open Sample in
/-- The second packet of a flow is dropped on the answer about both. In another flow the question at
the second packet fails, and the third one passes. -/
theorem held_up_on_evidence_two_flows :
    let state := Sample.monitor.after (.start ()) [.packet (packet 5) 3]
    let stay := Sample.monitor.stay (.start ()) (packet 5).flow
      [.packet (packet 5) 3, .packet (packet 5) 9]
    let other := Sample.monitor.stay (.start ()) (packet 6).flow
      [.packet (packet 6) 3, .packet (reply 6) 4, .packet (packet 6) 5]
    (Sample.monitor.process state (packet 5) 9).1 = .drop ∧
    (∃ h ∈ stay.hearings, ∃ e ∈ h.exchanges, e.Shows Sample.model.rules .drop) ∧
    ∃ first second third, other.hearings = [first, second, third] ∧
      second.exchanges = [⟨"m", [1, -1], .error .busy⟩] ∧ third.verdict = .pass := by
  intro state stay other
  have hdrop : (Sample.monitor.process state (packet 5) 9).1 = .drop := rfl
  have hports : ¬(Sample.settings.ports.verdict? (packet 5).source.port (packet 5).target.port =
      some Verdict.drop) := by decide
  refine ⟨hdrop, ?_, ?_⟩
  · have hevidence := (held_up_on_evidence accepted rfl (.start ()) [.packet (packet 5) 3]).1
      (packet 5) 9 (by rw [hdrop]; decide)
    rw [hdrop] at hevidence
    exact hevidence.resolve_left fun h => hports h.2
  · refine ⟨_, _, _, rfl, rfl, ?_⟩
    have hpass := (held_up_on_evidence accepted rfl (.start ())
      [.packet (packet 6) 3, .packet (reply 6) 4, .packet (packet 6) 5]).2 (packet 6).flow [_] _ [_]
      rfl ⟨_, List.mem_singleton_self _, .busy, rfl⟩
    exact hpass.2 rfl _ (List.mem_singleton_self _)

end Monitor

end FlowVerdict
