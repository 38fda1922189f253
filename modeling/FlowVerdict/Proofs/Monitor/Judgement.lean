import FlowVerdict.Monitor.Judgement
import Mathlib.Tactic.Lemma

/-!
The cases of a judgement, one equation for each: a settled flow, a payload that is looked at by
itself, a row that only waits in its window, and a window that a model is asked about. The judgement
reads neither the counters nor the time stamps of the flow.
-/

namespace FlowVerdict

namespace WindowShape

def collect (shape : WindowShape) (s : FlowState) (p : Packet) : FlowState :=
  { s with window := (shape.pushPacket s.window p (s.directionOf p)).2 }

def fills (shape : WindowShape) (s : FlowState) (p : Packet) : Bool :=
  (shape.pushPacket s.window p (s.directionOf p)).1

end WindowShape

namespace Settings

/-- The model is asked about the rows of the flow although they do not fill its window. -/
def asksEarly (settings : Settings) (s : FlowState) : Bool :=
  settings.window.scorePartialOnClose && !s.window.isEmpty

/-- The model is asked about the window once the packet is in it: the window is full, or the packet
closes the connection and windows that are not full are scored too. -/
def asks (settings : Settings) (shape : WindowShape) (s : FlowState) (p : Packet) : Bool :=
  shape.fills s p || p.isTeardown && settings.asksEarly (shape.collect s p)

variable {settings : Settings} {shape : WindowShape} {s : FlowState} {p : Packet}

lemma fills_of_not_asks (h : settings.asks shape s p = false) : shape.fills s p = false :=
  (Bool.or_eq_false_iff.mp h).1

lemma fills_or_of_asks (h : settings.asks shape s p = true) : shape.fills s p = true ∨
    settings.window.scorePartialOnClose = true ∧ p.isTeardown = true := by
  simp only [asks, asksEarly, Bool.or_eq_true, Bool.and_eq_true] at h
  rcases h with hfills | ⟨hclose, hpartial, -⟩
  · exact .inl hfills
  · exact .inr ⟨hpartial, hclose⟩

lemma asks_of_open (h : p.isTeardown = false) : settings.asks shape s p = shape.fills s p := by
  simp [asks, h]

lemma asksEarly_iff : settings.asksEarly s = true ↔
    settings.window.scorePartialOnClose = true ∧ s.window.length ≠ 0 := by
  simp [asksEarly, Window.isEmpty]

end Settings

namespace FlowState

/-- A flow whose window went to the model, which answered: it is settled and its window is free. -/
def answered (s : FlowState) (v : Verdict) : FlowState :=
  { s with windowsScored := s.windowsScored + 1, latched := some v, window := .empty }

/-- A flow whose window went to the model in vain: it starts a new window, or it is settled to
pass. -/
def unanswered (s : FlowState) (rescore : Bool) : FlowState :=
  if rescore then { s with windowsScored := s.windowsScored + 1, window := .empty }
  else { s with windowsScored := s.windowsScored + 1, latched := some .pass }

end FlowState

namespace Monitor

variable {σ : Type} {monitor : Monitor σ} {m : ModelClassifier σ} {flow : FlowState}

lemma score_of_ok (hlatch : flow.latched = none) {x : σ} {probabilities : List Float32}
    (h : (m.scorer.score x m.name (m.window.flatten flow.window)).1 = .ok probabilities)
    (tally : Tally) : monitor.score m flow tally x =
      ⟨m.rules.verdict probabilities, flow.answered (m.rules.verdict probabilities), tally.called,
        (m.scorer.score x m.name (m.window.flatten flow.window)).2⟩ := by
  simp [score, h, FlowState.decide, FlowState.latch, hlatch, FlowState.clearWindow,
    FlowState.answered]

lemma score_of_error (hlatch : flow.latched = none) {x : σ} {cause : ScoringError}
    (h : (m.scorer.score x m.name (m.window.flatten flow.window)).1 = .error cause)
    (tally : Tally) : monitor.score m flow tally x =
      ⟨.pass, flow.unanswered monitor.settings.scoring.rescoreOnFailure, tally.called.failed,
        (m.scorer.score x m.name (m.window.flatten flow.window)).2⟩ := by
  cases hr : monitor.settings.scoring.rescoreOnFailure <;>
    simp [score, h, hr, FlowState.failOpen, FlowState.latch, hlatch, FlowState.clearWindow,
      FlowState.unanswered]

variable {p : Packet} {tally : Tally} {x : σ}

lemma judge_of_latched {v : Verdict} (h : flow.latched = some v) :
    monitor.judge p flow tally x = ⟨v, flow, tally.hit, x⟩ := by
  simp [judge, h]

lemma judge_of_fingerprint {f : Fingerprint} (hc : monitor.classifier = .fingerprint f)
    (h : flow.latched = none) : monitor.judge p flow tally x =
      ⟨monitor.payloadVerdict f p, (monitor.judgeByFingerprint f p flow).2, tally, x⟩ := by
  simp [judge, h, hc, judgeByFingerprint]

lemma judge_of_model (hc : monitor.classifier = .model m) (h : flow.latched = none) :
    monitor.judge p flow tally x =
      if monitor.settings.asks m.window flow p then
        monitor.score m (m.window.collect flow p) tally x
      else ⟨.pass, m.window.collect flow p, tally, x⟩ := by
  unfold judge
  rw [h, hc]
  rfl

lemma judge_of_waiting (hc : monitor.classifier = .model m) (h : flow.latched = none)
    (hask : monitor.settings.asks m.window flow p = false) :
    monitor.judge p flow tally x = ⟨.pass, m.window.collect flow p, tally, x⟩ := by
  rw [judge_of_model hc h, hask]
  rfl

lemma judge_of_asking (hc : monitor.classifier = .model m) (h : flow.latched = none)
    (hask : monitor.settings.asks m.window flow p = true) :
    monitor.judge p flow tally x = monitor.score m (m.window.collect flow p) tally x := by
  rw [judge_of_model hc h, hask]
  rfl

lemma score_uncounted (monitor : Monitor σ) (m : ModelClassifier σ) (s : FlowState) (t u : Tally)
    (x : σ) : (monitor.score m s t x).verdict = (monitor.score m s u x).verdict ∧
      (monitor.score m s t x).flow = (monitor.score m s u x).flow := by
  simp only [score]
  split <;> exact ⟨rfl, rfl⟩

lemma judge_evicted (monitor : Monitor σ) (p : Packet) (s : FlowState) (tally : Tally) (x : σ) :
    (monitor.judge p s tally x).flow.evicted = s.evicted := by
  have hlatch : ∀ (s : FlowState) (v : Verdict), (s.latch v).2.evicted = s.evicted := by
    intro s v
    unfold FlowState.latch
    split <;> rfl
  have hscore : ∀ (m : ModelClassifier σ) (s : FlowState),
      (monitor.score m s tally x).flow.evicted = s.evicted := by
    intro m s
    simp only [score]
    split
    · exact hlatch ..
    · unfold FlowState.failOpen
      split
      · rfl
      · exact hlatch ..
  cases hlatched : s.latched with
  | some v => rw [judge_of_latched hlatched]
  | none =>
    cases hc : monitor.classifier with
    | fingerprint f =>
      rw [judge_of_fingerprint hc hlatched, judgeByFingerprint]
      dsimp only
      split
      · exact hlatch ..
      · rfl
    | model m =>
      rw [judge_of_model hc hlatched]
      split
      · exact hscore m _
      · rfl

lemma judge_uncounted (monitor : Monitor σ) (p : Packet) (s : FlowState) (t u : Tally) (x : σ) :
    (monitor.judge p s t x).verdict = (monitor.judge p s u x).verdict ∧
      (monitor.judge p s t x).flow = (monitor.judge p s u x).flow := by
  cases hlatch : s.latched with
  | some v =>
    rw [judge_of_latched hlatch, judge_of_latched hlatch]
    exact ⟨rfl, rfl⟩
  | none =>
    cases hc : monitor.classifier with
    | fingerprint f =>
      rw [judge_of_fingerprint hc hlatch, judge_of_fingerprint hc hlatch]
      exact ⟨rfl, rfl⟩
    | model m =>
      simp only [judge_of_model hc hlatch]
      split
      · exact score_uncounted monitor m _ t u x
      · exact ⟨rfl, rfl⟩

end Monitor

end FlowVerdict
