import FlowVerdict.Proofs.Monitor.Simulation

/-!
The questions of a monitor. A monitor over a recording scorer does what the monitor does and keeps a
log of every question with its answer. A packet that is judged on its flow and the host's end of a
flow add at most one question to the log, a sweep none.
-/

namespace FlowVerdict

variable {σ : Type}

/-- The classifier with a scorer that writes down what it is asked. -/
def Classifier.recording : Classifier σ → Classifier (σ × List Exchange)
  | .fingerprint f => .fingerprint f
  | .model m => .model ⟨m.name, m.window, m.rules, m.scorer.recording⟩

def ModelClassifier.exchange (m : ModelClassifier σ) (s : FlowState) (x : σ) : Exchange :=
  ⟨m.name, m.window.flatten s.window, (m.scorer.score x m.name (m.window.flatten s.window)).1⟩

namespace Monitor

def recording (monitor : Monitor σ) : Monitor (σ × List Exchange) :=
  ⟨monitor.settings, monitor.classifier.recording⟩

def State.unasked (state : State σ) : State (σ × List Exchange) :=
  ⟨state.flows, state.tally, (state.scorer, [])⟩

/-- What the scorer is asked in the course of an event. -/
def exchanges (monitor : Monitor σ) (state : State σ) (event : Event) : List Exchange :=
  (monitor.recording.respond state.unasked event).2.scorer.2

/-- What the scorer was asked in the course of all events. -/
def log (monitor : Monitor σ) (scorer : σ) (events : List Event) : List Exchange :=
  (monitor.recording.after (scorer, []) events).scorer.2

variable {monitor : Monitor σ} {state : State σ} {x : σ}

/-! ### The recording monitor does what the monitor does -/

lemma alike_recording (monitor : Monitor σ) :
    Alike (fun s t => t.1 = s) monitor monitor.recording := by
  obtain ⟨settings, classifier⟩ := monitor
  cases classifier with
  | fingerprint f => exact .fingerprint settings f
  | model m => exact .model settings m.name m.window m.rules m.scorer.inStep_recording

/-- **Recording changes nothing**: the replies, the flows, the counters and the scorer are those of
the monitor itself. -/
theorem recording_run (monitor : Monitor σ) (x : σ) (events : List Event) :
    (monitor.run (.start x) events).1 = (monitor.recording.run (.start (x, [])) events).1 ∧
      Matches (fun s t => t.1 = s) (monitor.after x events)
        (monitor.recording.after (x, []) events) :=
  run_matches monitor.alike_recording ⟨rfl, rfl, rfl⟩ events

lemma alike_extended (monitor : Monitor σ) (earlier : List Exchange) :
    Alike (fun s t => t.1 = s.1 ∧ t.2 = earlier ++ s.2) monitor.recording monitor.recording := by
  obtain ⟨settings, classifier⟩ := monitor
  cases classifier with
  | fingerprint f => exact .fingerprint settings f
  | model m =>
    refine .model settings m.name m.window m.rules ?_
    rintro ⟨s, log⟩ ⟨t, _⟩ model features ⟨hst, rfl⟩
    obtain rfl : t = s := hst
    exact ⟨rfl, rfl, List.append_assoc _ _ _⟩

/-- **The log of a run** is made of what the scorer was asked in the course of each event. -/
theorem log_snoc (monitor : Monitor σ) (x : σ) (events : List Event) (event : Event) :
    monitor.log x (events ++ [event]) =
      monitor.log x events ++ monitor.exchanges (monitor.after x events) event := by
  have hrun := (recording_run monitor x events).2
  have hstart : Matches (fun s t => t.1 = s.1 ∧ t.2 = monitor.log x events ++ s.2)
      (monitor.after x events).unasked (monitor.recording.after (x, []) events) :=
    ⟨hrun.flows_eq, hrun.tally_eq, hrun.related, (List.append_nil _).symm⟩
  have hnext := (respond_matches (alike_extended monitor (monitor.log x events)) hstart event).2
  rw [log, after_snoc]
  exact hnext.related.2

lemma Follows.recording {good : σ → Prop} {oracle : String → List Float32 → Answer}
    (h : monitor.Follows good oracle) :
    monitor.recording.Follows (Scorer.Faithful good oracle) oracle := by
  intro m hm
  cases hc : monitor.classifier with
  | fingerprint f =>
    rw [Monitor.recording, hc] at hm
    cases hm
  | model m' =>
    rw [Monitor.recording, hc] at hm
    obtain rfl := Classifier.model.inj hm
    exact (h m' hc).recording

/-- **The log holds true answers** if the scorer answers as the oracle does. -/
theorem log_follows {good : σ → Prop} {oracle : String → List Float32 → Answer}
    (h : monitor.Follows good oracle) (hx : good x) (events : List Event) :
    ∀ e ∈ monitor.log x events, e.answer = oracle e.model e.features :=
  (h.recording.good_after ⟨hx, by simp⟩ events).2

/-! ### What is asked, event by event -/

def asked (monitor : Monitor σ) (p : Packet) (s : FlowState) (x : σ) : List Exchange :=
  match s.latched, monitor.classifier with
  | none, .model m =>
    if monitor.settings.asks m.window s p then [m.exchange (m.window.collect s p) x] else []
  | _, _ => []

/-- What the scorer is asked when the host ends a flow. -/
def askedLast (monitor : Monitor σ) (s : FlowState) (x : σ) : List Exchange :=
  match s.latched, monitor.classifier with
  | none, .model m => if monitor.settings.asksEarly s then [m.exchange s x] else []
  | _, _ => []

lemma recording_classifier {m : ModelClassifier σ} (hc : monitor.classifier = .model m) :
    monitor.recording.classifier = .model ⟨m.name, m.window, m.rules, m.scorer.recording⟩ := by
  rw [recording, hc]
  rfl

lemma score_recorded (monitor : Monitor σ) (m : ModelClassifier σ) (s : FlowState) (tally : Tally)
    (x : σ) :
    (monitor.recording.score ⟨m.name, m.window, m.rules, m.scorer.recording⟩ s tally
      (x, [])).scorer.2 = [m.exchange s x] := by
  simp only [score, Scorer.recording, List.nil_append, ModelClassifier.exchange]
  cases (m.scorer.score x m.name (m.window.flatten s.window)).1 with
  | ok probabilities => rfl
  | error cause => rfl

lemma judge_recorded (p : Packet) (s : FlowState) (tally : Tally) :
    (monitor.recording.judge p s tally (x, [])).scorer.2 = monitor.asked p s x := by
  unfold asked
  cases hlatch : s.latched with
  | some v => rw [judge_of_latched hlatch]
  | none =>
    cases hc : monitor.classifier with
    | fingerprint f =>
      have hc' : monitor.recording.classifier = .fingerprint f := by rw [recording, hc]; rfl
      rw [judge_of_fingerprint hc' hlatch]
    | model m =>
      have hc' := recording_classifier hc
      cases hask : monitor.settings.asks m.window s p with
      | false => rw [judge_of_waiting hc' hlatch hask]; simp [hask]
      | true =>
        rw [judge_of_asking hc' hlatch hask, score_recorded]
        simp [hask]

lemma lastVerdict_recorded (s : FlowState) :
    (monitor.recording.lastVerdict state.unasked s).2.scorer.2 =
      monitor.askedLast s state.scorer := by
  unfold askedLast
  cases hlatch : s.latched with
  | some v => rw [lastVerdict_of_latched hlatch]; rfl
  | none =>
    cases hc : monitor.classifier with
    | fingerprint f =>
      have hc' : monitor.recording.classifier = .fingerprint f := by rw [recording, hc]; rfl
      rw [lastVerdict_of_fingerprint hc' hlatch]
      rfl
    | model m =>
      have hc' := recording_classifier hc
      cases hask : monitor.settings.asksEarly s with
      | false =>
        rw [lastVerdict_of_silent hc' hlatch hask]
        simp [State.unasked]
      | true =>
        have hscore := score_recorded monitor m s state.tally state.scorer
        rw [lastVerdict_of_asking hc' hlatch hask]
        simp only [if_true]
        exact hscore

lemma exchanges_of_stopped {p : Packet} {v : Verdict} (h : monitor.portVerdict? p = some v)
    (now : Nat) : monitor.exchanges state (.packet p now) = [] := by
  have h' : monitor.recording.portVerdict? p = some v := h
  simp only [exchanges, respond, process_of_stopped h', State.unasked]

lemma exchanges_of_packet (hs : state.flows.Live) {p : Packet}
    (h : monitor.portVerdict? p = none) (now : Nat) :
    monitor.exchanges state (.packet p now) =
      monitor.asked p (state.arrival p now) state.scorer := by
  have hs' : state.unasked.flows.Live := hs
  have h' : monitor.recording.portVerdict? p = none := h
  have hlog := congrArg Prod.snd (processed hs' h' now).scorer_eq
  exact hlog.trans (judge_recorded p (state.arrival p now) _)

lemma exchanges_of_absent {flow : FlowId} (h : state.flows.lookup flow = none) :
    monitor.exchanges state (.close flow) = [] := by
  have h' : state.unasked.flows.lookup flow = none := h
  simp only [exchanges, respond, close_of_absent h']
  rfl

lemma exchanges_of_close (hs : state.flows.Live) {flow : FlowId} {s : FlowState}
    (h : state.flows.lookup flow = some s) :
    monitor.exchanges state (.close flow) = monitor.askedLast s state.scorer := by
  have hs' : state.unasked.flows.Live := hs
  have h' : state.unasked.flows.lookup flow = some s := h
  have hc : Closed monitor.recording state.unasked flow s _ := closed hs' h'
  exact (congrArg Prod.snd hc.scorer_eq).trans (lastVerdict_recorded s)

@[simp] lemma exchanges_of_sweep (now : Nat) : monitor.exchanges state (.sweep now) = [] := rfl

end Monitor

end FlowVerdict
