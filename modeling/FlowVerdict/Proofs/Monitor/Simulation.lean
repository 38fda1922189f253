import FlowVerdict.Proofs.Monitor.Step
import FlowVerdict.Proofs.Scoring.Scorer

/-!
Monitors that differ in their scorers only. When the scorers are in step, so are the monitors: they
give the same replies and keep the same flows and counters, event by event.
-/

namespace FlowVerdict.Monitor

variable {σ τ : Type}

/-- The same settings and the same classifier, up to scorers that are in step. -/
inductive Alike (R : σ → τ → Prop) : Monitor σ → Monitor τ → Prop where
  | fingerprint (settings : Settings) (f : Fingerprint) :
    Alike R ⟨settings, .fingerprint f⟩ ⟨settings, .fingerprint f⟩
  | model (settings : Settings) (name : String) (window : WindowShape) (rules : Rules)
    {a : Scorer σ} {b : Scorer τ} (inStep : a.InStep R b) :
    Alike R ⟨settings, .model ⟨name, window, rules, a⟩⟩ ⟨settings, .model ⟨name, window, rules, b⟩⟩

/-- The same flows and counters, and related states of the scorers. -/
structure Matches (R : σ → τ → Prop) (s : State σ) (t : State τ) : Prop where
  flows_eq : s.flows = t.flows
  tally_eq : s.tally = t.tally
  related : R s.scorer t.scorer

/-- The same judgement, and related states of the scorers after it. -/
structure Agrees (R : σ → τ → Prop) (i : Judgement σ) (j : Judgement τ) : Prop where
  verdict_eq : i.verdict = j.verdict
  flow_eq : i.flow = j.flow
  tally_eq : i.tally = j.tally
  related : R i.scorer j.scorer

variable {R : σ → τ → Prop} {a : Monitor σ} {b : Monitor τ} {x : σ} {y : τ}

lemma Alike.settings_eq (h : Alike R a b) : a.settings = b.settings := by
  cases h <;> rfl

lemma score_agrees (settings : Settings) (name : String) (window : WindowShape) (rules : Rules)
    {f : Scorer σ} {g : Scorer τ} (h : f.InStep R g) (flow : FlowState) (tally : Tally)
    (hR : R x y) :
    Agrees R
      (score ⟨settings, .model ⟨name, window, rules, f⟩⟩ ⟨name, window, rules, f⟩ flow tally x)
      (score ⟨settings, .model ⟨name, window, rules, g⟩⟩ ⟨name, window, rules, g⟩ flow tally
        y) := by
  obtain ⟨hanswer, hrel⟩ := h x y name (window.flatten flow.window) hR
  simp only [score, hanswer]
  cases (g.score y name (window.flatten flow.window)).1 with
  | ok probabilities => exact ⟨rfl, rfl, rfl, hrel⟩
  | error cause => exact ⟨rfl, rfl, rfl, hrel⟩

lemma judge_agrees (h : Alike R a b) (p : Packet) (flow : FlowState) (tally : Tally) (hR : R x y) :
    Agrees R (a.judge p flow tally x) (b.judge p flow tally y) := by
  cases hlatch : flow.latched with
  | some v =>
    rw [judge_of_latched hlatch, judge_of_latched hlatch]
    exact ⟨rfl, rfl, rfl, hR⟩
  | none =>
    cases h with
    | fingerprint settings f =>
      rw [judge_of_fingerprint rfl hlatch, judge_of_fingerprint rfl hlatch]
      exact ⟨rfl, rfl, rfl, hR⟩
    | model settings name window rules hstep =>
      cases hask : settings.asks window flow p with
      | false =>
        rw [judge_of_waiting rfl hlatch hask, judge_of_waiting rfl hlatch hask]
        exact ⟨rfl, rfl, rfl, hR⟩
      | true =>
        rw [judge_of_asking rfl hlatch hask, judge_of_asking rfl hlatch hask]
        exact score_agrees settings name window rules hstep _ tally hR

lemma forget_matches {s : State σ} {t : State τ} (h : Matches R s t) (flow : FlowId)
    (ticket : Ticket) : Matches R (s.forget flow ticket) (t.forget flow ticket) := by
  obtain ⟨hflows, htally, hR⟩ := h
  unfold State.forget
  rw [hflows, htally]
  cases t.flows.removeTicket flow ticket with
  | mk gone flows =>
    cases gone with
    | none => exact ⟨hflows, htally, hR⟩
    | some e => exact ⟨rfl, rfl, hR⟩

lemma enter_matches {s : State σ} {t : State τ} (h : Matches R s t) (p : Packet) (now : Nat) :
    (s.enter p now).1 = (t.enter p now).1 ∧ Matches R (s.enter p now).2 (t.enter p now).2 := by
  obtain ⟨hflows, htally, hR⟩ := h
  simp only [State.enter, hflows, htally]
  exact ⟨trivial, rfl, rfl, hR⟩

lemma meet_matches {s : State σ} {t : State τ} (h : Matches R s t) (p : Packet) (now : Nat) :
    (s.meet p now).1 = (t.meet p now).1 ∧ Matches R (s.meet p now).2 (t.meet p now).2 := by
  induction s using State.looks generalizing t with
  | marked s marked ih =>
    obtain ⟨hentry, hentered⟩ := enter_matches h p now
    have hmarked : (t.enter p now).1.state.evicted = true := by
      rw [← hentry]
      exact marked
    rw [State.meet_of_marked marked, State.meet_of_marked hmarked, ← hentry]
    exact ih (forget_matches hentered p.flow _)
  | unmarked s unmarked =>
    obtain ⟨hentry, hentered⟩ := enter_matches h p now
    have hunmarked : (t.enter p now).1.state.evicted = false := by rw [← hentry, unmarked]
    rw [State.meet_of_unmarked unmarked, State.meet_of_unmarked hunmarked]
    exact ⟨hentry, hentered⟩

lemma evict_matches {s : State σ} {t : State τ} (h : Matches R s t) (flow : FlowId)
    (ticket : Ticket) : Matches R (s.evict flow ticket) (t.evict flow ticket) := by
  have hmarked : s.flows.modify ticket FlowState.markEvicted =
      t.flows.modify ticket FlowState.markEvicted := by rw [h.flows_eq]
  have h' : Matches R { s with flows := s.flows.modify ticket FlowState.markEvicted }
      { t with flows := t.flows.modify ticket FlowState.markEvicted } :=
    ⟨hmarked, h.tally_eq, h.related⟩
  exact forget_matches h' flow ticket

lemma observe_matches (h : Alike R a b) {s : State σ} {t : State τ} (hm : Matches R s t)
    (p : Packet) (now : Nat) :
    (a.observe s p now).1 = (b.observe t p now).1 ∧
      Matches R (a.observe s p now).2 (b.observe t p now).2 := by
  obtain ⟨hentry, hmet⟩ := meet_matches hm p now
  unfold observe
  generalize s.meet p now = r at hentry hmet
  generalize t.meet p now = r' at hentry hmet
  obtain ⟨entry, s⟩ := r
  obtain ⟨_, t⟩ := r'
  obtain rfl : entry = _ := hentry
  obtain ⟨hflows, htally, hR⟩ := hmet
  have hj := judge_agrees h p (entry.state.record p now) s.tally hR
  have hlast : a.isLast p = b.isLast p := by funext v; simp only [isLast, h.settings_eq]
  dsimp only at hflows htally hj ⊢
  rw [← htally]
  generalize a.judge p _ _ s.scorer = i at hj
  generalize b.judge p _ _ t.scorer = j at hj
  have hconclude : Matches R (s.conclude entry.ticket i) (t.conclude entry.ticket j) :=
    ⟨by simp only [State.conclude, hj.flow_eq, hflows], hj.tally_eq, hj.related⟩
  refine ⟨hj.verdict_eq, ?_⟩
  rw [hlast, hj.verdict_eq]
  split
  · exact evict_matches hconclude p.flow entry.ticket
  · exact hconclude

lemma process_matches (h : Alike R a b) {s : State σ} {t : State τ} (hm : Matches R s t)
    (p : Packet) (now : Nat) :
    (a.process s p now).1 = (b.process t p now).1 ∧
      Matches R (a.process s p now).2 (b.process t p now).2 := by
  have hports : a.portVerdict? p = b.portVerdict? p := by simp only [portVerdict?, h.settings_eq]
  have hcount : Matches R { s with tally := s.tally.packet p.payload.length }
      { t with tally := t.tally.packet p.payload.length } :=
    ⟨hm.flows_eq, by rw [hm.tally_eq], hm.related⟩
  simp only [process, hports]
  cases b.portVerdict? p with
  | some v => exact ⟨rfl, hm.flows_eq, by rw [hm.tally_eq], hm.related⟩
  | none =>
    obtain ⟨hv, hflows, htally, hR⟩ := observe_matches h hcount p now
    exact ⟨hv, hflows, by rw [htally, hv], hR⟩

lemma lastVerdict_matches (h : Alike R a b) {s : State σ} {t : State τ} (hm : Matches R s t)
    (flow : FlowState) :
    (a.lastVerdict s flow).1 = (b.lastVerdict t flow).1 ∧
      Matches R (a.lastVerdict s flow).2 (b.lastVerdict t flow).2 := by
  cases hlatch : flow.latched with
  | some v =>
    rw [lastVerdict_of_latched hlatch, lastVerdict_of_latched hlatch]
    exact ⟨rfl, hm⟩
  | none =>
    cases h with
    | fingerprint settings f =>
      rw [lastVerdict_of_fingerprint rfl hlatch, lastVerdict_of_fingerprint rfl hlatch]
      exact ⟨rfl, hm⟩
    | model settings name window rules hstep =>
      cases hask : settings.asksEarly flow with
      | false =>
        rw [lastVerdict_of_silent rfl hlatch hask, lastVerdict_of_silent rfl hlatch hask]
        exact ⟨rfl, hm⟩
      | true =>
        have hj := score_agrees settings name window rules hstep flow s.tally hm.related
        rw [lastVerdict_of_asking rfl hlatch hask, lastVerdict_of_asking rfl hlatch hask,
          ← hm.tally_eq]
        exact ⟨congrArg some hj.verdict_eq, hm.flows_eq, hj.tally_eq, hj.related⟩

lemma close_matches (h : Alike R a b) {s : State σ} {t : State τ} (hm : Matches R s t)
    (flow : FlowId) :
    (a.close s flow).1 = (b.close t flow).1 ∧
      Matches R (a.close s flow).2 (b.close t flow).2 := by
  unfold close
  rw [hm.flows_eq]
  cases t.flows.find? flow with
  | none => exact ⟨rfl, hm⟩
  | some entry =>
    obtain ⟨hv, hlast⟩ := lastVerdict_matches h hm entry.state
    dsimp only
    split
    · exact ⟨rfl, hm⟩
    · exact ⟨hv, evict_matches hlast flow entry.ticket⟩

/-- **Scorers in step keep their monitors in step**, over one event. -/
theorem respond_matches (h : Alike R a b) {s : State σ} {t : State τ} (hm : Matches R s t)
    (event : Event) :
    (a.respond s event).1 = (b.respond t event).1 ∧
      Matches R (a.respond s event).2 (b.respond t event).2 := by
  cases event with
  | packet p now =>
    obtain ⟨hv, hm'⟩ := process_matches h hm p now
    exact ⟨congrArg Reply.verdict hv, hm'⟩
  | close flow =>
    obtain ⟨hv, hm'⟩ := close_matches h hm flow
    exact ⟨congrArg Reply.closed hv, hm'⟩
  | sweep now =>
    simp only [respond, sweep, hm.flows_eq, hm.tally_eq, h.settings_eq]
    exact ⟨trivial, rfl, rfl, hm.related⟩

/-- **Scorers in step keep their monitors in step**, over a whole run. -/
theorem run_matches (h : Alike R a b) {s : State σ} {t : State τ} (hm : Matches R s t)
    (events : List Event) :
    (a.run s events).1 = (b.run t events).1 ∧
      Matches R (a.run s events).2 (b.run t events).2 := by
  induction events generalizing s t with
  | nil => exact ⟨rfl, hm⟩
  | cons event events ih =>
    obtain ⟨hreply, hm'⟩ := respond_matches h hm event
    obtain ⟨hreplies, hm''⟩ := ih hm'
    exact ⟨congrArg₂ List.cons hreply hreplies, hm''⟩

/-! ### Monitors that ask an oracle -/

/-- If the monitor asks a model, then its scorer answers as the oracle does. -/
def Follows (monitor : Monitor σ) (good : σ → Prop) (oracle : String → List Float32 → Answer) :
    Prop :=
  ∀ m, monitor.classifier = .model m → m.scorer.Follows good oracle

variable {good : σ → Prop} {oracle : String → List Float32 → Answer}

lemma Follows.alike (h : a.Follows good oracle) : Alike (fun s t => good s ∧ good t) a a := by
  obtain ⟨settings, classifier⟩ := a
  cases classifier with
  | fingerprint f => exact .fingerprint settings f
  | model m => exact .model settings m.name m.window m.rules (h m rfl).inStep

lemma Follows.good_after (h : a.Follows good oracle) (hx : good x) (events : List Event) :
    good (a.after x events).scorer :=
  (run_matches h.alike ⟨rfl, rfl, hx, hx⟩ events).2.related.1

end FlowVerdict.Monitor
