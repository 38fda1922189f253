import FlowVerdict.Scoring.Pool
import Mathlib.Tactic.Lemma

/-!
Scorers compared. Two scorers are in step when related states give the same answers and related
states again; a scorer that writes down what it is asked is in step with the scorer it asks, and a
pool over a source that always answers in time is in step with the answers alone.
-/

namespace FlowVerdict

structure Exchange where
  model : String
  features : List Float32
  answer : Answer

namespace Scorer

variable {σ τ : Type}

/-- The scorers give the same answers in related states, and related states after them. -/
def InStep (R : σ → τ → Prop) (a : Scorer σ) (b : Scorer τ) : Prop :=
  ∀ s t model features, R s t →
    (a.score s model features).1 = (b.score t model features).1 ∧
    R (a.score s model features).2 (b.score t model features).2

def recording (scorer : Scorer σ) : Scorer (σ × List Exchange) where
  score s model features :=
    let (answer, t) := scorer.score s.1 model features
    (answer, (t, s.2 ++ [⟨model, features, answer⟩]))
  shape := scorer.shape

lemma inStep_recording (scorer : Scorer σ) :
    InStep (fun s t => t.1 = s) scorer scorer.recording := by
  rintro s ⟨_, log⟩ model features rfl
  exact ⟨rfl, rfl⟩

/-- In its good states the scorer answers as the oracle does, and its states stay good. -/
def Follows (scorer : Scorer σ) (good : σ → Prop) (oracle : String → List Float32 → Answer) :
    Prop :=
  ∀ s model features, good s →
    (scorer.score s model features).1 = oracle model features ∧
    good (scorer.score s model features).2

variable {scorer : Scorer σ} {good : σ → Prop} {oracle : String → List Float32 → Answer}

lemma Follows.inStep (h : scorer.Follows good oracle) :
    InStep (fun s t => good s ∧ good t) scorer scorer := by
  intro s t model features ⟨hs, ht⟩
  obtain ⟨ha, hs'⟩ := h s model features hs
  obtain ⟨hb, ht'⟩ := h t model features ht
  exact ⟨ha.trans hb.symm, hs', ht'⟩

/-- The states of a recording scorer whose log agrees with the oracle. -/
def Faithful (good : σ → Prop) (oracle : String → List Float32 → Answer)
    (s : σ × List Exchange) : Prop :=
  good s.1 ∧ ∀ e ∈ s.2, e.answer = oracle e.model e.features

lemma Follows.recording (h : scorer.Follows good oracle) :
    scorer.recording.Follows (Faithful good oracle) oracle := by
  rintro ⟨s, log⟩ model features ⟨hs, hlog⟩
  obtain ⟨ha, hs'⟩ := h s model features hs
  refine ⟨ha, hs', fun e he => ?_⟩
  rcases List.mem_append.mp he with he | he
  · exact hlog e he
  · rw [List.mem_singleton.mp he]
    exact ha

end Scorer

/-- The source answers every question in time, and what it answers depends on the question alone. -/
def Backend.Answers {σ : Type} (backend : Backend σ) (oracle : String → List Float32 → Answer) :
    Prop :=
  ∀ s model features, (backend.evaluate s model features).1 = .answered (oracle model features)

/-- The pool has lost no worker. -/
def Pool.Whole {σ : Type} (pool : Pool σ) : Prop := pool.lost = 0

lemma Pool.whole_start {σ : Type} (source : σ) : (Pool.start source).Whole := rfl

/-- **The pool is transparent** over a source that answers in time. -/
theorem Pool.follows {σ : Type} {backend : Backend σ} {oracle : String → List Float32 → Answer}
    (h : backend.Answers oracle) (limits : PoolLimits) :
    (Pool.scorer limits backend).Follows Pool.Whole oracle := by
  intro pool model features hlost
  have hfree : pool.lost < max 1 limits.workers := by
    rw [hlost]
    omega
  simp only [Pool.scorer, Pool.ask, hfree, if_true, h pool.source model features]
  exact ⟨trivial, hlost⟩

end FlowVerdict
