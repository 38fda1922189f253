import FlowVerdict.Scoring.Scorer

/-!
A pool of workers that turns a source of evaluations into a scorer: every question is answered
within the time allowed. A worker whose evaluation never ends is lost; once all are lost, questions
wait in the queue until it is full, and further ones are refused at once.
-/

namespace FlowVerdict

/-- The limits of a pool. Even without workers one is at work. The time is in milliseconds. -/
structure PoolLimits where
  workers : Nat
  queueDepth : Nat
  allowed : Nat

/-- A pool at work: the state of its source, the workers lost, and the questions in the queue. -/
structure Pool (σ : Type) where
  source : σ
  lost : Nat
  waiting : Nat

namespace Pool

def start {σ : Type} (source : σ) : Pool σ := ⟨source, 0, 0⟩

def ask {σ : Type} (limits : PoolLimits) (backend : Backend σ) (pool : Pool σ) (model : String)
    (features : List Float32) : Answer × Pool σ :=
  if pool.lost < max 1 limits.workers then
    let (attempt, source) := backend.evaluate pool.source model features
    match attempt with
    | .answered answer => (answer, { pool with source })
    | .crashed => (.error (.evaluation "model panicked"), { pool with source })
    | .hung => (.error (.timeout limits.allowed), { pool with source, lost := pool.lost + 1 })
  else if pool.waiting < limits.queueDepth then
    (.error (.timeout limits.allowed), { pool with waiting := pool.waiting + 1 })
  else (.error .busy, pool)

def scorer {σ : Type} (limits : PoolLimits) (backend : Backend σ) : Scorer (Pool σ) where
  score := ask limits backend
  shape := backend.shape

end Pool

end FlowVerdict
