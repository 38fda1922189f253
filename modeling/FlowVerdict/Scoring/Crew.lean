import FlowVerdict.Scoring.Pool
import FlowVerdict.Scoring.Script

/-!
The crew of a pool: workers that take requests from one bounded queue and send the reply to each on
a channel of its own. The crew advances one worker at a time, whichever can take a step.
-/

namespace FlowVerdict

open Script (Question)

/-- A request in the queue: a question, and the number of the call that waits for the reply. -/
structure Request where
  call : Nat
  question : Question

inductive Worker where
  /-- It waits for a request. -/
  | receiving
  /-- It has taken a request, and its evaluation is about to begin. -/
  | serving (request : Request)
  /-- The evaluation has ended, and the reply is about to be sent. -/
  | replying (call : Nat) (answer : Answer)
  /-- It is in an evaluation that never ends. -/
  | stuck

/-- What an attempt is to the caller, if it ends. -/
def Attempt.answer? : Attempt → Option Answer
  | .answered answer => some answer
  | .crashed => some (.error (.evaluation "model panicked"))
  | .hung => none

/-- A worker whose evaluation was tried. -/
def Worker.afterwards (call : Nat) (attempt : Attempt) : Worker :=
  match attempt.answer? with
  | some answer => .replying call answer
  | none => .stuck

/-- A crew at work on the evaluations of a source. -/
structure Crew (σ : Type) where
  source : σ
  /-- The questions whose evaluations have begun, in order. -/
  entered : List Question
  /-- The requests that no worker has taken. -/
  queue : List Request
  workers : List Worker
  /-- The replies on the channels of the calls. -/
  replies : List (Nat × Answer)
  /-- The number of calls that put a request into the queue. -/
  calls : Nat

namespace Crew

variable {σ : Type}

def start (limits : PoolLimits) (source : σ) : Crew σ where
  source := source
  entered := []
  queue := []
  workers := List.replicate (max 1 limits.workers) .receiving
  replies := []
  calls := 0

def send (s : Crew σ) (question : Question) : Crew σ :=
  { s with queue := s.queue ++ [⟨s.calls, question⟩], calls := s.calls + 1 }

/-- The crew after the next step of a worker, if it can take one. A reply that nobody waits for any
more stays on its channel. -/
def advance (backend : Backend σ) (s : Crew σ) (i : Nat) : Option (Crew σ) :=
  match s.workers[i]? with
  | some .receiving =>
    match s.queue with
    | request :: queue => some { s with queue, workers := s.workers.set i (.serving request) }
    | [] => none
  | some (.serving ⟨call, question⟩) =>
    let (attempt, source) := backend.evaluate s.source question.model question.features
    some { s with
      source
      entered := s.entered ++ [question]
      workers := s.workers.set i (.afterwards call attempt) }
  | some (.replying call answer) =>
    some { s with
      workers := s.workers.set i .receiving
      replies := (call, answer) :: s.replies }
  | some .stuck => none
  | none => none

end Crew

end FlowVerdict
