import FlowVerdict.Proofs.Scoring.Crew

/-!
A crew answers the calls that are made one after the other as its pool does.

The pool counts what the crew is left with between two calls: the workers that are stuck, and the
requests that nobody is there to take. This is kept by every call, in every execution, so what the
pool answers is what the callers get.
-/

namespace FlowVerdict

open Script (Question)

/-- The worker is in an evaluation that never ends. -/
def Worker.isStuck : Worker → Bool
  | .stuck => true
  | _ => false

namespace Crew

variable {σ : Type} {limits : PoolLimits} {backend : Backend σ} {s t : Crew σ} {q : Question}
  {j : Nat} {pool : Pool σ}

/-- The crew stands between two calls as the pool says. -/
structure Represents (limits : PoolLimits) (s : Crew σ) (pool : Pool σ) : Prop where
  source_eq : s.source = pool.source
  length_workers : s.workers.length = max 1 limits.workers
  quiet : s.Quiet
  stuck_eq : s.workers.countP Worker.isStuck = pool.lost
  waiting_eq : s.queue.length = pool.waiting
  /-- Requests are left in the queue only if no worker is there to take them. -/
  queue_eq : pool.Manned limits → s.queue = []
  /-- Only calls of the past have been replied to. -/
  replies_lt : ∀ r ∈ s.replies, r.1 < s.calls

lemma represents_start (limits : PoolLimits) (x : σ) :
    (start limits x).Represents limits (.start x) where
  source_eq := rfl
  length_workers := List.length_replicate
  quiet _ hw := .inl (List.eq_of_mem_replicate hw)
  stuck_eq := by simp [start, Pool.start, List.countP_replicate, Worker.isStuck]
  waiting_eq := rfl
  queue_eq _ := rfl
  replies_lt := by simp [start]

lemma Represents.manned_iff (hr : s.Represents limits pool) :
    pool.Manned limits ↔ ∃ j : Nat, s.workers[j]? = some .receiving := by
  rw [Pool.Manned, ← hr.stuck_eq, ← hr.length_workers]
  constructor
  · intro hlt
    by_contra hnone
    refine Nat.ne_of_lt hlt (List.countP_eq_length.mpr fun w hw => ?_)
    obtain ⟨j, hj⟩ := List.getElem?_of_mem hw
    rcases hr.quiet w hw with rfl | rfl
    · exact absurd ⟨j, hj⟩ hnone
    · rfl
  · rintro ⟨j, hj⟩
    refine Nat.lt_of_le_of_ne List.countP_le_length fun hall => ?_
    have hstuck := List.countP_eq_length.mp hall _ (List.mem_of_getElem? hj)
    cases hstuck

lemma Represents.unanswered (hr : s.Represents limits pool) :
    s.replies.lookup s.calls = none := by
  rw [List.lookup_eq_none_iff]
  exact fun r hmem => by simpa using Nat.ne_of_gt (hr.replies_lt r hmem)

lemma Represents.ready (hr : s.Represents limits pool) (hm : pool.Manned limits) : s.Ready where
  quiet := hr.quiet
  queue_eq := hr.queue_eq hm
  free := hr.manned_iff.mp hm
  unanswered := hr.unanswered

lemma Represents.atRest_of_unmanned (hr : s.Represents limits pool) (hm : ¬ pool.Manned limits)
    (hworkers : t.workers = s.workers) : t.AtRest backend := by
  rintro u ⟨i, hi⟩
  have hnone : t.advance backend i = none := by
    unfold advance
    rw [hworkers]
    cases hw : s.workers[i]? with
    | none => rfl
    | some w =>
      rcases hr.quiet.of_getElem? hw with rfl | rfl
      · exact absurd (hr.manned_iff.mpr ⟨i, hw⟩) hm
      · rfl
  rw [hnone] at hi
  cases hi

lemma Represents.atRest (hr : s.Represents limits pool) : s.AtRest backend := by
  by_cases hm : pool.Manned limits
  · exact hr.quiet.atRest (hr.queue_eq hm)
  · exact hr.atRest_of_unmanned hm rfl

lemma Represents.replied (hr : s.Represents limits pool) (hm : pool.Manned limits)
    (answer : Answer) : (s.replied backend q answer).Represents limits
      { pool with source := backend.next pool.source q } where
  source_eq := by rw [Crew.replied, hr.source_eq]
  length_workers := hr.length_workers
  quiet := hr.quiet
  stuck_eq := hr.stuck_eq
  waiting_eq := hr.waiting_eq
  queue_eq _ := hr.queue_eq hm
  replies_lt := by
    intro r hmem
    rcases List.mem_cons.mp hmem with rfl | hmem
    · exact Nat.lt_succ_self _
    · exact Nat.lt_succ_of_lt (hr.replies_lt r hmem)

lemma Represents.tried (hr : s.Represents limits pool) (hm : pool.Manned limits)
    (hj : s.workers[j]? = some .receiving)
    (hhung : (backend.attempt s.source q).answer? = none) :
    (s.tried backend j q).Represents limits
      { pool with
        source := backend.next pool.source q
        lost := pool.lost + 1 } where
  source_eq := by rw [Crew.tried, hr.source_eq]
  length_workers := by simp [Crew.tried, hr.length_workers]
  quiet := hr.quiet.tried hhung j
  stuck_eq := by
    obtain ⟨hlt, hget⟩ := List.getElem?_eq_some_iff.mp hj
    simp [Crew.tried, Worker.afterwards, hhung, List.countP_set hlt, hget, Worker.isStuck,
      hr.stuck_eq]
  waiting_eq := hr.waiting_eq
  queue_eq _ := hr.queue_eq hm
  replies_lt r hmem := Nat.lt_succ_of_lt (hr.replies_lt r hmem)

lemma Represents.send (hr : s.Represents limits pool) (hm : ¬ pool.Manned limits) :
    (s.send q).Represents limits { pool with waiting := pool.waiting + 1 } where
  source_eq := hr.source_eq
  length_workers := hr.length_workers
  quiet := hr.quiet
  stuck_eq := hr.stuck_eq
  waiting_eq := by simp [Crew.send, hr.waiting_eq]
  queue_eq hm' := absurd hm' hm
  replies_lt r hmem := Nat.lt_succ_of_lt (hr.replies_lt r hmem)

/-- **Every call of the crew is answered as the pool answers it.** -/
theorem Represents.call (hr : s.Represents limits pool) (hdepth : 1 ≤ limits.queueDepth)
    {answer : Answer} (h : Call limits backend s q answer t) :
    answer = (pool.ask limits backend q.model q.features).1 ∧
      t.Represents limits (pool.ask limits backend q.model q.features).2 ∧
      t.entered = s.entered ++ if pool.Manned limits then [q] else [] := by
  by_cases hm : pool.Manned limits
  · cases h with
    | refused full =>
      -- With a worker free the queue is empty between calls.
      rw [hr.queue_eq hm] at full
      exact absurd (Nat.le_trans hdepth full) (Nat.not_succ_le_zero 0)
    | accepted room steps returns =>
      rw [if_pos hm]
      cases (hr.ready hm).served steps returns with
      | replied ends =>
        rw [Pool.ask_of_answer hm (hr.source_eq ▸ ends)]
        exact ⟨rfl, hr.replied hm answer, rfl⟩
      | stuck free hung =>
        rw [Pool.ask_of_hung hm (hr.source_eq ▸ hung)]
        exact ⟨rfl, hr.tried hm free hung, rfl⟩
  · rw [if_neg hm, List.append_nil]
    cases h with
    | refused full =>
      rw [Pool.ask_of_full backend q hm (hr.waiting_eq ▸ full)]
      exact ⟨rfl, hr, rfl⟩
    | accepted room steps returns =>
      -- Nobody is left to take the request: no step is possible, and the time runs out.
      have hrest : (s.send q).AtRest backend := hr.atRest_of_unmanned hm rfl
      rw [Pool.ask_of_waiting backend q hm (hr.waiting_eq ▸ room)]
      rw [Steps.eq_of_atRest hrest steps] at returns ⊢
      refine ⟨?_, hr.send hm, rfl⟩
      cases returns with
      | reply sent =>
        rw [show (s.send q).replies = s.replies from rfl, hr.unanswered] at sent
        cases sent
      | expiry => rfl

theorem Represents.calls (hr : s.Represents limits pool) (hdepth : 1 ≤ limits.queueDepth)
    {qs : List Question} {answers : List Answer} (h : Calls limits backend s qs answers t) :
    answers = (pool.askAll limits backend qs).1 ∧
      t.Represents limits (pool.askAll limits backend qs).2 ∧
      t.entered = s.entered ++ pool.passedOn limits backend qs := by
  induction h generalizing pool with
  | nil steps =>
    rw [Steps.eq_of_atRest hr.atRest steps]
    exact ⟨rfl, hr, (List.append_nil _).symm⟩
  | @cons s t u v q qs answer answers steps call rest ih =>
    rw [Steps.eq_of_atRest hr.atRest steps] at call
    obtain ⟨hanswer, hr', hentered⟩ := hr.call hdepth call
    obtain ⟨hanswers, hr'', hentered'⟩ := ih hr'
    refine ⟨?_, hr'', ?_⟩
    · rw [hanswer, hanswers]
      rfl
    · rw [hentered', hentered, List.append_assoc]
      rfl

/-- A call whose request is in the queue returns. -/
lemma Represents.willReturn (hr : s.Represents limits pool) (backend : Backend σ) (q : Question) :
    WillReturn limits backend (s.send q) s.calls := by
  by_cases hm : pool.Manned limits
  · exact (hr.ready hm).willReturn limits backend q
  · exact .now ⟨_, .expiry (hr.atRest_of_unmanned hm rfl) hr.unanswered⟩

lemma Represents.exists_call (hr : s.Represents limits pool) (backend : Backend σ) (q : Question) :
    ∃ answer t, Call limits backend s q answer t := by
  by_cases hroom : s.queue.length < limits.queueDepth
  · obtain ⟨t, hsteps, answer, hreturns⟩ := (hr.willReturn backend q).exists_steps
    exact ⟨answer, t, .accepted hroom hsteps hreturns⟩
  · exact ⟨_, s, .refused (Nat.not_lt.mp hroom)⟩

lemma Represents.exists_calls (hr : s.Represents limits pool) (hdepth : 1 ≤ limits.queueDepth)
    (qs : List Question) : ∃ answers t, Calls limits backend s qs answers t := by
  induction qs generalizing s pool with
  | nil => exact ⟨[], s, .nil .refl⟩
  | cons q qs ih =>
    obtain ⟨answer, t, hcall⟩ := hr.exists_call backend q
    obtain ⟨answers, u, hcalls⟩ := ih (hr.call hdepth hcall).2.1
    exact ⟨answer :: answers, u, .cons .refl hcall hcalls⟩

/-! ### What callers may rely on -/

/-- What callers may rely on who ask one after the other. -/
structure Dependable (limits : PoolLimits) (backend : Backend σ) (x : σ) : Prop where
  /-- Any calls can be made. -/
  exists_calls : ∀ qs, ∃ answers t, Calls limits backend (start limits x) qs answers t
  /-- A call whose request is in the queue returns, however the workers take their steps. -/
  returns : ∀ qs answers s q, Calls limits backend (start limits x) qs answers s →
    s.queue.length < limits.queueDepth → WillReturn limits backend (s.send q) s.calls
  /-- In every execution the answers are those of the pool, and the source is left as the pool leaves
  it. -/
  eq_askAll : ∀ qs answers t, Calls limits backend (start limits x) qs answers t →
    answers = (Pool.askAll limits backend (.start x) qs).1 ∧
      t.source = (Pool.askAll limits backend (.start x) qs).2.source
  /-- If every evaluation ends, each call gets what its own evaluation comes to, and the questions
  are evaluated once each, in order. -/
  transparent : ∀ qs answers t, Calls limits backend (start limits x) qs answers t →
    (∀ attempt ∈ backend.attempts x qs, attempt ≠ .hung) →
      answers.map some = (backend.attempts x qs).map Attempt.answer? ∧ t.entered = qs
  /-- With one worker, the first call `b` whose evaluation never ends decides what all others
  return, and no question after it is evaluated. -/
  blocked : limits.workers ≤ 1 →
    ∀ qs answers t b, Calls limits backend (start limits x) qs answers t →
      (backend.attempts x qs)[b]? = some .hung →
      (∀ i < b, (backend.attempts x qs)[i]? ≠ some .hung) →
        Pool.Blocked limits (backend.attempts x qs) b answers ∧ t.entered = qs.take (b + 1)
  /-- Shapes are those of the source, whatever has become of the workers. -/
  shape : ∀ name, (Pool.scorer limits backend).shape name = backend.shape name

theorem calls_answered (hdepth : 1 ≤ limits.queueDepth) (backend : Backend σ) (x : σ) :
    Dependable limits backend x := by
  have hr := represents_start limits x
  refine ⟨hr.exists_calls hdepth, ?returns, ?eq_askAll, ?transparent, ?blocked, fun _ => rfl⟩
  case returns =>
    intro qs answers s q hcalls _
    exact (hr.calls hdepth hcalls).2.1.willReturn backend q
  case eq_askAll =>
    intro qs answers t hcalls
    obtain ⟨hanswers, hr', -⟩ := hr.calls hdepth hcalls
    exact ⟨hanswers, hr'.source_eq⟩
  case transparent =>
    intro qs answers t hcalls hends
    have hm : (Pool.start x).Manned limits :=
      Nat.lt_of_lt_of_le Nat.zero_lt_one (Nat.le_max_left ..)
    obtain ⟨hanswers, -, hentered⟩ := hr.calls hdepth hcalls
    obtain ⟨hown, -, hpassed⟩ := Pool.askAll_of_ends hm fun attempt hmem =>
      Attempt.ends_of_ne_hung (hends attempt hmem)
    exact ⟨hanswers ▸ hown, hentered.trans hpassed⟩
  case blocked =>
    intro hone qs answers t b hcalls hhung hfirst
    obtain ⟨hanswers, -, hentered⟩ := hr.calls hdepth hcalls
    obtain ⟨hblocked, hpassed⟩ := Pool.blocked_of_first hone x hhung hfirst
    exact ⟨hanswers ▸ hblocked, hentered.trans hpassed⟩

/-- One worker and one place in the queue: an answer, a crash, and an evaluation that never ends. -/
theorem calls_answered_one_worker :
    let limits : PoolLimits := ⟨1, 1, 30⟩
    let backend := Script.backend ⟨[], [.answered (.ok []), .crashed, .hung]⟩
    let questions : List Question := List.replicate 6 ⟨"m", []⟩
    1 ≤ limits.queueDepth ∧ limits.workers ≤ 1 ∧
    ∃ answers crew, Calls limits backend (start limits []) questions answers crew ∧
      answers = [.ok [], .error (.evaluation "model panicked"), .error (.timeout 30),
        .error (.timeout 30), .error .busy, .error .busy] ∧
      crew.entered = questions.take 3 := by
  intro limits backend questions
  have hdependable : Dependable limits backend [] := calls_answered (Nat.le_refl 1) backend []
  obtain ⟨answers, crew, hcalls⟩ := hdependable.exists_calls questions
  have hfirst : ∀ i < 2, (backend.attempts [] questions)[i]? ≠ some .hung := by
    intro i hi hhung
    match i with
    | 0 | 1 => cases hhung
  exact ⟨Nat.le_refl 1, Nat.le_refl 1, answers, crew, hcalls,
    (hdependable.eq_askAll questions answers crew hcalls).1,
    (hdependable.blocked (Nat.le_refl 1) questions answers crew 2 hcalls rfl hfirst).2⟩

end Crew

end FlowVerdict
