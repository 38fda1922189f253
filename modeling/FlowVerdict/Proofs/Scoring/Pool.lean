import FlowVerdict.Scoring.Crew
import Mathlib.Data.List.Basic
import Mathlib.Tactic.Lemma

/-!
A pool asked one question after the other.

As long as an evaluation ends, the pool hands its result on and is as before. Once every worker is
lost, the answers are told by the room that is left in the queue. With one worker the first
evaluation without an end parts the calls into those before it and those after it.
-/

namespace FlowVerdict

open Script (Question)

variable {σ : Type} {limits : PoolLimits} {backend : Backend σ}

/-! ### Evaluations without a pool -/

lemma Attempt.ends_of_ne_hung {attempt : Attempt} (h : attempt ≠ .hung) :
    attempt.answer?.isSome := by
  cases attempt with
  | answered answer | crashed => rfl
  | hung => exact absurd rfl h

namespace Backend

/-- What becomes of the evaluation of a question. -/
def attempt (backend : Backend σ) (x : σ) (q : Question) : Attempt :=
  (backend.evaluate x q.model q.features).1

/-- The source after the evaluation of a question. -/
def next (backend : Backend σ) (x : σ) (q : Question) : σ :=
  (backend.evaluate x q.model q.features).2

/-- What the questions come to if each is evaluated in turn. -/
def attempts (backend : Backend σ) : σ → List Question → List Attempt
  | _, [] => []
  | x, q :: qs => backend.attempt x q :: backend.attempts (backend.next x q) qs

def sourceAfter (backend : Backend σ) (x : σ) (qs : List Question) : σ :=
  qs.foldl backend.next x

lemma attempts_append (x : σ) (qs more : List Question) :
    backend.attempts x (qs ++ more) =
      backend.attempts x qs ++ backend.attempts (backend.sourceAfter x qs) more := by
  induction qs generalizing x with
  | nil => rfl
  | cons q qs ih => simp only [List.cons_append, attempts, ih, sourceAfter, List.foldl_cons]

@[simp] lemma length_attempts (x : σ) (qs : List Question) :
    (backend.attempts x qs).length = qs.length := by
  induction qs generalizing x with
  | nil => rfl
  | cons q qs ih => simp only [attempts, List.length_cons, ih]

/-- The first evaluation that never ends parts the questions. -/
lemma split_at_hung (x : σ) {qs : List Question} {b : Nat}
    (hhung : (backend.attempts x qs)[b]? = some .hung)
    (hfirst : ∀ i < b, (backend.attempts x qs)[i]? ≠ some .hung) :
    ∃ before q rest, qs = before ++ q :: rest ∧ b = before.length ∧
      (∀ attempt ∈ backend.attempts x before, attempt.answer?.isSome) ∧
      backend.attempt (backend.sourceAfter x before) q = .hung := by
  have hb : b < qs.length := by
    have hlt := (List.getElem?_eq_some_iff.mp hhung).1
    rwa [length_attempts] at hlt
  obtain ⟨before, q, rest, rfl, rfl⟩ : ∃ before q rest, qs = before ++ q :: rest ∧
      b = before.length :=
    ⟨qs.take b, qs[b], qs.drop (b + 1), by simp, by simp [Nat.le_of_lt hb]⟩
  have hlength : (backend.attempts x before).length = before.length := backend.length_attempts ..
  rw [attempts_append] at hhung hfirst
  refine ⟨before, q, rest, rfl, rfl, ?_, ?_⟩
  · intro attempt hmem
    obtain ⟨i, hi, rfl⟩ := List.mem_iff_getElem.mp hmem
    refine Attempt.ends_of_ne_hung fun hbad => hfirst i (hlength ▸ hi) ?_
    rw [List.getElem?_append_left hi, List.getElem?_eq_getElem hi, hbad]
  · rw [List.getElem?_append_right (Nat.le_of_eq hlength), hlength, Nat.sub_self] at hhung
    exact Option.some.inj hhung

end Backend

namespace Pool

/-- There is a worker left that is not lost. -/
def Manned (limits : PoolLimits) (pool : Pool σ) : Prop := pool.lost < max 1 limits.workers

instance (limits : PoolLimits) (pool : Pool σ) : Decidable (pool.Manned limits) :=
  inferInstanceAs (Decidable (_ < _))

/-- The answers to the questions, asked one after the other, and the pool after them. -/
def askAll (limits : PoolLimits) (backend : Backend σ) (pool : Pool σ) :
    List Question → List Answer × Pool σ
  | [] => ([], pool)
  | q :: qs =>
    let (answer, pool) := ask limits backend pool q.model q.features
    let (answers, pool) := askAll limits backend pool qs
    (answer :: answers, pool)

/-- The questions of a sequence that are put to the source. -/
def passedOn (limits : PoolLimits) (backend : Backend σ) (pool : Pool σ) :
    List Question → List Question
  | [] => []
  | q :: qs =>
    (if pool.Manned limits then [q] else []) ++
      passedOn limits backend (ask limits backend pool q.model q.features).2 qs

variable {pool : Pool σ} {q : Question} {qs : List Question}

/-! ### One question -/

lemma ask_of_manned (backend : Backend σ) (q : Question) (hm : pool.Manned limits) :
    ask limits backend pool q.model q.features =
      match backend.attempt pool.source q with
      | .answered answer => (answer, { pool with source := backend.next pool.source q })
      | .crashed =>
        (.error (.evaluation "model panicked"), { pool with source := backend.next pool.source q })
      | .hung =>
        (.error (.timeout limits.allowed),
          { pool with source := backend.next pool.source q, lost := pool.lost + 1 }) := by
  have hlost : pool.lost < max 1 limits.workers := hm
  simp only [ask, if_pos hlost]
  rfl

lemma ask_of_answer {answer : Answer} (hm : pool.Manned limits)
    (h : (backend.attempt pool.source q).answer? = some answer) :
    ask limits backend pool q.model q.features =
      (answer, { pool with source := backend.next pool.source q }) := by
  rw [ask_of_manned backend q hm]
  cases hattempt : backend.attempt pool.source q with
  | answered a | crashed =>
    rw [hattempt] at h
    cases h
    rfl
  | hung =>
    rw [hattempt] at h
    cases h

lemma ask_of_hung (hm : pool.Manned limits) (h : (backend.attempt pool.source q).answer? = none) :
    ask limits backend pool q.model q.features =
      (.error (.timeout limits.allowed),
        { pool with source := backend.next pool.source q, lost := pool.lost + 1 }) := by
  rw [ask_of_manned backend q hm]
  cases hattempt : backend.attempt pool.source q with
  | answered a | crashed =>
    rw [hattempt] at h
    cases h
  | hung => rfl

lemma ask_of_waiting (backend : Backend σ) (q : Question) (hm : ¬ pool.Manned limits)
    (hroom : pool.waiting < limits.queueDepth) :
    ask limits backend pool q.model q.features =
      (.error (.timeout limits.allowed), { pool with waiting := pool.waiting + 1 }) := by
  have hlost : ¬ pool.lost < max 1 limits.workers := hm
  simp only [ask, if_neg hlost, if_pos hroom]

lemma ask_of_full (backend : Backend σ) (q : Question) (hm : ¬ pool.Manned limits)
    (hfull : limits.queueDepth ≤ pool.waiting) :
    ask limits backend pool q.model q.features = (.error .busy, pool) := by
  have hlost : ¬ pool.lost < max 1 limits.workers := hm
  simp only [ask, if_neg hlost, if_neg (Nat.not_lt.mpr hfull)]

/-! ### Many questions -/

lemma askAll_append (more : List Question) :
    askAll limits backend pool (qs ++ more) =
      ((askAll limits backend pool qs).1 ++
          (askAll limits backend (askAll limits backend pool qs).2 more).1,
        (askAll limits backend (askAll limits backend pool qs).2 more).2) := by
  induction qs generalizing pool with
  | nil => rfl
  | cons q qs ih => simp only [List.cons_append, askAll, ih]

lemma passedOn_append (more : List Question) :
    passedOn limits backend pool (qs ++ more) =
      passedOn limits backend pool qs ++
        passedOn limits backend (askAll limits backend pool qs).2 more := by
  induction qs generalizing pool with
  | nil => rfl
  | cons q qs ih => simp only [List.cons_append, passedOn, askAll, ih, List.append_assoc]

/-- **Transparency.** As long as every evaluation ends, each call gets its result. -/
theorem askAll_of_ends (hm : pool.Manned limits) {qs : List Question}
    (hends : ∀ attempt ∈ backend.attempts pool.source qs, attempt.answer?.isSome) :
    (askAll limits backend pool qs).1.map some =
        (backend.attempts pool.source qs).map Attempt.answer? ∧
      (askAll limits backend pool qs).2 =
        { pool with source := backend.sourceAfter pool.source qs } ∧
      passedOn limits backend pool qs = qs := by
  induction qs generalizing pool with
  | nil => exact ⟨rfl, rfl, rfl⟩
  | cons q qs ih =>
    simp only [Backend.attempts, List.forall_mem_cons] at hends
    obtain ⟨answer, hanswer⟩ := Option.isSome_iff_exists.mp hends.1
    have hask := ask_of_answer hm hanswer
    obtain ⟨hanswers, hpool, hpassed⟩ :=
      @ih (ask limits backend pool q.model q.features).2 (hask ▸ hm) (hask ▸ hends.2)
    simp only [hask] at hanswers hpool hpassed
    simp only [askAll, passedOn, Backend.attempts, Backend.sourceAfter, List.map_cons, hask,
      hanswer, hanswers, hpool, hpassed, if_pos hm, List.foldl_cons, List.singleton_append]
    exact ⟨trivial, trivial, trivial⟩

lemma askAll_of_unmanned (backend : Backend σ) (hm : ¬ pool.Manned limits)
    (qs : List Question) :
    (askAll limits backend pool qs).1 =
        List.replicate (min (limits.queueDepth - pool.waiting) qs.length)
            (.error (.timeout limits.allowed)) ++
          List.replicate (qs.length - (limits.queueDepth - pool.waiting)) (.error .busy) ∧
      passedOn limits backend pool qs = [] := by
  induction qs generalizing pool with
  | nil => simp [askAll, passedOn]
  | cons q qs ih =>
    by_cases hroom : pool.waiting < limits.queueDepth
    · have hask := ask_of_waiting backend q hm hroom
      obtain ⟨hanswers, hpassed⟩ := @ih { pool with waiting := pool.waiting + 1 } hm
      simp only [askAll, passedOn, hask, hanswers, hpassed, if_neg hm]
      obtain ⟨room, hroom'⟩ : ∃ room, limits.queueDepth - pool.waiting = room + 1 :=
        ⟨limits.queueDepth - pool.waiting - 1, by omega⟩
      have hless : limits.queueDepth - (pool.waiting + 1) = room := by omega
      simp [hroom', hless, Nat.succ_min_succ, List.replicate_succ]
    -- The queue is full, and stays so.
    · have hask := ask_of_full backend q hm (Nat.not_lt.mp hroom)
      obtain ⟨hanswers, hpassed⟩ := ih hm
      have hnone : limits.queueDepth - pool.waiting = 0 := by omega
      simp only [hnone] at hanswers
      simp only [askAll, passedOn, hask, hanswers, hpassed, if_neg hm, hnone]
      simp [List.replicate_succ]

/-! ### One worker -/

/-- The first evaluation without an end takes the only worker away. -/
lemma askAll_of_blocked (hone : limits.workers ≤ 1) (x : σ) {before : List Question}
    (hends : ∀ attempt ∈ backend.attempts x before, attempt.answer?.isSome)
    (hhung : backend.attempt (backend.sourceAfter x before) q = .hung)
    (rest : List Question) :
    ∃ answers, answers.map some = (backend.attempts x before).map Attempt.answer? ∧
      (askAll limits backend (.start x) (before ++ q :: rest)).1 =
        answers ++
          List.replicate (min limits.queueDepth rest.length + 1)
            (.error (.timeout limits.allowed)) ++
          List.replicate (rest.length - limits.queueDepth) (.error .busy) ∧
      passedOn limits backend (.start x) (before ++ q :: rest) = before ++ [q] := by
  have hworkers : max 1 limits.workers = 1 := by omega
  have hm (y : σ) : (Pool.start y).Manned limits := by simp [Manned, Pool.start, hworkers]
  obtain ⟨hanswers, hpool, hpassed⟩ := askAll_of_ends (hm x) hends
  change (askAll limits backend (.start x) before).2 =
    .start (backend.sourceAfter x before) at hpool
  have hq := ask_of_hung (hm (backend.sourceAfter x before)) (congrArg Attempt.answer? hhung)
  have hlost : ¬ (ask limits backend (.start (backend.sourceAfter x before)) q.model
      q.features).2.Manned limits := by
    rw [hq]
    simp [Manned, Pool.start, hworkers]
  obtain ⟨hrest, hnone⟩ := askAll_of_unmanned backend hlost rest
  -- Three stretches: the calls before, the one that never ends, and those that nobody serves.
  refine ⟨(askAll limits backend (.start x) before).1, hanswers, ?_, ?_⟩
  · rw [askAll_append, hpool]
    simp only [askAll, hrest]
    rw [hq]
    simp only [Pool.start, List.replicate_succ, List.cons_append, List.append_assoc, Nat.sub_zero]
  · rw [passedOn_append, hpassed, hpool]
    simp only [passedOn, hnone, if_pos (hm _), List.append_nil]

/-- What the calls of a sequence return if the evaluation of call `b`, and no earlier one, never
ends. -/
structure Blocked (limits : PoolLimits) (attempts : List Attempt) (b : Nat)
    (answers : List Answer) : Prop where
  /-- A call before it gets what its own evaluation comes to. -/
  ends : ∀ i < b, ∃ answer, (attempts[i]?).bind Attempt.answer? = some answer ∧
    answers[i]? = some answer
  /-- The call, and as many after it as the queue has places, run out of time. -/
  timeout : ∀ i < attempts.length, b ≤ i → i ≤ b + limits.queueDepth →
    answers[i]? = some (.error (.timeout limits.allowed))
  /-- Every call after these is refused. -/
  busy : ∀ i < attempts.length, b + limits.queueDepth < i → answers[i]? = some (.error .busy)

lemma Blocked.of_append (limits : PoolLimits) {before : List Attempt} {answers : List Answer}
    (hanswers : answers.map some = before.map Attempt.answer?) (rest : List Attempt) :
    Blocked limits (before ++ .hung :: rest) before.length
      (answers ++
        List.replicate (min limits.queueDepth rest.length + 1)
          (.error (.timeout limits.allowed)) ++
        List.replicate (rest.length - limits.queueDepth) (.error .busy)) := by
  have hlength : answers.length = before.length := by
    have hmap := congrArg List.length hanswers
    rwa [List.length_map, List.length_map] at hmap
  refine ⟨fun i hi => ?ends, fun i hi hle hle' => ?timeout, fun i hi hlt => ?busy⟩
  case ends =>
    have hi' : i < answers.length := hlength ▸ hi
    have hmap := congrArg (·[i]?) hanswers
    simp only [List.getElem?_map, List.getElem?_eq_getElem hi, List.getElem?_eq_getElem hi',
      Option.map_some, Option.some_inj] at hmap
    refine ⟨answers[i], ?_, by simp [hi', List.getElem?_append]⟩
    rw [List.getElem?_append_left hi, List.getElem?_eq_getElem hi, Option.bind_some, hmap]
  case timeout =>
    simp only [List.length_append, List.length_cons] at hi
    rw [List.append_assoc, List.getElem?_append_right (by omega), List.getElem?_append_left
      (by simp only [List.length_replicate]; omega), List.getElem?_replicate_of_lt (by omega)]
  case busy =>
    simp only [List.length_append, List.length_cons] at hi
    rw [List.append_assoc, List.getElem?_append_right (by omega), List.getElem?_append_right
      (by simp only [List.length_replicate]; omega), List.getElem?_replicate_of_lt
      (by simp only [List.length_replicate]; omega)]

theorem blocked_of_first (hone : limits.workers ≤ 1) (x : σ) {b : Nat}
    (hhung : (backend.attempts x qs)[b]? = some .hung)
    (hfirst : ∀ i < b, (backend.attempts x qs)[i]? ≠ some .hung) :
    Blocked limits (backend.attempts x qs) b (askAll limits backend (.start x) qs).1 ∧
      passedOn limits backend (.start x) qs = qs.take (b + 1) := by
  obtain ⟨before, q, rest, rfl, rfl, hends, hq⟩ := Backend.split_at_hung x hhung hfirst
  obtain ⟨answers, hanswers, hall, hpassed⟩ := askAll_of_blocked hone x hends hq rest
  have hrest := backend.length_attempts
    (backend.next (backend.sourceAfter x before) q) rest
  have hblocked := Blocked.of_append limits hanswers (backend.attempts
    (backend.next (backend.sourceAfter x before) q) rest)
  rw [hrest, backend.length_attempts] at hblocked
  rw [Backend.attempts_append, hall, hpassed, List.take_length_add_append]
  simp only [Backend.attempts, hq]
  exact ⟨hblocked, rfl⟩

end Pool

end FlowVerdict
