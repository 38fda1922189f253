import FlowVerdict.Proofs.Scoring.Pool
import Mathlib.Logic.Relation

/-!
One call to a crew that is quiet: each worker waits for a request or is stuck.

The workers may take their steps in any order. But the call is served by the one worker that takes
its request, whichever it is, and the others have nothing to do; so the crew passes through the
same few stages in every execution and is quiet again at the end.
-/

namespace FlowVerdict

open Script (Question)

variable {σ : Type} {limits : PoolLimits} {backend : Backend σ}

namespace Crew

/-! ### Executions -/

/-- Some worker takes a step. -/
def Step (backend : Backend σ) (s t : Crew σ) : Prop := ∃ i, s.advance backend i = some t

abbrev Steps (backend : Backend σ) : Crew σ → Crew σ → Prop := Relation.ReflTransGen (Step backend)

/-- No worker can take a step. -/
def AtRest (backend : Backend σ) (s : Crew σ) : Prop := ∀ t, ¬ Step backend s t

/-- What the caller of a call whose request is in the queue gets: the reply, or else, once nothing
more is going to happen, the error that the time is over. Time does not run out before that, since
evaluations that end do so within the time allowed. -/
inductive Returns (limits : PoolLimits) (backend : Backend σ) (s : Crew σ) (call : Nat) :
    Answer → Prop
  | reply {answer : Answer} (sent : s.replies.lookup call = some answer) :
    Returns limits backend s call answer
  | expiry (rest : s.AtRest backend) (missing : s.replies.lookup call = none) :
    Returns limits backend s call (.error (.timeout limits.allowed))

/-- A call from beginning to end, with all that the workers do meanwhile. -/
inductive Call (limits : PoolLimits) (backend : Backend σ) (s : Crew σ) (q : Question) :
    Answer → Crew σ → Prop
  /-- The queue is full. -/
  | refused (full : limits.queueDepth ≤ s.queue.length) : Call limits backend s q (.error .busy) s
  /-- The request is put into the queue. -/
  | accepted (room : s.queue.length < limits.queueDepth) {t : Crew σ} {answer : Answer}
    (steps : Steps backend (s.send q) t) (returns : Returns limits backend t s.calls answer) :
    Call limits backend s q answer t

inductive Calls (limits : PoolLimits) (backend : Backend σ) :
    Crew σ → List Question → List Answer → Crew σ → Prop
  | nil {s t : Crew σ} (steps : Steps backend s t) : Calls limits backend s [] [] t
  | cons {s t u v : Crew σ} {q : Question} {qs : List Question} {answer : Answer}
    {answers : List Answer} (steps : Steps backend s t) (call : Call limits backend t q answer u)
    (rest : Calls limits backend u qs answers v) :
    Calls limits backend s (q :: qs) (answer :: answers) v

/-- However the workers take their steps, the crew comes to have the property. -/
inductive Inevitable (backend : Backend σ) (P : Crew σ → Prop) : Crew σ → Prop
  | now {s : Crew σ} (holds : P s) : Inevitable backend P s
  | later {s : Crew σ} (goes : ∃ t, Step backend s t)
    (each : ∀ t, Step backend s t → Inevitable backend P t) : Inevitable backend P s

/-- However the workers take their steps, the call returns. -/
def WillReturn (limits : PoolLimits) (backend : Backend σ) (s : Crew σ) (call : Nat) : Prop :=
  Inevitable backend (fun t => ∃ answer, Returns limits backend t call answer) s

lemma Inevitable.exists_steps {P : Crew σ → Prop} {s : Crew σ} (h : Inevitable backend P s) :
    ∃ t, Steps backend s t ∧ P t := by
  induction h with
  | now holds => exact ⟨_, .refl, holds⟩
  | later goes _ ih =>
    obtain ⟨u, hstep⟩ := goes
    obtain ⟨t, hsteps, holds⟩ := ih u hstep
    exact ⟨t, .head hstep hsteps, holds⟩

lemma Steps.eq_of_atRest {s t : Crew σ} (hrest : s.AtRest backend) (h : Steps backend s t) :
    t = s := by
  cases h.cases_head with
  | inl heq => exact heq.symm
  | inr hstep => exact absurd hstep.choose_spec.1 (hrest _)

/-! ### The stages of a call -/

/-- Each worker waits for a request or is stuck. -/
def Quiet (s : Crew σ) : Prop := ∀ w ∈ s.workers, w = .receiving ∨ w = .stuck

/-- Worker `j` has taken the request of the next call, before anyone else took a step. -/
def taken (s : Crew σ) (j : Nat) (q : Question) : Crew σ :=
  { s with
    workers := s.workers.set j (.serving ⟨s.calls, q⟩)
    calls := s.calls + 1 }

/-- Worker `j` has tried to evaluate the question. -/
def tried (backend : Backend σ) (s : Crew σ) (j : Nat) (q : Question) : Crew σ :=
  { s with
    source := backend.next s.source q
    entered := s.entered ++ [q]
    workers := s.workers.set j (.afterwards s.calls (backend.attempt s.source q))
    calls := s.calls + 1 }

def replied (backend : Backend σ) (s : Crew σ) (q : Question) (answer : Answer) : Crew σ :=
  { s with
    source := backend.next s.source q
    entered := s.entered ++ [q]
    replies := (s.calls, answer) :: s.replies
    calls := s.calls + 1 }

variable {s t : Crew σ} {q : Question} {i j : Nat}

lemma advance_eq_none (hqueue : s.queue = [])
    (hw : ∀ w, s.workers[i]? = some w → w = .receiving ∨ w = .stuck) :
    s.advance backend i = none := by
  unfold advance
  cases hi : s.workers[i]? with
  | none => rfl
  | some w =>
    rcases hw w hi with rfl | rfl
    · simp only [hqueue]
    · rfl

lemma Quiet.of_getElem? (hquiet : s.Quiet) {w : Worker} (hw : s.workers[i]? = some w) :
    w = .receiving ∨ w = .stuck :=
  hquiet w (List.mem_of_getElem? hw)

lemma Quiet.atRest (hquiet : s.Quiet) (hqueue : s.queue = []) : s.AtRest backend := by
  rintro t ⟨i, hi⟩
  rw [advance_eq_none hqueue fun _ => hquiet.of_getElem?] at hi
  cases hi

/-- In a crew that is quiet but for one worker, only that worker may take a step. -/
lemma Quiet.step_iff (hquiet : s.Quiet) {u : Crew σ} {w : Worker} (hqueue : u.queue = [])
    (hworkers : u.workers = s.workers.set j w) :
    Step backend u t ↔ u.advance backend j = some t := by
  refine ⟨fun ⟨i, hi⟩ => ?_, fun hj => ⟨j, hj⟩⟩
  by_cases hij : j = i
  · exact hij ▸ hi
  · have hnone : u.advance backend i = none := by
      refine advance_eq_none hqueue fun w' hw' => hquiet.of_getElem? (i := i) ?_
      rwa [hworkers, List.getElem?_set_ne hij] at hw'
    rw [hnone] at hi
    cases hi

lemma Quiet.step_send (hquiet : s.Quiet) (hqueue : s.queue = []) :
    Step backend (s.send q) t ↔ ∃ j, s.workers[j]? = some .receiving ∧ t = s.taken j q := by
  refine exists_congr fun j => ?_
  have hworkers : (s.send q).workers = s.workers := rfl
  have hqueue' : (s.send q).queue = [⟨s.calls, q⟩] := by simp [send, hqueue]
  unfold advance
  rw [hworkers, hqueue']
  cases hj : s.workers[j]? with
  | none => simp
  | some w =>
    rcases hquiet.of_getElem? hj with rfl | rfl
    · simp [taken, send, hqueue, eq_comm]
    · simp

lemma Quiet.step_taken (hquiet : s.Quiet) (hj : s.workers[j]? = some .receiving)
    (hqueue : s.queue = []) :
    Step backend (s.taken j q) t ↔ t = s.tried backend j q := by
  have hlt := (List.getElem?_eq_some_iff.mp hj).1
  rw [hquiet.step_iff (u := s.taken j q) hqueue rfl]
  simp [advance, taken, tried, Backend.attempt, Backend.next, hlt, eq_comm]

lemma Quiet.step_tried (hquiet : s.Quiet) (hj : s.workers[j]? = some .receiving)
    (hqueue : s.queue = []) {answer : Answer}
    (hanswer : (backend.attempt s.source q).answer? = some answer) :
    Step backend (s.tried backend j q) t ↔ t = s.replied backend q answer := by
  obtain ⟨hlt, hget⟩ := List.getElem?_eq_some_iff.mp hj
  have hback : s.workers.set j .receiving = s.workers := by
    rw [← hget, List.set_getElem_self]
  rw [hquiet.step_iff (u := s.tried backend j q) hqueue rfl]
  simp [advance, tried, replied, Worker.afterwards, hanswer, hlt, hback, eq_comm]

lemma Quiet.replied (hquiet : s.Quiet) (answer : Answer) :
    (s.replied backend q answer).Quiet := hquiet

lemma Quiet.tried (hquiet : s.Quiet)
    (hhung : (backend.attempt s.source q).answer? = none) (j : Nat) :
    (s.tried backend j q).Quiet := by
  intro w hw
  simp only [Crew.tried, Worker.afterwards, hhung] at hw
  rcases List.mem_or_eq_of_mem_set hw with hw | rfl
  · exact hquiet w hw
  · exact .inr rfl

/-- A worker is free for the next call, nothing else is going on, and nobody has replied to it
yet. -/
structure Ready (s : Crew σ) : Prop where
  quiet : s.Quiet
  queue_eq : s.queue = []
  free : ∃ j : Nat, s.workers[j]? = some .receiving
  unanswered : s.replies.lookup s.calls = none

/-- What the caller of a call gets that some worker served, and how the crew is left. -/
inductive Served (limits : PoolLimits) (backend : Backend σ) (s : Crew σ) (q : Question) :
    Answer → Crew σ → Prop
  | replied {answer : Answer}
    (ends : (backend.attempt s.source q).answer? = some answer) :
    Served limits backend s q answer (s.replied backend q answer)
  | stuck {j : Nat} (free : s.workers[j]? = some .receiving)
    (hung : (backend.attempt s.source q).answer? = none) :
    Served limits backend s q (.error (.timeout limits.allowed)) (s.tried backend j q)

/-- The stages of a call before its end. -/
inductive Underway (backend : Backend σ) (s : Crew σ) (q : Question) : Crew σ → Prop
  | sent : Underway backend s q (s.send q)
  | taken {j : Nat} (free : s.workers[j]? = some .receiving) : Underway backend s q (s.taken j q)
  | tried {j : Nat} {answer : Answer} (free : s.workers[j]? = some .receiving)
    (ends : (backend.attempt s.source q).answer? = some answer) :
    Underway backend s q (s.tried backend j q)

lemma Underway.replies_eq {u : Crew σ} (hu : Underway backend s q u) : u.replies = s.replies := by
  cases hu <;> rfl

section Call

variable {u : Crew σ} {answer : Answer}

lemma Served.quiet (hu : Served limits backend s q answer u) (hquiet : s.Quiet) : u.Quiet := by
  cases hu with
  | replied => exact hquiet.replied _
  | stuck _ hung => exact hquiet.tried hung _

lemma Served.queue_eq (hu : Served limits backend s q answer u) : u.queue = s.queue := by
  cases hu <;> rfl

lemma Ready.returns_iff (hs : s.Ready) (hu : Served limits backend s q answer u)
    {returned : Answer} : Returns limits backend u s.calls returned ↔ returned = answer := by
  have hrest : u.AtRest backend := (hu.quiet hs.quiet).atRest (hu.queue_eq.trans hs.queue_eq)
  cases hu with
  | replied ends =>
    have hsent : (s.replied backend q answer).replies.lookup s.calls = some answer :=
      List.lookup_cons_self
    constructor
    · rintro (⟨sent⟩ | ⟨_, missing⟩)
      · exact Option.some.inj (sent.symm.trans hsent)
      · rw [hsent] at missing
        cases missing
    · rintro rfl
      exact .reply hsent
  | @stuck j free hung =>
    -- A worker that is stuck never replies, so that only time can end the call.
    have hmissing : (s.tried backend j q).replies.lookup s.calls = none := hs.unanswered
    constructor
    · rintro (⟨sent⟩ | _)
      · rw [hmissing] at sent
        cases sent
      · rfl
    · rintro rfl
      exact .expiry hrest hmissing

lemma Ready.goes (hs : s.Ready) (hu : Underway backend s q u) : ∃ t, Step backend u t := by
  cases hu with
  | sent =>
    obtain ⟨j, hj⟩ := hs.free
    exact ⟨_, (hs.quiet.step_send hs.queue_eq).mpr ⟨j, hj, rfl⟩⟩
  | taken hj => exact ⟨_, (hs.quiet.step_taken hj hs.queue_eq).mpr rfl⟩
  | tried hj hends => exact ⟨_, (hs.quiet.step_tried hj hs.queue_eq hends).mpr rfl⟩

/-- Each step brings a call to its next stage. -/
lemma Ready.next (hs : s.Ready) (hu : Underway backend s q u) (hstep : Step backend u t) :
    Underway backend s q t ∨ ∃ answer, Served limits backend s q answer t := by
  cases hu with
  | sent =>
    obtain ⟨j, hj, rfl⟩ := (hs.quiet.step_send hs.queue_eq).mp hstep
    exact .inl (.taken hj)
  | taken hj =>
    rw [(hs.quiet.step_taken hj hs.queue_eq).mp hstep]
    cases hends : (backend.attempt s.source q).answer? with
    | some answer => exact .inl (.tried hj hends)
    | none => exact .inr ⟨_, .stuck hj hends⟩
  | tried hj hends =>
    rw [(hs.quiet.step_tried hj hs.queue_eq hends).mp hstep]
    exact .inr ⟨_, .replied hends⟩

lemma Ready.underway_or_served (limits : PoolLimits) (hs : s.Ready)
    (h : Steps backend (s.send q) u) :
    Underway backend s q u ∨ ∃ answer, Served limits backend s q answer u := by
  induction h with
  | refl => exact .inl .sent
  | tail _ hstep ih =>
    rcases ih with hunder | ⟨answer, hserved⟩
    · exact hs.next hunder hstep
    · exact absurd hstep
        ((hserved.quiet hs.quiet).atRest (hserved.queue_eq.trans hs.queue_eq) _)

lemma Ready.served (hs : s.Ready) (h : Steps backend (s.send q) u)
    (hreturns : Returns limits backend u s.calls answer) :
    Served limits backend s q answer u := by
  rcases hs.underway_or_served limits h with hunder | ⟨given, hserved⟩
  · cases hreturns with
    | reply sent =>
      rw [hunder.replies_eq, hs.unanswered] at sent
      cases sent
    | expiry rest _ =>
      obtain ⟨t, hstep⟩ := hs.goes hunder
      exact absurd hstep (rest t)
  · rw [(hs.returns_iff hserved).mp hreturns]
    exact hserved

lemma Ready.willReturn_of_served (hs : s.Ready) (hu : Served limits backend s q answer u) :
    WillReturn limits backend u s.calls :=
  .now ⟨answer, (hs.returns_iff hu).mpr rfl⟩

lemma Ready.willReturn (hs : s.Ready) (limits : PoolLimits) (backend : Backend σ) (q : Question) :
    WillReturn limits backend (s.send q) s.calls := by
  refine .later (hs.goes .sent) fun t ht => ?_
  obtain ⟨j, hj, rfl⟩ := (hs.quiet.step_send hs.queue_eq).mp ht
  refine .later (hs.goes (.taken hj)) fun t ht => ?_
  rw [(hs.quiet.step_taken hj hs.queue_eq).mp ht]
  cases hends : (backend.attempt s.source q).answer? with
  | some answer =>
    refine .later (hs.goes (.tried hj hends)) fun t ht => ?_
    rw [(hs.quiet.step_tried hj hs.queue_eq hends).mp ht]
    exact hs.willReturn_of_served (.replied hends)
  | none => exact hs.willReturn_of_served (.stuck hj hends)

end Call

end Crew

end FlowVerdict
