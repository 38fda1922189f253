import FlowVerdict.Proofs.Monitor.Recording
import FlowVerdict.Proofs.Net.FlowId
import FlowVerdict.Proofs.Policy.Ports

/-!
The stay of a flow: what a run tells of one flow from the packet on that brought it into the table.

A packet that is judged on its flow is heard, and the hearings of a stay form a path: each finds the
flow as the hearing before it left it. Events of other flows, earlier stays and the scorer's own
state have no place in a path, so what holds of all paths holds of every flow in every run.
-/

namespace FlowVerdict

/-- A packet, the verdict on it, and what the scorer was asked for its sake. -/
structure Hearing where
  packet : Packet
  verdict : Verdict
  exchanges : List Exchange

/-- The hearings of a flow's packets since it came into the table, and what the scorer was asked
when the host ended the flow. -/
structure Stay where
  hearings : List Hearing
  farewell : List Exchange

def Stay.packets (stay : Stay) : List Packet := stay.hearings.map (·.packet)

def Stay.exchanges (stay : Stay) : List Exchange :=
  stay.hearings.flatMap (·.exchanges) ++ stay.farewell

namespace Monitor

variable {σ : Type} {monitor : Monitor σ} {state : State σ} {flow : FlowId}

/-- The hearings that a packet of the flow adds to: those of the stay, or none if the flow is not in
the table. -/
def State.earlier (state : State σ) (flow : FlowId) (stay : Stay) : List Hearing :=
  if (state.flows.lookup flow).isSome then stay.hearings else []

/-- The stay of a flow after one more event. A packet that does not find its flow in the table
begins a new stay. -/
def proceed (monitor : Monitor σ) (state : State σ) (flow : FlowId) (stay : Stay) : Event → Stay
  | .packet p now =>
    if p.flow = flow then
      ⟨state.earlier flow stay ++
        [⟨p, (monitor.process state p now).1, monitor.exchanges state (.packet p now)⟩], []⟩
    else stay
  | .close k =>
    if k = flow ∧ (state.flows.lookup flow).isSome then
      { stay with farewell := monitor.exchanges state (.close k) }
    else stay
  | .sweep _ => stay

/-- The stay of a flow after more events. -/
def stayFrom (monitor : Monitor σ) (flow : FlowId) : State σ → Stay → List Event → Stay
  | _, stay, [] => stay
  | state, stay, event :: events =>
    monitor.stayFrom flow (monitor.respond state event).2 (monitor.proceed state flow stay event)
      events

/-- The stay of a flow that is in the table after the events, or else its last one. -/
def stay (monitor : Monitor σ) (scorer : σ) (flow : FlowId) (events : List Event) : Stay :=
  monitor.stayFrom flow (.start scorer) ⟨[], []⟩ events

lemma stayFrom_append (stay : Stay) (events more : List Event) :
    monitor.stayFrom flow state stay (events ++ more) =
      monitor.stayFrom flow (monitor.run state events).2 (monitor.stayFrom flow state stay events)
        more := by
  induction events generalizing state stay with
  | nil => rfl
  | cons event events ih => simp only [List.cons_append, stayFrom, run, ih]

@[simp] lemma stay_nil (x : σ) : monitor.stay x flow [] = ⟨[], []⟩ := rfl

@[simp] lemma stay_snoc (x : σ) (events : List Event) (event : Event) :
    monitor.stay x flow (events ++ [event]) =
      monitor.proceed (monitor.after x events) flow (monitor.stay x flow events) event := by
  simp only [stay, stayFrom_append, stayFrom, after]

/-! ### Ports -/

lemma portVerdict?_eq_of_flow_eq (monitor : Monitor σ) {p q : Packet} (h : p.flow = q.flow) :
    monitor.portVerdict? p = monitor.portVerdict? q := by
  obtain ⟨ht, ⟨hs, hd⟩ | ⟨hs, hd⟩⟩ := p.sides_of_flow_eq h
  · simp only [portVerdict?, ht, hs, hd]
  · simp only [portVerdict?, ht, hs, hd]
    rw [PortPolicy.verdict?_comm]

/-! ### Paths -/

/-- How a packet that has been counted is heard, and the state in which it leaves its flow. -/
inductive Heard (monitor : Monitor σ) (s : FlowState) : Hearing → FlowState → Prop
  /-- The flow is settled. -/
  | settled {p : Packet} {v : Verdict} (latched : s.latched = some v) : Heard monitor s ⟨p, v, []⟩ s
  /-- The payload is looked at. -/
  | payload {p : Packet} {f : Fingerprint} (classifier : monitor.classifier = .fingerprint f)
    (latched : s.latched = none) :
    Heard monitor s ⟨p, monitor.payloadVerdict f p, []⟩ (monitor.judgeByFingerprint f p s).2
  /-- The packet enters the window and waits. -/
  | waiting {p : Packet} {m : ModelClassifier σ} (classifier : monitor.classifier = .model m)
    (latched : s.latched = none) (asks : monitor.settings.asks m.window s p = false) :
    Heard monitor s ⟨p, .pass, []⟩ (m.window.collect s p)
  /-- The packet enters the window, and the model answers. -/
  | answered {p : Packet} {m : ModelClassifier σ} {probabilities : List Float32}
    (classifier : monitor.classifier = .model m) (latched : s.latched = none)
    (asks : monitor.settings.asks m.window s p = true) :
    Heard monitor s
      ⟨p, m.rules.verdict probabilities,
        [⟨m.name, m.window.flatten (m.window.collect s p).window, .ok probabilities⟩]⟩
      ((m.window.collect s p).answered (m.rules.verdict probabilities))
  /-- The packet enters the window, and the model fails. -/
  | failed {p : Packet} {m : ModelClassifier σ} {cause : ScoringError}
    (classifier : monitor.classifier = .model m) (latched : s.latched = none)
    (asks : monitor.settings.asks m.window s p = true) :
    Heard monitor s
      ⟨p, .pass, [⟨m.name, m.window.flatten (m.window.collect s p).window, .error cause⟩]⟩
      ((m.window.collect s p).unanswered monitor.settings.scoring.rescoreOnFailure)

/-- Every judgement is a hearing. -/
theorem heard (monitor : Monitor σ) (p : Packet) (s : FlowState) (tally : Tally) (x : σ) :
    Heard monitor s ⟨p, (monitor.judge p s tally x).verdict, monitor.asked p s x⟩
      (monitor.judge p s tally x).flow := by
  unfold asked
  cases hlatch : s.latched with
  | some v =>
    rw [judge_of_latched hlatch]
    exact .settled hlatch
  | none =>
    cases hc : monitor.classifier with
    | fingerprint f =>
      rw [judge_of_fingerprint hc hlatch]
      exact .payload hc hlatch
    | model m =>
      -- Whether the model is asked is settled before it is: the window with the packet in it
      -- decides.
      cases hask : monitor.settings.asks m.window s p with
      | false =>
        rw [judge_of_waiting hc hlatch hask]
        simpa [hask] using Heard.waiting hc hlatch hask
      | true =>
        rw [judge_of_asking hc hlatch hask]
        have hcollect : (m.window.collect s p).latched = none := hlatch
        simp only [hask, if_true, ModelClassifier.exchange]
        cases hanswer : (m.scorer.score x m.name
            (m.window.flatten (m.window.collect s p).window)).1 with
        | ok probabilities =>
          rw [score_of_ok hcollect hanswer]
          exact .answered hc hlatch hask
        | error cause =>
          rw [score_of_error hcollect hanswer]
          exact .failed hc hlatch hask

lemma Heard.of_latched {s s' : FlowState} {h : Hearing} {v : Verdict}
    (hheard : Heard monitor s h s') (hlatch : s.latched = some v) :
    h.verdict = v ∧ h.exchanges = [] ∧ s' = s := by
  cases hheard with
  | settled hlatch' => exact ⟨Option.some.inj (hlatch'.symm.trans hlatch), rfl, rfl⟩
  | payload _ hnone => simp [hlatch] at hnone
  | waiting _ hnone => simp [hlatch] at hnone
  | answered _ hnone => simp [hlatch] at hnone
  | failed _ hnone => simp [hlatch] at hnone

lemma Heard.frame {s s' : FlowState} {h : Hearing} (hheard : Heard monitor s h s') :
    s' = { s with
      window := s'.window, windowsScored := s'.windowsScored, latched := s'.latched } := by
  cases hheard with
  | settled => rfl
  | payload _ hlatch =>
    simp only [judgeByFingerprint, FlowState.latch, hlatch]
    split <;> rfl
  | waiting => rfl
  | answered => rfl
  | failed =>
    unfold FlowState.unanswered
    split <;> rfl

lemma Heard.opener_eq {s s' : FlowState} {h : Hearing} (hheard : Heard monitor s h s') :
    s'.opener = s.opener := by
  rw [hheard.frame]

/-- Hearings of one flow, each of which finds the flow as the one before it left it, and the state
after the last. -/
inductive Path (monitor : Monitor σ) (flow : FlowId) : List Hearing → FlowState → Prop
  /-- The flow before its first packet. -/
  | opened (opener : Endpoint) (now : Nat) : Path monitor flow [] (.fresh flow opener now)
  /-- One more packet. The first one opens the flow, and none comes after a reset. -/
  | next {hs : List Hearing} {s : FlowState} {h : Hearing} {s' : FlowState}
    (path : Path monitor flow hs s) (flow_eq : h.packet.flow = flow)
    (ports : monitor.portVerdict? h.packet = none)
    (opener : hs = [] → h.packet.source = s.opener) (stays : ∀ g ∈ hs, g.verdict ≠ .reset)
    (now : Nat) (heard : Heard monitor (s.record h.packet now) h s') :
    Path monitor flow (hs ++ [h]) s'

/-- What the scorer may be asked when the host ends a flow that was left in a state. -/
inductive Parting (monitor : Monitor σ) (s : FlowState) : List Exchange → Prop
  /-- Nothing. -/
  | silent : Parting monitor s []
  /-- The rows of a window that is not full. -/
  | asked {m : ModelClassifier σ} {answer : Answer} (classifier : monitor.classifier = .model m)
    (latched : s.latched = none) (asks : monitor.settings.asksEarly s = true) :
    Parting monitor s [⟨m.name, m.window.flatten s.window, answer⟩]

lemma parting (monitor : Monitor σ) (s : FlowState) (x : σ) :
    Parting monitor s (monitor.askedLast s x) := by
  unfold askedLast
  cases hlatch : s.latched with
  | some v => exact .silent
  | none =>
    cases hc : monitor.classifier with
    | fingerprint f => exact .silent
    | model m =>
      cases hask : monitor.settings.asksEarly s with
      | false => exact .silent
      | true =>
        simp only [if_true]
        exact .asked hc hlatch hask

/-- What the stay of a flow tells, given the flow's state in the table. -/
inductive Told (monitor : Monitor σ) (flow : FlowId) : Option FlowState → Stay → Prop
  /-- The flow is in the table. -/
  | here {hs : List Hearing} {s : FlowState} (path : Path monitor flow hs s) (nonempty : hs ≠ [])
    (stays : ∀ g ∈ hs, g.verdict ≠ .reset) : Told monitor flow (some s) ⟨hs, []⟩
  /-- The flow has left the table, or never was in it. -/
  | gone {hs : List Hearing} {s : FlowState} {es : List Exchange} (path : Path monitor flow hs s)
    (parting : Parting monitor s es) : Told monitor flow none ⟨hs, es⟩
  /-- The flow's ports keep it out of the table. -/
  | stopped {h : Hearing} (flow_eq : h.packet.flow = flow)
    (ports : monitor.portVerdict? h.packet = some h.verdict) (exchanges : h.exchanges = []) :
    Told monitor flow none ⟨[h], []⟩

lemma Path.flow_eq_of_mem {hs : List Hearing} {s : FlowState} (path : Path monitor flow hs s)
    {h : Hearing} (hmem : h ∈ hs) :
    h.packet.flow = flow ∧ monitor.portVerdict? h.packet = none := by
  induction path with
  | opened => cases hmem
  | next path hflow hports _ _ _ _ ih =>
    rcases List.mem_append.mp hmem with hmem | hmem
    · exact ih hmem
    · rw [List.mem_singleton.mp hmem]
      exact ⟨hflow, hports⟩

lemma Path.portVerdict? {hs : List Hearing} {s : FlowState} (path : Path monitor flow hs s)
    (hne : hs ≠ []) {p : Packet} (hp : p.flow = flow) : monitor.portVerdict? p = none := by
  obtain ⟨h, hmem⟩ := List.exists_mem_of_ne_nil hs hne
  obtain ⟨hflow, hports⟩ := path.flow_eq_of_mem hmem
  rw [monitor.portVerdict?_eq_of_flow_eq (hp.trans hflow.symm), hports]

lemma Path.source_of_head {hs : List Hearing} (path : Path monitor flow hs s) :
    ∀ g, hs.head? = some g → g.packet.source = s.opener := by
  induction path with
  | opened => simp
  | @next hs s h s' path _ _ hopener _ now hheard ih =>
    intro g hg
    have heq : s'.opener = s.opener := hheard.opener_eq
    rw [heq]
    cases hs with
    | nil =>
      obtain rfl : h = g := by simpa using hg
      exact hopener rfl
    | cons g' hs =>
      obtain rfl : g' = g := by simpa using hg
      exact ih g' rfl

/-! ### Runs tell paths -/

lemma Told.arrival {p : Packet} {stay : Stay}
    (h : Told monitor p.flow (state.flows.lookup p.flow) stay) (now : Nat) :
    ∃ s, Path monitor p.flow (state.earlier p.flow stay) s ∧
      state.arrival p now = s.record p now ∧
      (state.earlier p.flow stay = [] → p.source = s.opener) ∧
      ∀ g ∈ state.earlier p.flow stay, g.verdict ≠ .reset := by
  unfold State.arrival State.earlier
  cases hlook : state.flows.lookup p.flow with
  | none => exact ⟨_, .opened p.source now, rfl, fun _ => rfl, by simp⟩
  | some s =>
    rw [hlook] at h
    cases h with
    | here path hne hstays => exact ⟨s, path, rfl, fun hnil => absurd hnil hne, hstays⟩

lemma Told.lookup_of_stopped {p : Packet} {stay : Stay} {v : Verdict}
    (h : Told monitor p.flow (state.flows.lookup p.flow) stay)
    (hports : monitor.portVerdict? p = some v) : state.flows.lookup p.flow = none := by
  cases hlook : state.flows.lookup p.flow with
  | none => rfl
  | some s =>
    rw [hlook] at h
    cases h with
    | here path hne _ => simp [path.portVerdict? hne rfl] at hports

/-- A packet that its ports do not stop takes the path of its flow one step further. -/
lemma Told.path_snoc {p : Packet} {stay : Stay} (hs : state.flows.Live)
    (h : Told monitor p.flow (state.flows.lookup p.flow) stay)
    (hports : monitor.portVerdict? p = none) (now : Nat) :
    Path monitor p.flow
      (state.earlier p.flow stay ++
        [⟨p, (monitor.process state p now).1, monitor.exchanges state (.packet p now)⟩])
      (monitor.judgement state p now).flow := by
  obtain ⟨s, path, harrive, hopener, hstays⟩ := h.arrival now
  have hheard := monitor.heard p (s.record p now) (state.counted p) state.scorer
  have hjudge : monitor.judgement state p now =
      monitor.judge p (s.record p now) (state.counted p) state.scorer := by
    rw [judgement, harrive]
  rw [← hjudge, ← harrive, ← exchanges_of_packet hs hports now,
    ← (processed hs hports now).verdict_eq] at hheard
  rw [harrive] at hheard
  exact path.next (h := ⟨p, _, _⟩) rfl hports hopener hstays now hheard

lemma Told.packet {p : Packet} {stay : Stay} (hs : state.flows.Live)
    (h : Told monitor p.flow (state.flows.lookup p.flow) stay) (now : Nat) :
    Told monitor p.flow ((monitor.process state p now).2.flows.lookup p.flow)
      (monitor.proceed state p.flow stay (.packet p now)) := by
  simp only [proceed, if_true]
  cases hports : monitor.portVerdict? p with
  | some v =>
    have hlook := h.lookup_of_stopped hports
    simp only [process_of_stopped hports, exchanges_of_stopped hports, hlook, State.earlier]
    exact .stopped rfl hports rfl
  | none =>
    obtain ⟨-, -, -, -, hstays⟩ := h.arrival now
    have hpath := h.path_snoc hs hports now
    rw [(processed hs hports now).lookup_self]
    cases hlast : monitor.isLast p (monitor.process state p now).1 with
    | true => exact .gone hpath .silent
    | false =>
      have hkept : (monitor.process state p now).1 ≠ .reset := by
        intro hreset
        simp [isLast, hreset] at hlast
      exact .here hpath (by simp)
        (List.forall_mem_append.mpr ⟨hstays, List.forall_mem_singleton.mpr hkept⟩)

lemma Told.close {stay : Stay} (hs : state.flows.Live)
    (h : Told monitor flow (state.flows.lookup flow) stay) :
    Told monitor flow ((monitor.close state flow).2.flows.lookup flow)
      (monitor.proceed state flow stay (.close flow)) := by
  rw [lookup_close_self hs]
  cases hlook : state.flows.lookup flow with
  | none =>
    rw [hlook] at h
    simpa [proceed, hlook] using h
  | some s =>
    rw [hlook] at h
    cases h with
    | here path _ _ =>
      simp only [proceed, hlook, Option.isSome_some, and_self, if_true]
      rw [exchanges_of_close hs hlook]
      exact .gone path (monitor.parting s state.scorer)

lemma Told.sweep {stay : Stay} (hs : state.flows.Live)
    (h : Told monitor flow (state.flows.lookup flow) stay) (now : Nat) :
    Told monitor flow ((monitor.sweep state now).2.flows.lookup flow) stay := by
  rw [lookup_sweep hs]
  cases hlook : state.flows.lookup flow with
  | none =>
    rw [hlook] at h
    exact h
  | some s =>
    rw [hlook] at h
    cases hidle : s.isIdle monitor.settings.flows.idleTimeout now with
    | false => simpa [Option.filter, hidle] using h
    | true =>
      cases h with
      | here path _ _ => simpa [Option.filter, hidle] using Told.gone path .silent

theorem Told.proceed {stay : Stay} (hs : state.flows.Live)
    (h : Told monitor flow (state.flows.lookup flow) stay) (event : Event) :
    Told monitor flow ((monitor.respond state event).2.flows.lookup flow)
      (monitor.proceed state flow stay event) := by
  cases event with
  | packet p now =>
    by_cases hp : p.flow = flow
    · subst hp
      exact h.packet hs now
    · simpa [respond, Monitor.proceed, hp, lookup_process_of_ne hs (Ne.symm hp)] using h
  | close k =>
    by_cases hk : k = flow
    · subst hk
      exact h.close hs
    · simpa [respond, Monitor.proceed, hk, lookup_close_of_ne hs (Ne.symm hk)] using h
  | sweep now => exact h.sweep hs now

/-- **Every flow walks a path**: in every run, the stay of a flow is a path that ends in the state
of the flow, unless its ports keep the flow out of the table. -/
theorem told (monitor : Monitor σ) (x : σ) (flow : FlowId) (events : List Event) :
    Told monitor flow ((monitor.after x events).flows.lookup flow)
      (monitor.stay x flow events) := by
  induction events using List.reverseRecOn with
  | nil => exact .gone (.opened flow.low 0) .silent
  | append_singleton events event ih =>
    rw [after_snoc, stay_snoc]
    exact ih.proceed (after_live x events) event

lemma exists_path_of_stay (monitor : Monitor σ) (x : σ) (flow : FlowId) (events : List Event) :
    ∃ hs s es, Path monitor flow hs s ∧ Parting monitor s es ∧
      (monitor.stay x flow events).exchanges = hs.flatMap (·.exchanges) ++ es := by
  have htold := monitor.told x flow events
  generalize monitor.stay x flow events = stay at htold
  generalize (monitor.after x events).flows.lookup flow = present at htold
  cases htold with
  | here path _ _ => exact ⟨_, _, [], path, .silent, rfl⟩
  | gone path hparting => exact ⟨_, _, _, path, hparting, rfl⟩
  | stopped _ _ hexch =>
    exact ⟨[], _, [], .opened flow.low 0, .silent, by simp [Stay.exchanges, hexch]⟩

lemma path_of_lookup {x : σ} {events : List Event} {s : FlowState}
    (h : (monitor.after x events).flows.lookup flow = some s) :
    Path monitor flow (monitor.stay x flow events).hearings s ∧
      (monitor.stay x flow events).hearings ≠ [] ∧ (monitor.stay x flow events).farewell = [] ∧
      ∀ g ∈ (monitor.stay x flow events).hearings, g.verdict ≠ .reset := by
  have htold := monitor.told x flow events
  rw [h] at htold
  generalize monitor.stay x flow events = stay at htold
  cases htold with
  | here path hne hstays => exact ⟨path, hne, rfl, hstays⟩

lemma portVerdict?_of_lookup {x : σ} {events : List Event} {s : FlowState}
    (h : (monitor.after x events).flows.lookup flow = some s) {p : Packet} (hp : p.flow = flow) :
    monitor.portVerdict? p = none :=
  (path_of_lookup h).1.portVerdict? (path_of_lookup h).2.1 hp

/-- An event that is no packet of a flow leaves its stay alone if it leaves it in the table. -/
lemma stay_snoc_other {x : σ} {events : List Event} {event : Event} {s : FlowState}
    (hother : ∀ p now, event = .packet p now → p.flow ≠ flow)
    (h : (monitor.after x (events ++ [event])).flows.lookup flow = some s) :
    monitor.stay x flow (events ++ [event]) = monitor.stay x flow events := by
  rw [stay_snoc]
  cases event with
  | packet p now => simp [Monitor.proceed, hother p now rfl]
  | close k =>
    have hk : k ≠ flow := by
      rintro rfl
      rw [after_snoc] at h
      exact absurd ((lookup_close_self (after_live x events) k).symm.trans h) (by simp)
    simp [Monitor.proceed, hk]
  | sweep now => rfl

/-- No packet of a flow that is in the table was its last. -/
theorem isLast_of_lookup {x : σ} {events : List Event} {s : FlowState}
    (h : (monitor.after x events).flows.lookup flow = some s) :
    ∀ g ∈ (monitor.stay x flow events).hearings, monitor.isLast g.packet g.verdict = false := by
  induction events using List.reverseRecOn generalizing s with
  | nil => simp
  | append_singleton events event ih =>
    have hs : (monitor.after x events).flows.Live := after_live x events
    by_cases hother : ∀ p now, event = .packet p now → p.flow ≠ flow
    · rw [stay_snoc_other hother h]
      rw [after_snoc] at h
      exact ih (lookup_of_respond hs hother h)
    · push Not at hother
      obtain ⟨p, now, rfl, rfl⟩ := hother
      have hself := h
      rw [after_snoc] at hself
      have hlast : monitor.isLast p (monitor.process (monitor.after x events) p now).1 = false := by
        rw [respond, (processed hs (portVerdict?_of_lookup h rfl) now).lookup_self] at hself
        split at hself
        · cases hself
        · next hlast => simpa using hlast
      -- Earlier packets of the stay were not the last, for they left the flow in the table.
      simp only [stay_snoc, Monitor.proceed, if_true]
      refine List.forall_mem_append.mpr ⟨fun g hg => ?_, List.forall_mem_singleton.mpr hlast⟩
      unfold State.earlier at hg
      cases hlook : (monitor.after x events).flows.lookup p.flow with
      | none => simp [hlook] at hg
      | some t => exact ih hlook g (by simpa [hlook] using hg)

/-- Unless it is a single packet that its ports stop, a stay is a path. -/
lemma Told.path {present : Option FlowState} {stay : Stay} (h : Told monitor flow present stay)
    (hports : ∀ g, stay.hearings = [g] → g.exchanges = [] →
      monitor.portVerdict? g.packet = none) :
    ∃ s, Path monitor flow stay.hearings s := by
  cases h with
  | here path _ _ => exact ⟨_, path⟩
  | gone path _ => exact ⟨_, path⟩
  | @stopped g _ hstop hexch => simp [hports g rfl hexch] at hstop

lemma split_of_snoc {α : Type} {l before rest : List α} {a b : α}
    (h : before ++ a :: rest = l ++ [b]) :
    (before = l ∧ a = b ∧ rest = []) ∨ ∃ init, rest = init ++ [b] ∧ before ++ a :: init = l := by
  rcases List.eq_nil_or_concat rest with rfl | ⟨init, last, rfl⟩
  · obtain ⟨hbefore, hlast⟩ := List.append_inj' h rfl
    exact .inl ⟨hbefore, List.singleton_inj.mp hlast, rfl⟩
  · have h' : before ++ a :: init ++ [last] = l ++ [b] := by simpa using h
    obtain ⟨hinit, hlast⟩ := List.append_inj' h' rfl
    obtain rfl := List.singleton_inj.mp hlast
    exact .inr ⟨init, List.concat_eq_append, hinit⟩

lemma Path.eq_nil_of_reset {before rest : List Hearing} {s : FlowState} {h : Hearing}
    (path : Path monitor flow (before ++ h :: rest) s) (hreset : h.verdict = .reset) :
    rest = [] := by
  generalize hsplit : before ++ h :: rest = hs at path
  cases path with
  | opened => simp at hsplit
  | next _ _ _ _ hstays =>
    rcases split_of_snoc hsplit with ⟨-, -, hnil⟩ | ⟨init, -, rfl⟩
    · exact hnil
    · exact absurd hreset (hstays h (by simp))

lemma lookup_of_reset {x : σ} {events : List Event} {h : Hearing}
    (hmem : h ∈ (monitor.stay x flow events).hearings) (hreset : h.verdict = .reset) :
    (monitor.after x events).flows.lookup flow = none := by
  have htold := monitor.told x flow events
  generalize monitor.stay x flow events = stay at htold hmem
  generalize (monitor.after x events).flows.lookup flow = present at htold
  cases htold with
  | here _ _ hstays => exact absurd hreset (hstays h hmem)
  | gone => rfl
  | stopped => rfl

lemma mem_exchanges_proceed {stay : Stay} {event : Event} {e : Exchange}
    (h : e ∈ (monitor.proceed state flow stay event).exchanges) :
    e ∈ stay.exchanges ∨ e ∈ monitor.exchanges state event := by
  cases event with
  | packet p now =>
    by_cases hp : p.flow = flow
    · simp only [proceed, hp, if_true, Stay.exchanges, List.flatMap_append, List.append_nil,
        List.mem_append, List.mem_flatMap, List.flatMap_singleton] at h
      rcases h with ⟨g, hg, he⟩ | h
      · have hg' : g ∈ stay.hearings := by
          unfold State.earlier at hg
          split at hg
          · exact hg
          · cases hg
        exact .inl (List.mem_append_left _ (List.mem_flatMap.mpr ⟨g, hg', he⟩))
      · exact .inr h
    · simp only [proceed, hp, if_false] at h
      exact .inl h
  | close k =>
    by_cases hk : k = flow ∧ (state.flows.lookup flow).isSome
    · obtain ⟨rfl, hsome⟩ := hk
      simp only [proceed, hsome, and_self, if_true, Stay.exchanges, List.mem_append] at h
      rcases h with h | h
      · exact .inl (List.mem_append_left _ h)
      · exact .inr h
    · simp only [proceed, hk, if_false] at h
      exact .inl h
  | sweep now => exact .inl h

theorem mem_log_of_mem_stay {x : σ} {events : List Event} {e : Exchange}
    (h : e ∈ (monitor.stay x flow events).exchanges) : e ∈ monitor.log x events := by
  induction events using List.reverseRecOn with
  | nil => simp [Stay.exchanges] at h
  | append_singleton events event ih =>
    rw [stay_snoc] at h
    rw [log_snoc, List.mem_append]
    rcases mem_exchanges_proceed h with h | h
    · exact .inl (ih h)
    · exact .inr h

lemma mem_stay_of_mem_exchanges {x : σ} {events : List Event} {event : Event} {e : Exchange}
    (h : e ∈ monitor.exchanges (monitor.after x events) event) :
    ∃ flow, e ∈ (monitor.stay x flow (events ++ [event])).exchanges := by
  cases event with
  | packet p now =>
    refine ⟨p.flow, ?_⟩
    simp [proceed, Stay.exchanges, h]
  | close k =>
    refine ⟨k, ?_⟩
    cases hlook : (monitor.after x events).flows.lookup k with
    | none => simp [exchanges_of_absent hlook] at h
    | some s => simp [proceed, Stay.exchanges, hlook, h]
  | sweep now => simp at h

/-- Whatever the scorer is asked, it is asked in the stay of a flow. -/
theorem mem_stay_of_mem_log {x : σ} {events : List Event} {e : Exchange}
    (h : e ∈ monitor.log x events) :
    ∃ before rest flow, events = before ++ rest ∧ e ∈ (monitor.stay x flow before).exchanges := by
  induction events using List.reverseRecOn with
  | nil => cases h
  | append_singleton events event ih =>
    rw [log_snoc, List.mem_append] at h
    rcases h with h | h
    · obtain ⟨before, rest, flow, rfl, he⟩ := ih h
      exact ⟨before, rest ++ [event], flow, List.append_assoc _ _ _, he⟩
    -- The stay is cut off right after the event: later ones may begin a new stay of the flow.
    · obtain ⟨flow, he⟩ := mem_stay_of_mem_exchanges h
      exact ⟨events ++ [event], [], flow, (List.append_nil _).symm, he⟩

end Monitor

end FlowVerdict
