import FlowVerdict.Proofs.Monitor.Lifecycle
import FlowVerdict.Proofs.Monitor.Tracking

/-!
A monitor that judges payloads by their fingerprint has no memory. It keeps a table of flows like
any other, and it settles a flow that it resets; but such a flow leaves the table with the packet
that was reset, so no packet ever finds a settled flow, and the verdict on it is a function of the
packet alone.
-/

namespace FlowVerdict

/-- The verdict on a packet by itself. Ports come first, where there are any. Only a TCP segment
whose payload bears the fingerprint does not pass, an empty payload being looked at only where the
settings say so. -/
def Settings.verdictAlone (settings : Settings) (p : Packet) : Verdict :=
  match if p.transport = .tcp ∨ p.transport = .udp then
      settings.ports.verdict? p.source.port p.target.port else none with
  | some v => v
  | none =>
    if p.transport ≠ .tcp then .pass
    else if p.payload = [] ∧ settings.fingerprint.inspectEmpty = false then .pass
    else if settings.fingerprint.fingerprint.inspect p.payload p.source.port p.target.port =
        .obfuscated then settings.fingerprint.onDetect
    else .pass

namespace Monitor

variable {σ : Type} {monitor : Monitor σ} {state : State σ} {f : Fingerprint}

/-- The answer to an event by itself: the verdict on the packet alone, and none on a flow that the
host ends. -/
inductive Alone (settings : Settings) : Event → Reply → Prop
  | packet (p : Packet) (now : Nat) : Alone settings (.packet p now)
      (.verdict (settings.verdictAlone p))
  | close (flow : FlowId) : Alone settings (.close flow) (.closed none)
  | sweep (now count : Nat) : Alone settings (.sweep now) (.swept count)

/-- No flow in the table is settled. -/
def State.Open (state : State σ) : Prop :=
  ∀ flow s, state.flows.lookup flow = some s → s.latched = none

lemma open_after (hc : monitor.classifier = .fingerprint f) (x : σ) (events : List Event) :
    (monitor.after x events).Open := by
  intro flow s hlook
  obtain ⟨path, -, -, hstays⟩ := path_of_lookup hlook
  exact (path.of_fingerprint hc hstays).1

lemma State.Open.arrival (ho : state.Open) (p : Packet) (now : Nat) :
    (state.arrival p now).latched = none := by
  unfold State.arrival
  cases hlook : state.flows.lookup p.flow with
  | none => rfl
  | some s => exact ho p.flow s hlook

lemma portVerdict?_eq (monitor : Monitor σ) (p : Packet) : monitor.portVerdict? p =
    if p.transport = .tcp ∨ p.transport = .udp then
      monitor.settings.ports.verdict? p.source.port p.target.port else none := by
  unfold portVerdict?
  cases p.transport <;> simp [Transport.hasPorts]

lemma verdictAlone_of_stopped {p : Packet} {v : Verdict} (h : monitor.portVerdict? p = some v) :
    monitor.settings.verdictAlone p = v := by
  unfold Settings.verdictAlone
  rw [← portVerdict?_eq, h]

lemma verdictAlone_of_admitted {p : Packet} (h : monitor.portVerdict? p = none) :
    monitor.settings.verdictAlone p =
      monitor.payloadVerdict monitor.settings.fingerprint.fingerprint p := by
  unfold Settings.verdictAlone payloadVerdict inspects Packet.isTcp
  rw [← portVerdict?_eq, h]
  by_cases htcp : p.transport = .tcp
  · by_cases hempty : p.payload = [] ∧ monitor.settings.fingerprint.inspectEmpty = false
    · simp [htcp, hempty]
    · have hlooked : (!p.payload.isEmpty || monitor.settings.fingerprint.inspectEmpty) = true := by
        simpa [or_iff_not_imp_left] using hempty
      simp only [htcp, hempty, hlooked, ne_eq, not_true_eq_false, if_false, decide_true,
        Bool.true_and, decide_eq_true_eq]
  · simp [htcp]

/-! ### One event -/

/-- An event at which nothing is asked and no settled verdict is repeated, and whose answer depends
on the event alone. -/
structure Plain (settings : Settings) (state : State σ) (event : Event) (r : Reply × State σ) :
    Prop where
  alone : Alone settings event r.1
  scorerCalls_eq : r.2.tally.scorerCalls = state.tally.scorerCalls
  latchedHits_eq : r.2.tally.latchedHits = state.tally.latchedHits

lemma judgement_of_fingerprint
    (hc : monitor.classifier = .fingerprint monitor.settings.fingerprint.fingerprint)
    (ho : state.Open) {p : Packet} (hports : monitor.portVerdict? p = none) (now : Nat) :
    (monitor.judgement state p now).verdict = monitor.settings.verdictAlone p ∧
      (monitor.judgement state p now).tally = state.counted p := by
  rw [judgement, judge_of_fingerprint hc (ho.arrival p now), verdictAlone_of_admitted hports]
  exact ⟨rfl, rfl⟩

lemma process_plain
    (hc : monitor.classifier = .fingerprint monitor.settings.fingerprint.fingerprint)
    (hs : state.flows.Live) (ho : state.Open) (p : Packet) (now : Nat) :
    Plain monitor.settings state (.packet p now) (monitor.respond state (.packet p now)) := by
  cases hports : monitor.portVerdict? p with
  | some v =>
    simp only [respond, process_of_stopped hports, ← verdictAlone_of_stopped hports]
    refine ⟨.packet p now, ?_, ?_⟩ <;> rw [Tally.verdict_frame] <;> rfl
  | none =>
    have hproc : Processed monitor state p now _ := processed hs hports now
    obtain ⟨hverdict, htally⟩ := judgement_of_fingerprint hc ho hports now
    rw [← hproc.verdict_eq] at hverdict
    have hcounts := hproc.tally_eq
    rw [htally, Tally.verdict_frame] at hcounts
    refine ⟨?_, ?_, ?_⟩
    · simp only [respond, hverdict]
      exact .packet p now
    · simp only [respond, hcounts, State.counted]
      split <;> split <;> rfl
    · simp only [respond, hcounts, State.counted]
      split <;> split <;> rfl

lemma close_plain (hc : monitor.classifier = .fingerprint f) (hs : state.flows.Live)
    (ho : state.Open) (flow : FlowId) :
    Plain monitor.settings state (.close flow) (monitor.respond state (.close flow)) := by
  cases hlook : state.flows.lookup flow with
  | none =>
    simp only [respond, close_of_absent hlook]
    exact ⟨.close flow, rfl, rfl⟩
  | some s =>
    have hclosed : Closed monitor state flow s (monitor.close state flow) := closed hs hlook
    have hlast : monitor.lastVerdict state s = (none, state) :=
      lastVerdict_of_fingerprint hc (ho flow s hlook)
    have htally := hclosed.tally_eq
    rw [hlast] at htally
    simp only [respond, hclosed.verdict_eq, hlast]
    refine ⟨.close flow, ?_, ?_⟩ <;> rw [htally] <;> rfl

theorem respond_plain
    (hc : monitor.classifier = .fingerprint monitor.settings.fingerprint.fingerprint)
    (hs : state.flows.Live) (ho : state.Open) (event : Event) :
    Plain monitor.settings state event (monitor.respond state event) := by
  cases event with
  | packet p now => exact process_plain hc hs ho p now
  | close flow => exact close_plain hc hs ho flow
  | sweep now => exact ⟨.sweep now _, rfl, rfl⟩

/-! ### Runs -/

lemma run_plain (hc : monitor.classifier = .fingerprint monitor.settings.fingerprint.fingerprint)
    (x : σ) (events : List Event) :
    List.Forall₂ (Alone monitor.settings) events (monitor.run (.start x) events).1 ∧
      (monitor.after x events).tally.scorerCalls = 0 ∧
      (monitor.after x events).tally.latchedHits = 0 := by
  induction events using List.reverseRecOn with
  | nil => exact ⟨.nil, rfl, rfl⟩
  | append_singleton events event ih =>
    obtain ⟨hreplies, hcalls, hhits⟩ := ih
    have hplain : Plain monitor.settings (monitor.after x events) event _ :=
      respond_plain hc (after_live x events) (open_after hc x events) event
    rw [after_snoc, run_append, hplain.scorerCalls_eq, hplain.latchedHits_eq]
    exact ⟨List.rel_append hreplies (.cons hplain.alone .nil), hcalls, hhits⟩

/-- **Payloads are judged without memory**: a monitor that judges payloads gives every packet of
every run the verdict on the packet alone, whatever packets, sweeps and ends of flows came before.
It never settles a flow for good, the host's end of a flow comes to no verdict, and nothing is ever
asked or answered by a settled verdict. -/
theorem payloads_judged_alone {settings : Settings} {scorer? : Option (Scorer σ)}
    (haccepted : assemble settings scorer? = .ok monitor)
    (hkind : settings.classifier.kind = .fingerprint) (x : σ) (events : List Event) :
    List.Forall₂ (Alone settings) events (monitor.run (.start x) events).1 ∧
    (∀ flow, (monitor.after x events).settled? flow = none) ∧
    (monitor.after x events).tally.scorerCalls = 0 ∧
    (monitor.after x events).tally.latchedHits = 0 := by
  have hactive : settings.activeModel? = .ok none := by simp [Settings.activeModel?, hkind]
  have hmonitor := eq_of_assemble_fingerprint haccepted hactive
  have hc : monitor.classifier = .fingerprint monitor.settings.fingerprint.fingerprint := by
    rw [hmonitor]
  have hset := settings_of_assemble haccepted
  obtain ⟨hreplies, hcounts⟩ := run_plain hc x events
  rw [hset] at hreplies
  refine ⟨hreplies, fun flow => ?_, hcounts⟩
  unfold State.settled?
  rw [Option.bind_eq_none_iff]
  exact open_after hc x events flow

end Monitor

namespace Sample

/-- Settings without a model under which a detected flow is reset. -/
def watching : Settings := { fingerprint := { onDetect := .reset } }

def watcher : Monitor Unit := ⟨watching, .fingerprint watching.fingerprint.fingerprint⟩

lemma watcher_accepted : Monitor.assemble watching none = .ok watcher := rfl

def sparse : Packet :=
  ⟨⟨.ofBytes 10 0 0 1, 40000⟩, ⟨.ofBytes 10 0 0 2, 8388⟩, .tcp, .empty, List.replicate 32 1⟩

end Sample

namespace Monitor

open Sample in
/-- A flow that is reset each time it comes back, and an empty segment of another one that
passes. -/
theorem payloads_judged_alone_reset :
    let events := [.packet sparse 1, .packet (packet 5) 2, .packet sparse 3, .close (packet 5).flow]
    watching.verdictAlone sparse = .reset ∧
    (watcher.run (.start ()) events).1 =
      [.verdict .reset, .verdict .pass, .verdict .reset, .closed none] ∧
    List.Forall₂ (Alone watching) events (watcher.run (.start ()) events).1 := by
  intro events
  refine ⟨by decide +kernel, by decide +kernel, ?_⟩
  exact (payloads_judged_alone watcher_accepted rfl () events).1

end Monitor

end FlowVerdict
