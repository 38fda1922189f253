import FlowVerdict.Proofs.Monitor.Conservation
import FlowVerdict.Proofs.Monitor.Timing
import FlowVerdict.Proofs.Text.Encoding
import FlowVerdict.Proofs.Trace.Log

/-!
A replay is a run of the monitor. The lines of a trace that are not skipped are read in their order
up to the first that says nothing. What they say is put to the monitor, packet by packet and end by
end, and nothing else is; the log has a line for each packet with the monitor's verdict on it.
-/

namespace FlowVerdict

open Monitor (Event Reply State)

namespace Trace

/-! ### Reading -/

/-- Lines without the blanks around them, numbered from `n` on. Those that are then empty or start
with a number sign are left out. -/
def sayings (n : Nat) (lines : List (List Char)) : List (String × Nat) :=
  ((lines.map fun cs => Text.trim (String.ofList cs)).zipIdx n).filter
    fun (line, _) => !Replay.isSkipped line

lemma sayings_cons (n : Nat) (line : List Char) (lines : List (List Char)) :
    sayings n (line :: lines) =
      if Replay.isSkipped (Text.trim (String.ofList line)) then sayings (n + 1) lines
      else (Text.trim (String.ofList line), n) :: sayings (n + 1) lines := by
  simp only [sayings, List.map_cons, List.zipIdx_cons, List.filter_cons]
  cases Replay.isSkipped (Text.trim (String.ofList line)) <;> rfl

lemma sayings_append (n : Nat) (lines more : List (List Char)) :
    sayings n (lines ++ more) = sayings n lines ++ sayings (n + lines.length) more := by
  simp only [sayings, List.map_append, List.zipIdx_append, List.filter_append, List.length_map]

def said (line : String) : Except TraceFault TraceEvent :=
  TraceRecord.ofLine line >>= TraceRecord.event

/-- What numbered lines say up to the first that says nothing, and the fault of that line if there
is one. -/
inductive Reads : List (String × Nat) → List (TraceEvent × Nat) → Option (Nat × TraceFault) → Prop
  | done : Reads [] [] none
  | stop {line : String} {n : Nat} {rest : List (String × Nat)} {fault : TraceFault}
    (h : said line = .error fault) : Reads ((line, n) :: rest) [] (some (n, fault))
  | record {line : String} {n : Nat} {e : TraceEvent} {rest : List (String × Nat)}
    {records : List (TraceEvent × Nat)} {fault : Option (Nat × TraceFault)}
    (h : said line = .ok e) (hrest : Reads rest records fault) :
    Reads ((line, n) :: rest) ((e, n) :: records) fault

lemma exists_reads (lines : List (String × Nat)) : ∃ records fault, Reads lines records fault := by
  induction lines with
  | nil => exact ⟨[], none, .done⟩
  | cons line rest ih =>
    obtain ⟨records, fault, hrest⟩ := ih
    cases hsaid : said line.1 with
    | error fault => exact ⟨[], some (line.2, fault), .stop hsaid⟩
    | ok e => exact ⟨(e, line.2) :: records, fault, .record hsaid hrest⟩

lemma Reads.unique {lines : List (String × Nat)} {records more : List (TraceEvent × Nat)}
    {fault other : Option (Nat × TraceFault)} (h : Reads lines records fault)
    (h' : Reads lines more other) : records = more ∧ fault = other := by
  induction h generalizing more other with
  | done =>
    cases h'
    exact ⟨rfl, rfl⟩
  | stop hsaid =>
    cases h' with
    | stop hsaid' => exact ⟨rfl, by rw [Except.error.inj (hsaid.symm.trans hsaid')]⟩
    | record hsaid' => cases hsaid.symm.trans hsaid'
  | record hsaid _ ih =>
    cases h' with
    | stop hsaid' => cases hsaid.symm.trans hsaid'
    | record hsaid' hrest =>
      obtain ⟨rfl, rfl⟩ := ih hrest
      exact ⟨by rw [Except.ok.inj (hsaid.symm.trans hsaid')], rfl⟩

lemma Reads.numbers_sublist {lines : List (String × Nat)} {records : List (TraceEvent × Nat)}
    {fault : Option (Nat × TraceFault)} (h : Reads lines records fault) :
    (records.map Prod.snd).Sublist (lines.map Prod.snd) := by
  induction h with
  | done => exact .slnil
  | stop => exact List.nil_sublist _
  | record _ _ ih => exact ih.cons_cons _

lemma numbers_increase (n : Nat) (lines : List (List Char)) :
    ((sayings n lines).map Prod.snd).Pairwise (· < ·) ∧
      ∀ i ∈ (sayings n lines).map Prod.snd, n ≤ i := by
  have hsub : ((sayings n lines).map Prod.snd).Sublist (List.range' n lines.length) := by
    have hall := (List.filter_sublist (p := fun line : String × Nat => !Replay.isSkipped line.1)
      (l := (lines.map fun cs => Text.trim (String.ofList cs)).zipIdx n)).map Prod.snd
    rwa [List.zipIdx_map_snd, List.length_map] at hall
  refine ⟨List.Pairwise.sublist hsub List.pairwise_lt_range', fun i hi => ?_⟩
  have hmem := hsub.subset hi
  rw [List.mem_range'_1] at hmem
  exact hmem.1

/-! ### Events -/

/-- What a record puts to a monitor at some time. -/
def call (now : Nat) : TraceEvent → Event
  | .packet p => .packet p now
  | .close flow => .close flow

/-- What records put to a monitor, each at a time of its own. -/
def calls (now : Nat → Nat) (records : List (TraceEvent × Nat)) : List Event :=
  records.map fun (e, n) => call (now n) e

/-- The packets of records with the numbers of their lines. -/
def packets (records : List (TraceEvent × Nat)) : List (Packet × Nat) :=
  records.filterMap fun
    | (.packet p, n) => some (p, n)
    | (.close _, _) => none

/-- The flows that records end. -/
def ends (records : List (TraceEvent × Nat)) : List FlowId :=
  records.filterMap fun
    | (.packet _, _) => none
    | (.close flow, _) => some flow

/-- The packets of records with the verdicts on them. -/
def decisions (records : List (TraceEvent × Nat)) (verdicts : List Verdict) : List Decision :=
  ((packets records).zip verdicts).map fun ((p, n), v) => ⟨n, p, v⟩

lemma decisions_packet (p : Packet) (n : Nat) (records : List (TraceEvent × Nat)) (v : Verdict)
    (vs : List Verdict) :
    decisions ((.packet p, n) :: records) (v :: vs) = ⟨n, p, v⟩ :: decisions records vs := rfl

lemma calls_untimed (now : Nat → Nat) (records : List (TraceEvent × Nat)) :
    (calls now records).map Event.untimed = calls (fun _ => 0) records := by
  rw [calls, List.map_map]
  refine List.map_congr_left fun (e, n) _ => ?_
  cases e <;> rfl

lemma sweepless_calls (now : Nat → Nat) (records : List (TraceEvent × Nat)) :
    ∀ event ∈ calls now records, ∀ t, event ≠ .sweep t := by
  intro event hmem t hsweep
  obtain ⟨⟨e, n⟩, -, rfl⟩ := List.mem_map.mp hmem
  cases e <;> cases hsweep

lemma packets_calls (now : Nat → Nat) (records : List (TraceEvent × Nat)) :
    Monitor.packets (calls now records) = (packets records).map Prod.fst := by
  induction records with
  | nil => rfl
  | cons record records ih =>
    obtain ⟨e, n⟩ := record
    cases e with
    | packet p => exact congrArg (p :: ·) ih
    | close flow => exact ih

lemma length_eq_packets_add_ends (records : List (TraceEvent × Nat)) :
    records.length = (packets records).length + (ends records).length := by
  induction records with
  | nil => rfl
  | cons record records ih =>
    obtain ⟨e, n⟩ := record
    cases e with
    | packet p =>
      have hpackets : packets ((.packet p, n) :: records) = (p, n) :: packets records := rfl
      have hends : ends ((.packet p, n) :: records) = ends records := rfl
      rw [hpackets, hends, List.length_cons, List.length_cons, ih]
      omega
    | close flow =>
      have hpackets : packets ((.close flow, n) :: records) = packets records := rfl
      have hends : ends ((.close flow, n) :: records) = flow :: ends records := rfl
      rw [hpackets, hends, List.length_cons, List.length_cons, ih]
      omega

end Trace

/-! ### Replays -/

namespace Replay

variable {σ : Type}

/-- The replay after records have been put to the monitor. -/
def played (replay : Replay σ) (monitor : Monitor σ) (records : List (TraceEvent × Nat)) :
    Replay σ :=
  let run := monitor.run replay.state (Trace.calls (fun _ => 0) records)
  let decisions := Trace.decisions records (run.1.filterMap Reply.verdict?)
  ⟨run.2, replay.records + records.length,
    (decisions.map Decision.entry).reverse ++ replay.log⟩

lemma played_cons (replay : Replay σ) (monitor : Monitor σ) (e : TraceEvent) (n : Nat)
    (records : List (TraceEvent × Nat)) :
    replay.played monitor ((e, n) :: records) =
      played { replay.event monitor n e with records := replay.records + 1 } monitor records := by
  have hlength : replay.records + ((e, n) :: records).length =
      replay.records + 1 + records.length := by
    rw [List.length_cons]
    omega
  cases e with
  | packet p =>
    generalize hstep : monitor.process replay.state p 0 = step
    have hevent : replay.event monitor n (.packet p) =
        { replay with state := step.2, log := entry n p step.1 :: replay.log } := by
      rw [← hstep]
      rfl
    have hrun : monitor.run replay.state (Trace.calls (fun _ => 0) ((.packet p, n) :: records)) =
        (.verdict step.1 :: (monitor.run step.2 (Trace.calls (fun _ => 0) records)).1,
          (monitor.run step.2 (Trace.calls (fun _ => 0) records)).2) := by
      rw [← hstep]
      rfl
    have hverdicts : ∀ replies, List.filterMap Reply.verdict? (.verdict step.1 :: replies) =
        step.1 :: replies.filterMap Reply.verdict? := fun _ => rfl
    -- The log is kept backwards, the newest entry first.
    rw [played, played, hrun, hevent, hlength]
    simp only [hverdicts, Trace.decisions_packet, List.map_cons, List.reverse_cons,
      List.append_assoc, List.singleton_append, Decision.entry]
  | close flow =>
    rw [played, played, hlength]
    rfl

/-- **A replay puts to the monitor what the lines say**, and stops at the first that says
nothing. -/
theorem lines_eq_played (monitor : Monitor σ) {lines : List (List Char)} {n : Nat}
    {records : List (TraceEvent × Nat)} {fault : Option (Nat × TraceFault)}
    (h : Trace.Reads (Trace.sayings n lines) records fault) (replay : Replay σ) :
    Replay.lines monitor replay n (lines.map Text.encode) =
      (replay.played monitor records, fault.map fun (n, f) => .record n f) := by
  induction lines generalizing n records replay with
  | nil =>
    cases h
    rfl
  | cons line lines ih =>
    rw [Trace.sayings_cons] at h
    rw [List.map_cons, Replay.lines, Replay.line, Text.textOf?_encode]
    simp only
    -- Only what the trimmed line says matters from here on.
    generalize Text.trim (String.ofList line) = text at h ⊢
    cases hskip : isSkipped text with
    | true =>
      rw [hskip, if_pos rfl] at h
      exact ih h replay
    | false =>
      rw [hskip, if_neg Bool.false_ne_true] at h
      cases h with
      | stop hsaid =>
        have hsaid' : TraceRecord.ofLine text >>= TraceRecord.event = _ := hsaid
        simp only [hsaid', Bool.false_eq_true, if_false]
        rfl
      | record hsaid hrest =>
        have hsaid' : TraceRecord.ofLine text >>= TraceRecord.event = _ := hsaid
        simp only [hsaid', Bool.false_eq_true, if_false]
        rw [ih hrest, played_cons]

/-- A trace replayed from the beginning leaves the state of the run, but for time stamps, and a log
of the run's verdicts. -/
theorem trace_eq_run (monitor : Monitor σ) (x : σ) {text : String}
    {records : List (TraceEvent × Nat)} {fault : Option (Nat × TraceFault)}
    (h : Trace.Reads (Trace.sayings 1 (Text.lines '\n' text.toList)) records fault)
    (now : Nat → Nat) :
    let events := Trace.calls now records
    let decisions := Trace.decisions records (monitor.verdicts x events)
    Replay.trace monitor (.start x) text.toUTF8.toList =
      (⟨(monitor.after x events).untimed, records.length,
          (decisions.map Decision.entry).reverse⟩,
        fault.map fun (n, f) => .record n f) := by
  intro events decisions
  have hrun : monitor.run (.start x) (Trace.calls (fun _ => 0) records) =
      ((monitor.run (.start x) events).1, (monitor.after x events).untimed) := by
    have huntimed := Monitor.run_untimed monitor (.start x) (Trace.sweepless_calls now records)
    rwa [Trace.calls_untimed, State.untimed_start] at huntimed
  rw [Replay.trace, Text.toUTF8_toList, Text.lines_encode, lines_eq_played monitor h, played, hrun]
  simp only [List.append_nil, Nat.zero_add]
  rfl

end Replay

/-! ### Decisions -/

/-- The decisions are those on the packets of the records, in the order of the lines, which are
counted from one. -/
structure Trace.Decided (records : List (TraceEvent × Nat)) (decisions : List Decision) : Prop where
  packets_eq : decisions.map (fun d => (d.packet, d.line)) = packets records
  increasing : (decisions.map Decision.line).Pairwise (· < ·)
  from_one : ∀ d ∈ decisions, 1 ≤ d.line

namespace Trace

variable {σ : Type}

lemma length_verdicts_calls (monitor : Monitor σ) (x : σ) (now : Nat → Nat)
    (records : List (TraceEvent × Nat)) :
    (monitor.verdicts x (calls now records)).length = (packets records).length := by
  rw [Monitor.length_verdicts, packets_calls, List.length_map]

lemma verdicts_of_decisions {records : List (TraceEvent × Nat)} {vs : List Verdict}
    (h : vs.length = (packets records).length) :
    (decisions records vs).map Decision.verdict = vs := by
  rw [decisions, List.map_map]
  exact List.map_snd_zip (Nat.le_of_eq h)

lemma packets_of_decisions {records : List (TraceEvent × Nat)} {vs : List Verdict}
    (h : vs.length = (packets records).length) :
    (decisions records vs).map (fun d => (d.packet, d.line)) = packets records := by
  rw [decisions, List.map_map]
  exact List.map_fst_zip (Nat.le_of_eq h.symm)

lemma packets_numbers_sublist (records : List (TraceEvent × Nat)) :
    ((packets records).map Prod.snd).Sublist (records.map Prod.snd) := by
  induction records with
  | nil => exact .slnil
  | cons record records ih =>
    obtain ⟨e, n⟩ := record
    cases e with
    | packet p => exact ih.cons_cons n
    | close flow => exact ih.cons n

lemma decided (monitor : Monitor σ) (x : σ) (now : Nat → Nat) {lines : List (List Char)}
    {records : List (TraceEvent × Nat)} {fault : Option (Nat × TraceFault)}
    (h : Reads (sayings 1 lines) records fault) :
    Decided records (decisions records (monitor.verdicts x (calls now records))) := by
  have hpackets := packets_of_decisions (length_verdicts_calls monitor x now records)
  have hnumbers : ((decisions records (monitor.verdicts x (calls now records))).map
      Decision.line).Sublist ((sayings 1 lines).map Prod.snd) := by
    have hsub := (packets_numbers_sublist records).trans h.numbers_sublist
    rwa [← hpackets, List.map_map] at hsub
  obtain ⟨hincrease, hone⟩ := numbers_increase 1 lines
  exact ⟨hpackets, List.Pairwise.sublist hnumbers hincrease,
    fun d hd => hone _ (hnumbers.subset (List.mem_map_of_mem hd))⟩

end Trace

end FlowVerdict
