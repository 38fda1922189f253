import FlowVerdict.Console.Enclosed
import FlowVerdict.Proofs.Console.Summary
import FlowVerdict.Proofs.Files.Directory

/-!
The command that replays a trace, from the files that it finds to the files that it leaves. Once the
settings have come to a monitor, and the trace and the log can be opened, the outcome is that of a
run of the monitor on the records of the trace: a report on the run where every line was read, and
the first line that was not where there is one. The log is written in either case.
-/

namespace FlowVerdict

/-- The directory with a text in the file of a log, if there is to be one. -/
def Directory.withLog (d : Directory) (log : Option String) (text : String) :
    Except FileError Directory :=
  match log with
  | some path => d.write path text.toUTF8.toList
  | none => .ok d

lemma Directory.exists_withLog {d d' : Directory} {log : Option String} {text : String}
    (h : d.withLog log text = .ok d') (more : String) :
    ∃ final, d.withLog log more = .ok final := by
  cases log with
  | none => exact ⟨d, rfl⟩
  | some path =>
    rw [withLog, write_eq] at h ⊢
    cases htarget : d.target path with
    | error cause => rw [htarget] at h; cases h
    | ok place => exact ⟨d.put place more.toUTF8.toList, rfl⟩

lemma Directory.withLog_withLog {d d' : Directory} {log : Option String} {text : String}
    (h : d.withLog log text = .ok d') (more : String) :
    d'.withLog log more = d.withLog log more := by
  cases log with
  | none =>
    obtain rfl : d = d' := Except.ok.inj h
    rfl
  | some path => exact write_write h _

namespace Console

/-! ### Loading -/

lemma quiet_read (path : String) : Quiet (enclosed.read path) := fun _ => rfl

lemma quiet_attempt {ε α : Type} (failure : ε → Failure) {step : StateM Directory (Except ε α)}
    (h : Quiet step) : Quiet (attempt failure step).run :=
  Quiet.run_adapt (x := ExceptT.mk step) h failure

lemma quiet_loadLibrary {read : String → StateM Directory (Except FileError String)}
    (hread : ∀ path, Quiet (read path)) (library : ModelLibrary)
    (models : List (String × ModelSettings)) : Quiet (library.load read models).run := by
  induction models generalizing library with
  | nil => exact .pure _
  | cons model models ih =>
    obtain ⟨name, model⟩ := model
    rw [ModelLibrary.load]
    cases model.path with
    | none => exact ih library
    | some path =>
      have hlift : Quiet (ExceptT.lift (ε := ScoringError) (read path)).run := (hread path).map _
      exact hlift.run_bind fun found => Quiet.run_bind (Quiet.pure _) ih

lemma quiet_loadMonitor (path : String) : Quiet (loadMonitor enclosed path).run := by
  have hsettings : Quiet (loadSettings enclosed path).run :=
    quiet_attempt _ ((quiet_read path).bind fun _ => .pure _)
  refine hsettings.run_bind fun settings => quiet_attempt _ ?_
  have hactive : Quiet (liftM (settings.activeModel?.mapError AssemblyFault.refused) :
      ExceptT AssemblyFault (StateM Directory) (Option (String × ModelSettings))).run := .pure _
  refine hactive.run_bind fun active => ?_
  cases active with
  | none => exact .pure _
  | some model =>
    have hlibrary := quiet_loadLibrary (fun file => (quiet_read file).bind fun bytes =>
      .pure (bytes.bind FileError.textOf?)) .empty settings.models
    exact (hlibrary.run_adapt fun cause => AssemblyFault.refused (.scoring cause)).run_bind
      fun _ => .pure _

/-! ### Replays -/

section

variable {settings trace : String} {log : Option String} {files emptied : Directory}
  {monitor : Monitor (Pool Unit)} {bytes : List UInt8}

/-- A replay that comes to read its trace: the settings describe a monitor, there is something under
the path of the trace, and the log, if there is to be one, has been emptied. -/
structure Prepared (settings trace : String) (log : Option String) (files emptied : Directory)
    (monitor : Monitor (Pool Unit)) (bytes : List UInt8) : Prop where
  loaded : ((loadMonitor enclosed settings).run.run files).1 = .ok monitor
  opened : files.probe trace = .ok ()
  created : files.withLog log "" = .ok emptied
  found : emptied.read trace = .ok bytes

lemma attempt_of_ok {ε α : Type} (failure : ε → Failure) {step : StateM Directory (Except ε α)}
    {d d' : Directory} {a : α} (h : step.run d = (.ok a, d')) :
    (attempt failure step).run.run d = (.ok a, d') := by
  rw [attempt, ExceptT.run_adapt, StateT.run_map]
  exact congrArg (fun r : Except ε α × Directory => (r.1.mapError failure, r.2)) h

lemma write_of_ok {path text : String} {d d' : Directory}
    (h : d.write path text.toUTF8.toList = .ok d') :
    (enclosed.write path text).run d = (.ok (), d') := by
  simp only [enclosed, StateT.run_bind, StateT.run_get, pure_bind, h]
  rfl

lemma Prepared.replay_eq (h : Prepared settings trace log files emptied monitor bytes)
    (format : Format) {final : Directory} {played : Replay (Pool Unit)}
    {fault : Option ReplayFault}
    (hplayed : Replay.trace monitor (.start (Pool.start ())) bytes = (played, fault))
    (hfinal : files.withLog log played.logText = .ok final) :
    (replay enclosed settings trace log format).run.run files =
      (fault.elim (.ok (format.write (replayReport monitor played.state played.records 0)))
        (.error ∘ replayFailure trace), final) := by
  have hload : (loadMonitor enclosed settings).run.run files = (.ok monitor, files) :=
    Prod.ext h.loaded (quiet_loadMonitor settings files)
  have hopen : (attempt (.opening trace) (enclosed.probe trace)).run.run files = (.ok (), files) :=
    attempt_of_ok _ (congrArg (·, files) h.opened)
  have hread : (attempt (.reading trace) (enclosed.read trace)).run.run emptied =
      (.ok bytes, emptied) :=
    attempt_of_ok _ (congrArg (·, emptied) h.found)
  have hwrite : ∀ {d d' : Directory} {text : String}, d.withLog log text = .ok d' →
      (match log with
        | some path => attempt (.creating path) (enclosed.write path text)
        | none => return).run.run d = (.ok (), d') := by
    intro d d' text hlog
    cases log with
    | some path => exact attempt_of_ok _ (write_of_ok hlog)
    | none =>
      obtain rfl : d = d' := Except.ok.inj hlog
      rfl
  have hnow : ∀ d : Directory, (ExceptT.lift (ε := Failure) enclosed.now).run.run d = (.ok 0, d) :=
    fun _ => rfl
  rw [replay, run_bind_of_ok hload, run_bind_of_ok hopen]
  refine (run_bind_of_ok (hwrite h.created)).trans ?_
  refine (run_bind_of_ok (hnow emptied)).trans ?_
  refine (run_bind_of_ok hread).trans ?_
  rw [hplayed]
  -- The log has been emptied by now, which a second write does not notice.
  refine (run_bind_of_ok (hwrite ((Directory.withLog_withLog h.created _).trans hfinal))).trans ?_
  cases fault with
  | none => rfl
  | some fault => rfl

end

/-! ### Outcomes -/

/-- What the replay of a trace comes to: a report, or the first line that says nothing. -/
def replayOutcome (trace report : String) : Option (Nat × TraceFault) → Outcome
  | none => ⟨0, report, ""⟩
  | some (n, fault) =>
    ⟨1, "", "Error: " ++ (trace ++ ":" ++ toString n ++ ": " ++ fault.message) ++ "\n"⟩

lemma run_of_replay {environment : String → Option String} {arguments : List String}
    {format : Format} {settings trace report : String} {log : Option String}
    {files final : Directory} {fault : Option (Nat × TraceFault)}
    (hcommand : Invocation.ofArguments? environment arguments =
      some ⟨format, .replay settings trace log⟩)
    (hreplay : (replay enclosed settings trace log format).run.run files =
      ((fault.map fun (n, f) => ReplayFault.record n f).elim (.ok report)
        (.error ∘ replayFailure trace), final)) :
    runEnclosed environment arguments files = (replayOutcome trace report fault, final) := by
  have hperform : (perform enclosed ⟨format, .replay settings trace log⟩).run.run files = _ :=
    hreplay
  rw [runEnclosed, run, hcommand]
  simp only [StateT.run_bind, hperform]
  cases fault <;> rfl

/-- The file of a log, if there is to be one, holds a text and can be read. -/
def LogHolds (files final : Directory) (log : Option String) (text : String) : Prop :=
  files.withLog log text = .ok final ∧
    ∀ path, log = some path → files.resolve path ≠ .ok .nullDevice →
      final.read path = .ok text.toUTF8.toList

/-- How a replay ends: with its summary in the format asked for, or, where a line spells no record,
with nothing but the number of that line and its fault. -/
inductive Concludes (trace : String) (format : Format) (summary : Summary) :
    Option (Nat × TraceFault) → Outcome → Prop
  | reported {report : String} (shown : summary.Shown report format) :
    Concludes trace format summary none ⟨0, report, ""⟩
  | stopped (n : Nat) (fault : TraceFault) :
    Concludes trace format summary (some (n, fault))
      ⟨1, "", "Error: " ++ (trace ++ ":" ++ toString n ++ ": " ++ fault.message) ++ "\n"⟩

lemma concludes_replayOutcome (trace : String) {format : Format} {summary : Summary}
    {report : String} (shown : summary.Shown report format) (fault : Option (Nat × TraceFault)) :
    Concludes trace format summary fault (replayOutcome trace report fault) := by
  cases fault with
  | none => exact .reported shown
  | some fault => exact .stopped fault.1 fault.2

/-- **A replay is a run of the monitor.** The lines of a trace that are neither empty nor comments
are read up to the first that spells no record. Every packet and every end among the records is put
to the monitor, in their order and at whatever times, and nothing else is. The log has one line for
each packet, from which the number of its line, its flow and sides, its length and the verdict on it
are read back. Where all lines were read, the command shows a summary that agrees with the log;
where one was not, the command names the first such line and shows nothing, and the log has the
verdicts that were given before it. -/
theorem replay_refines_monitor {environment : String → Option String} {arguments : List String}
    {format : Format} {settings trace : String} {log : Option String} {files emptied : Directory}
    {monitor : Monitor (Pool Unit)} {text : String}
    (hcommand : Invocation.ofArguments? environment arguments =
      some ⟨format, .replay settings trace log⟩)
    (hprepared : Prepared settings trace log files emptied monitor text.toUTF8.toList) :
    ∃ records fault,
      Trace.Reads (Trace.sayings 1 (Text.lines '\n' text.toList)) records fault ∧
      ∀ now : Nat → Nat,
        let events := Trace.calls now records
        let state := monitor.after (Pool.start ()) events
        let decisions := Trace.decisions records (monitor.verdicts (Pool.start ()) events)
        let summary := Summary.ofRun monitor state records.length 0
        (Replay.trace monitor (.start (Pool.start ())) text.toUTF8.toList).1.state =
          state.untimed ∧
        Trace.Decided records decisions ∧ summary.Agrees records decisions ∧
        ∃ written final outcome, Decision.Logged decisions written ∧
          LogHolds files final log written ∧
          runEnclosed environment arguments files = (outcome, final) ∧
          Concludes trace format summary fault outcome := by
  obtain ⟨records, fault, hreads⟩ :=
    Trace.exists_reads (Trace.sayings 1 (Text.lines '\n' text.toList))
  refine ⟨records, fault, hreads, fun now => ?_⟩
  intro events state decisions summary
  have hplayed := Replay.trace_eq_run monitor (Pool.start ()) hreads now
  have hlog : String.join (decisions.map Decision.entry).reverse.reverse =
      String.join (decisions.map Decision.entry) := by
    rw [List.reverse_reverse]
  obtain ⟨final, hfinal⟩ :=
    Directory.exists_withLog hprepared.created (String.join (decisions.map Decision.entry))
  have hreplay := hprepared.replay_eq format hplayed (hlog ▸ hfinal)
  have hreport : replayReport monitor state.untimed records.length 0 =
      replayReport monitor state records.length 0 := by
    simp only [replayReport, Monitor.State.untimed_size, Monitor.State.untimed_tally]
  rw [hreport] at hreplay
  have hshown := Summary.shown_ofRun format monitor state records.length 0
  refine ⟨congrArg (fun r => r.1.state) hplayed,
    Trace.decided monitor (Pool.start ()) now hreads,
    Summary.agrees_ofRun monitor (Pool.start ()) now records 0, _, final, _,
    Decision.logged_entries decisions, ⟨hfinal, fun path hpath hfile => ?_⟩,
    run_of_replay hcommand hreplay, concludes_replayOutcome trace hshown fault⟩
  subst hpath
  rw [Directory.read_write hfinal, if_neg hfile]

end Console

namespace Sample

/-- A packet to a web server, one that looks like ciphertext to another, and the end of the first
one's flow. -/
def conversation : List String := [
  "# three records",
  "",
  "\x7b\"src\": \"10.0.0.1:5\", \"dst\": \"10.0.0.2:443\"\x7d",
  "\x7b\"src\": \"10.0.0.1:5\", \"dst\": \"10.0.0.2:22\", \"payload\": \"ffff\"\x7d",
  " \x7b\"src\": \"10.0.0.2:443\", \"dst\": \"10.0.0.1:5\", \"end\": true\x7d "]

def traceOf (lines : List String) : String := String.join (lines.map (· ++ "\n"))

def dense : Packet := ⟨⟨.ofBytes 10 0 0 1, 5⟩, ⟨.ofBytes 10 0 0 2, 22⟩, .tcp, .empty, [0xff, 0xff]⟩

def conversationRecords : List (TraceEvent × Nat) :=
  [(.packet (packet 5), 3), (.packet dense, 4), (.close (packet 5).flow, 5)]

def desk (trace : List UInt8) : Directory := .ofFiles [("s", []), ("t", trace)]

def standard : Monitor (Pool Unit) := ⟨{}, .fingerprint ({} : FingerprintSettings).fingerprint⟩

def cleared (trace : List UInt8) : Directory :=
  (desk trace).put ⟨.above 0, [['d']]⟩ "".toUTF8.toList

lemma prepared (trace : List UInt8) :
    Console.Prepared "s" "t" (some "d") (desk trace) (cleared trace) standard trace :=
  ⟨rfl, rfl, rfl, rfl⟩

end Sample

namespace Console

open Sample in
/-- A replay of a trace on the desk with arguments that ask for a format: the log tells of the two
packets of the conversation, the second of them dropped, and the counters go with it. -/
def Replays (arguments : List String) (format : Format) (lines : List String)
    (fault : Option (Nat × TraceFault)) : Prop :=
  let trace := (traceOf lines).toUTF8.toList
  Invocation.ofArguments? (fun _ => none) arguments =
    some ⟨format, .replay "s" "t" (some "d")⟩ ∧
  Prepared "s" "t" (some "d") (desk trace) (cleared trace) standard trace ∧
  ∃ written final outcome,
    Decision.Logged [⟨3, packet 5, .pass⟩, ⟨4, dense, .drop⟩] written ∧
    LogHolds (desk trace) final (some "d") written ∧
    runEnclosed (fun _ => none) arguments (desk trace) = (outcome, final) ∧
    Concludes "t" format ⟨0, 1, none, 3, ⟨2, 2, 1, 1, 0, 2, 1, 0, 0, 0⟩⟩ fault outcome

open Sample in
/-- The conversation replayed with a report as text and as a document, and with a line after it that
spells no record. -/
theorem replay_refines_monitor_conversation :
    Replays ["replay", "-c", "s", "-t", "t", "--decision-log", "d"] .text conversation none ∧
    Replays ["--format", "json", "replay", "-c", "s", "-t", "t", "--decision-log", "d"] .json
      conversation none ∧
    Replays ["replay", "-c", "s", "-t", "t", "--decision-log", "d"] .text
      (conversation ++ ["nonsense"]) (some (6, .malformed)) := by
  have hverdicts : standard.verdicts (Pool.start ())
      (Trace.calls (fun _ => 0) conversationRecords) = [.pass, .drop] := by decide +kernel
  have hsummary : Summary.ofRun standard
      (standard.after (Pool.start ()) (Trace.calls (fun _ => 0) conversationRecords)) 3 0 =
        ⟨0, 1, none, 3, ⟨2, 2, 1, 1, 0, 2, 1, 0, 0, 0⟩⟩ := by decide +kernel
  -- The three replays differ in their arguments and their lines, and have the same records.
  have hreplays : ∀ {arguments format lines fault},
      Invocation.ofArguments? (fun _ => none) arguments =
        some ⟨format, .replay "s" "t" (some "d")⟩ →
      (∀ line ∈ lines, OneLine line) →
      Trace.Reads (Trace.sayings 1 (lines.map String.toList)) conversationRecords fault →
      Replays arguments format lines fault := by
    intro arguments format lines fault hcommand honeLine hread
    have hprepared := prepared (traceOf lines).toUTF8.toList
    obtain ⟨records, fault', hreads, hplayed⟩ := replay_refines_monitor hcommand hprepared
    rw [traceOf, Text.lines_join honeLine] at hreads
    obtain ⟨rfl, rfl⟩ := hreads.unique hread
    obtain ⟨-, -, -, written, final, outcome, hlogged, hholds, hrun, hconcludes⟩ :=
      hplayed fun _ => 0
    rw [hverdicts] at hlogged
    have hlength : conversationRecords.length = 3 := rfl
    rw [hlength, hsummary] at hconcludes
    exact ⟨hcommand, hprepared, written, final, outcome, hlogged, hholds, hrun, hconcludes⟩
  have hlines : Trace.sayings 1 (conversation.map String.toList) =
      [("\x7b\"src\": \"10.0.0.1:5\", \"dst\": \"10.0.0.2:443\"\x7d", 3),
        ("\x7b\"src\": \"10.0.0.1:5\", \"dst\": \"10.0.0.2:22\", \"payload\": \"ffff\"\x7d", 4),
        ("\x7b\"src\": \"10.0.0.2:443\", \"dst\": \"10.0.0.1:5\", \"end\": true\x7d", 5)] := by
    decide +kernel
  have hlast : Trace.sayings 6 ["nonsense".toList] = [("nonsense", 6)] := by decide +kernel
  have hread : ∀ {rest fault}, Trace.Reads rest [] fault →
      Trace.Reads (Trace.sayings 1 (conversation.map String.toList) ++ rest)
        conversationRecords fault := by
    intro rest fault hrest
    rw [hlines]
    refine .record ?_ (.record ?_ (.record ?_ hrest)) <;> decide +kernel
  have honeLine : ∀ line ∈ conversation ++ ["nonsense"], OneLine line := by decide +kernel
  have hwhole := hread .done
  rw [List.append_nil] at hwhole
  have hfirst := fun line hline => honeLine line (List.mem_append_left _ hline)
  refine ⟨hreplays (by decide +kernel) hfirst hwhole, hreplays (by decide +kernel) hfirst hwhole,
    hreplays (by decide +kernel) honeLine ?_⟩
  have hbroken : Trace.sayings 1 ((conversation ++ ["nonsense"]).map String.toList) =
      Trace.sayings 1 (conversation.map String.toList) ++ [("nonsense", 6)] := by
    rw [List.map_append, Trace.sayings_append]
    exact congrArg _ hlast
  rw [hbroken]
  exact hread (.stop (by decide +kernel))

end Console

end FlowVerdict
