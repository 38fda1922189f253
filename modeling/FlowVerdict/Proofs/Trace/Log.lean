import FlowVerdict.Proofs.Trace.Names

/-!
The log of a replay, read line by line. Whoever reads a line learns all that was written: the number
of the line in the trace, the flow of the packet, both its sides, the length of its payload, and the
verdict on it.
-/

namespace FlowVerdict

open Json.Reader (document? document?_compact)

lemma Text.lines_join {pieces : List String} (h : ∀ piece ∈ pieces, OneLine piece) :
    lines '\n' (String.join (pieces.map (· ++ "\n"))).toList = pieces.map String.toList := by
  have htext : (String.join (pieces.map (· ++ "\n"))).toList =
      (pieces.map String.toList).flatMap (· ++ ['\n']) := by
    rw [String.toList_join, List.flatMap_map, List.flatMap_map]
    exact List.flatMap_congr fun piece _ => String.toList_append
  rw [htext, lines_flatMap (List.forall_mem_map.mpr h)]

/-- A packet of a trace with the number of its line and the verdict on it. -/
structure Decision where
  line : Nat
  packet : Packet
  verdict : Verdict

structure LogLine where
  line : Nat
  flow : FlowId
  source : Endpoint
  target : Endpoint
  length : Nat
  action : Verdict
deriving DecidableEq

namespace LogLine

def actions : List (String × Verdict) := [("pass", .pass), ("drop", .drop), ("reset", .reset)]

def ofText? (text : String) : Option LogLine := do
  let json ← document? text
  let textOf (name : String) := (json.member? name).bind Json.text?
  return {
    line := ← (json.member? "line").bind Json.natural?
    flow := ← (textOf "flow").bind FlowId.ofText?
    source := ← (textOf "src").bind Endpoint.ofText?
    target := ← (textOf "dst").bind Endpoint.ofText?
    length := ← (json.member? "len").bind Json.natural?
    action := ← (textOf "action").bind (List.lookup · actions) }

end LogLine

namespace Decision

/-- What the log is to tell of a decision. -/
def told (d : Decision) : LogLine where
  line := d.line
  flow := d.packet.flow
  source := d.packet.source
  target := d.packet.target
  length := d.packet.payload.length
  action := d.verdict

def entry (d : Decision) : String := Replay.entry d.line d.packet d.verdict

lemma ofText?_spelling (n : Nat) (p : Packet) (v : Verdict) :
    LogLine.ofText? (Json.Writer.compact (Replay.spelling n p v).datum) =
      some (told ⟨n, p, v⟩) := by
  have hread := document?_compact (Replay.spelling n p v) "" rfl
  rw [String.append_empty] at hread
  have hname : List.lookup v.name LogLine.actions = some v := by cases v <;> rfl
  rw [LogLine.ofText?, hread]
  simp [Replay.spelling, Json.member?_ofTable, Json.natural?_ofNatural, Json.text?_ofText,
    FlowId.ofText?_text, Endpoint.ofText?_text, hname, told]

/-- **A decision is read back** from its line of the log. -/
theorem exists_line (d : Decision) :
    ∃ line, d.entry = line ++ "\n" ∧ OneLine line ∧ LogLine.ofText? line = some d.told := by
  refine ⟨_, rfl, ?_, ofText?_spelling d.line d.packet d.verdict⟩
  refine Json.Writer.oneLine_table ?_
  simp only [List.forall_mem_cons, List.not_mem_nil, false_implies, implies_true, and_true]
  exact ⟨Json.Writer.oneLine_integer _, Json.Writer.oneLine_text _, Json.Writer.oneLine_text _,
    Json.Writer.oneLine_text _, Json.Writer.oneLine_integer _, Json.Writer.oneLine_text _⟩

/-- The text has a line for each decision, from which the decision is read back. -/
def Logged (decisions : List Decision) (text : String) : Prop :=
  ∃ lines : List String, text = String.join (lines.map (· ++ "\n")) ∧
    (∀ line ∈ lines, OneLine line) ∧ lines.map LogLine.ofText? = decisions.map (some ∘ told)

lemma logged_entries (decisions : List Decision) :
    Logged decisions (String.join (decisions.map entry)) := by
  induction decisions with
  | nil => exact ⟨[], rfl, by simp, rfl⟩
  | cons d decisions ih =>
    obtain ⟨lines, htext, honeLine, htold⟩ := ih
    obtain ⟨line, hentry, hline, hread⟩ := d.exists_line
    refine ⟨line :: lines, ?_, List.forall_mem_cons.mpr ⟨hline, honeLine⟩, ?_⟩
    · rw [List.map_cons, List.map_cons, String.join_cons, String.join_cons, htext, hentry]
    · rw [List.map_cons, List.map_cons, hread, htold]
      rfl

end Decision

end FlowVerdict
