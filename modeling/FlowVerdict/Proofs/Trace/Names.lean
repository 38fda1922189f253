import FlowVerdict.Proofs.Json.Documents
import FlowVerdict.Proofs.Net.Printed
import FlowVerdict.Trace.Replay

/-!
What traces and logs call endpoints and flows. The records of a trace name their endpoints by texts,
and every record is read back from such a line. A line of the log names the flow of a packet and
both its sides, and whoever reads the names takes no flow and no endpoint for another.
-/

namespace FlowVerdict

open Json.Reader (Value document? document?_compact)

/-! ### Traces -/

namespace Transport

/-- A protocol as a value of a document. -/
def spelling : Transport → Value
  | .other n => .ofTable [("other", .ofNatural n.toNat)]
  | t => .ofText t.name

lemma stands_spelling (t : Transport) : t.spelling.Stands := by
  cases t with
  | tcp => exact Value.stands_ofText _
  | udp => exact Value.stands_ofText _
  | other n =>
    exact Value.stands_ofTable (List.forall_mem_singleton.mpr
      (Value.stands_ofNatural (Nat.lt_trans n.toNat_lt (by decide))))

lemma ofDatum?_spelling (t : Transport) : ofDatum? Json.dialect t.spelling.datum = some t := by
  cases t with
  | tcp => rfl
  | udp => rfl
  | other n =>
    have hn : (Datum.integer n.toNat).byte? = some n := by
      have hlt : (n.toNat : Int) < UInt8.size := Int.ofNat_lt.mpr n.toNat_lt
      rw [Datum.byte?, Datum.natBelow?, if_pos ⟨Int.natCast_nonneg _, hlt⟩, Option.map_some,
        Int.toNat_natCast, UInt8.ofNat_toNat]
    have hdatum : (other n).spelling.datum = .table [("other", .integer n.toNat)] := rfl
    simp [hdatum, ofDatum?, Datum.alternative?, Json.dialect, hn]

end Transport

namespace TraceRecord

/-- A record as a value of a document, with the endpoints named by their texts. -/
def spelling (r : TraceRecord) : Value :=
  .ofTable [("src", .ofText r.source.text), ("dst", .ofText r.target.text),
    ("proto", r.transport.spelling), ("payload", .ofText r.payload),
    ("flags", .ofList (r.flags.map .ofText)), ("end", .ofBoolean r.ends)]

def line (r : TraceRecord) : String := Json.Writer.compact r.spelling.datum

lemma endpoint?_text (e : Endpoint) : endpoint? (.text e.text) = some e := e.ofText?_text

lemma list?_texts (texts : List String) :
    Datum.list? Datum.text? (.list ((texts.map Value.ofText).map Value.datum)) = some texts := by
  rw [Datum.list?]
  induction texts with
  | nil => rfl
  | cons s texts ih =>
    rw [List.map_cons, List.map_cons, List.mapM_cons, ih]
    rfl

lemma stands_spelling (r : TraceRecord) : r.spelling.Stands := by
  refine Value.stands_ofTable ?_
  simp only [List.forall_mem_cons, List.not_mem_nil, false_implies, implies_true, and_true]
  exact ⟨Value.stands_ofText _, Value.stands_ofText _, r.transport.stands_spelling,
    Value.stands_ofText _, Value.stands_ofList (List.forall_mem_map.mpr fun s _ =>
      Value.stands_ofText s), Value.stands_ofBoolean _⟩

lemma ofDatum?_spelling (r : TraceRecord) : ofDatum? r.spelling.datum = some r := by
  have hfields : Datum.fields? Json.dialect fieldNames r.spelling.datum =
      some [some (.text r.source.text), some (.text r.target.text),
        some r.transport.spelling.datum, some (.text r.payload),
        some (.list ((r.flags.map Value.ofText).map Value.datum)), some (.boolean r.ends)] := rfl
  have hpayload : (Datum.text r.payload).text? = some r.payload := rfl
  have hends : (Datum.boolean r.ends).boolean? = some r.ends := rfl
  simp only [ofDatum?, hfields, endpoint?_text, Datum.orDefault, Transport.ofDatum?_spelling,
    list?_texts, Option.bind_eq_bind, Option.bind_some, hpayload, hends]
  rfl

/-- **A record is read back from its line**, which names endpoints by their texts. -/
theorem ofLine_line (r : TraceRecord) : ofLine r.line = .ok r := by
  have hread := document?_compact r.spelling "" rfl
  have hstands : r.spelling.json.datum? = some r.spelling.datum := r.stands_spelling
  rw [String.append_empty] at hread
  rw [ofLine, line, hread, Option.bind_some, hstands, Option.bind_some, ofDatum?_spelling]

end TraceRecord

/-! ### Logs -/

namespace Replay

/-- The entry of the log for a packet as a value of a document. -/
def spelling (n : Nat) (p : Packet) (v : Verdict) : Value :=
  .ofTable [("line", .ofNatural n), ("flow", .ofText p.flow.text), ("src", .ofText p.source.text),
    ("dst", .ofText p.target.text), ("len", .ofNatural p.payload.length),
    ("action", .ofText v.name)]

/-- The fields of the log that name a flow and its sides. -/
def nameFields : List String := ["flow", "src", "dst"]

/-- What a line of the log names. The other fields need no meaning. -/
def names? (line : String) : Option (List (Option Datum)) := do
  let json ← document? line
  let named ← json.select? nameFields
  let datum ← named.datum?
  datum.fields? Json.dialect nameFields

def namesOf (p : Packet) : List (Option Datum) :=
  [some (.text p.flow.text), some (.text p.source.text), some (.text p.target.text)]

/-- **A line of the log names** the flow of its packet, the source and the target. -/
theorem names?_entry (n : Nat) (p : Packet) (v : Verdict) :
    names? (entry n p v) = some (namesOf p) := by
  have hread : document? (entry n p v) = some (spelling n p v).json :=
    document?_compact (spelling n p v) "\n" rfl
  rw [names?, hread]
  rfl

lemma namesOf_eq_iff (p q : Packet) :
    namesOf p = namesOf q ↔ p.flow = q.flow ∧ p.source = q.source ∧ p.target = q.target := by
  simp only [namesOf, List.cons.injEq, Option.some.injEq, Datum.text.injEq, and_true,
    FlowId.text_injective.eq_iff, Endpoint.text_injective.eq_iff]

end Replay

/-- **Names are unambiguous.** The text of every endpoint, whatever address it has, is accepted
where a trace names an endpoint, and stands for that endpoint. No two flows have one text. What the
log names are the flow of a packet and its sides, and the names determine them. -/
theorem names_unambiguous :
    (∀ e : Endpoint, TraceRecord.endpoint? (.text e.text) = some e) ∧
    (∀ r : TraceRecord, TraceRecord.ofLine r.line = .ok r) ∧
    Function.Injective FlowId.text ∧
    (∀ n p v, Replay.names? (Replay.entry n p v) = some (Replay.namesOf p)) ∧
    (∀ p q : Packet, Replay.namesOf p = Replay.namesOf q ↔
      p.flow = q.flow ∧ p.source = q.source ∧ p.target = q.target) :=
  ⟨TraceRecord.endpoint?_text, TraceRecord.ofLine_line, FlowId.text_injective,
    Replay.names?_entry, Replay.namesOf_eq_iff⟩

end FlowVerdict
