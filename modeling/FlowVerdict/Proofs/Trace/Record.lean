import FlowVerdict.Proofs.Text.Hex
import FlowVerdict.Trace.Record

/-!
What a record of a trace says, read off its fields. A record that ends a flow says so whatever else
is in it. Any other record says a packet if its payload spells bytes and each of its flags has a
name; the packet then has the fields of the record, the bytes that are spelled, and the flags that
are named, in whatever order and how often. If it does not, the payload is to blame before the flags
are, and of these the first without a name.
-/

namespace FlowVerdict

open Text (Blank Respells Trimmed)
open Text.Hex (IsSpelling Misspells Spells decode decode_eq_ok_iff isSpelling_iff)

/-! ### Flags -/

namespace TcpFlags

/-- The flags with their names. -/
def byName : List (String × UInt8) :=
  [("fin", fin), ("syn", syn), ("rst", rst), ("psh", psh), ("ack", ack)]

/-- The name is that of the flag, its letters in either case. -/
def Names (name : String) (mask : UInt8) : Prop :=
  ∃ word, (word, mask) ∈ byName ∧ Respells name word

def IsName (name : String) : Prop := ∃ mask, Names name mask

/-- The flags are all that are named, and no other. -/
def Gathers (f : TcpFlags) (flags : List String) : Prop :=
  ∀ i, f.bits.toNat.testBit i = true ↔
    ∃ name ∈ flags, ∃ mask, Names name mask ∧ mask.toNat.testBit i = true

lemma not_isUpper_of_mem_byName {word : String} {mask : UInt8} (h : (word, mask) ∈ byName) :
    ∀ c ∈ word.toList, c.isUpper = false := by
  have hall : byName.all fun entry => entry.1.toList.all fun c => !c.isUpper := by decide
  intro c hc
  simpa using List.all_eq_true.mp (List.all_eq_true.mp hall _ h) c hc

lemma names_iff_mem_byName {name : String} {mask : UInt8} :
    Names name mask ↔ (Text.lowerAscii name, mask) ∈ byName := by
  constructor
  · rintro ⟨word, hword, hname⟩
    rwa [(Text.lowerAscii_eq_iff (not_isUpper_of_mem_byName hword)).mpr hname]
  · intro h
    exact ⟨_, h, (Text.lowerAscii_eq_iff (not_isUpper_of_mem_byName h)).mp rfl⟩

lemma ofName?_eq_some_iff {name : String} {mask : UInt8} :
    ofName? name = some mask ↔ Names name mask := by
  rw [names_iff_mem_byName, ofName?]
  generalize Text.lowerAscii name = word
  split <;> simp_all [byName, eq_comm]

lemma ofName?_eq_none_iff {name : String} : ofName? name = none ↔ ¬IsName name := by
  simp only [IsName, ← ofName?_eq_some_iff, Option.eq_none_iff_forall_ne_some, not_exists, ne_eq]

lemma Names.unique {name : String} {mask other : UInt8} (h : Names name mask)
    (h' : Names name other) : mask = other :=
  Option.some.inj ((ofName?_eq_some_iff.mpr h).symm.trans (ofName?_eq_some_iff.mpr h'))

lemma gathers_nil : Gathers empty [] := fun i => by simp [empty]

lemma Gathers.snoc {f : TcpFlags} {flags : List String} (hf : Gathers f flags) {name : String}
    {mask : UInt8} (hname : Names name mask) : Gathers (f.set mask) (flags ++ [name]) := by
  intro i
  rw [set, UInt8.toNat_or, Nat.testBit_or, Bool.or_eq_true, hf i]
  constructor
  · rintro (⟨other, hmem, hother⟩ | hbit)
    · exact ⟨other, List.mem_append_left _ hmem, hother⟩
    · exact ⟨name, List.mem_append_right _ (List.mem_singleton_self name), mask, hname, hbit⟩
  · rintro ⟨other, hmem, m, hm, hbit⟩
    rcases List.mem_append.mp hmem with hmem | hmem
    · exact .inl ⟨other, hmem, m, hm, hbit⟩
    · rw [List.mem_singleton.mp hmem] at hm
      rw [← hm.unique hname]
      exact .inr hbit

lemma Gathers.unique {f g : TcpFlags} {flags : List String} (hf : Gathers f flags)
    (hg : Gathers g flags) : f = g := by
  have hbits : f.bits.toNat = g.bits.toNat := Nat.eq_of_testBit_eq fun i =>
    Bool.eq_iff_iff.mpr ((hf i).trans (hg i).symm)
  cases f
  cases g
  exact congrArg TcpFlags.mk (UInt8.toNat_inj.mp hbits)

lemma Gathers.of_mem_iff {f : TcpFlags} {flags others : List String} (hf : Gathers f flags)
    (h : ∀ name, name ∈ others ↔ name ∈ flags) : Gathers f others := by
  intro i
  simp only [h]
  exact hf i

end TcpFlags

namespace TraceRecord

open TcpFlags (Names IsName Gathers)

/-- **Flags that have names** are gathered one after the other. -/
theorem withFlags_of_named {f : TcpFlags} {read rest : List String} (hf : Gathers f read)
    (hrest : ∀ name ∈ rest, IsName name) :
    ∃ g, withFlags f rest = .ok g ∧ Gathers g (read ++ rest) := by
  induction rest generalizing f read with
  | nil => exact ⟨f, rfl, by rwa [List.append_nil]⟩
  | cons name rest ih =>
    obtain ⟨⟨mask, hname⟩, hrest⟩ := List.forall_mem_cons.mp hrest
    rw [withFlags, TcpFlags.ofName?_eq_some_iff.mpr hname, List.append_cons]
    exact ih (hf.snoc hname) hrest

lemma withFlags_of_unknown {known rest : List String} {name : String}
    (hknown : ∀ n ∈ known, IsName n) (hname : ¬IsName name) (f : TcpFlags) :
    withFlags f (known ++ name :: rest) = .error (.unknownFlag name) := by
  induction known generalizing f with
  | nil => rw [List.nil_append, withFlags, TcpFlags.ofName?_eq_none_iff.mpr hname]
  | cons n known ih =>
    obtain ⟨⟨mask, hn⟩, hknown⟩ := List.forall_mem_cons.mp hknown
    rw [List.cons_append, withFlags, TcpFlags.ofName?_eq_some_iff.mpr hn]
    exact ih hknown (f.set mask)

lemma withFlags_eq_ok_iff {flags : List String} {f : TcpFlags} :
    withFlags .empty flags = .ok f ↔ (∀ name ∈ flags, IsName name) ∧ Gathers f flags := by
  constructor
  · intro h
    rcases forall_or_first IsName flags with hall | ⟨known, name, rest, rfl, hknown, hname⟩
    · obtain ⟨g, hg, hgathers⟩ := withFlags_of_named TcpFlags.gathers_nil hall
      rw [← Except.ok.inj (hg.symm.trans h)]
      exact ⟨hall, hgathers⟩
    · cases (withFlags_of_unknown hknown hname .empty).symm.trans h
  · rintro ⟨hall, hf⟩
    obtain ⟨g, hg, hgathers⟩ := withFlags_of_named TcpFlags.gathers_nil hall
    rw [hg, hf.unique hgathers]

/-! ### Records -/

variable {r : TraceRecord}

lemma event_of_ends (h : r.ends = true) : r.event = .ok (.close r.flow) := by
  rw [event, h]
  rfl

lemma event_of_fault (h : r.ends = false) {fault : Text.Hex.Fault}
    (hpayload : decode (Text.trim r.payload) = .error fault) :
    r.event = .error (.payload fault) := by
  rw [event, h, payloadBytes, hpayload]
  rfl

lemma event_of_bytes (h : r.ends = false) {bytes : Payload}
    (hpayload : decode (Text.trim r.payload) = .ok bytes) :
    r.event = (withFlags .empty r.flags).map fun flags =>
      .packet ⟨r.source, r.target, r.transport, flags, bytes⟩ := by
  rw [event, h, payloadBytes, hpayload]
  cases withFlags .empty r.flags <;> rfl

/-- The packet is what the record spells: it has the sides and the protocol of the record, the bytes
that its payload spells, and the flags that it names. -/
structure Describes (r : TraceRecord) (p : Packet) : Prop where
  source_eq : p.source = r.source
  target_eq : p.target = r.target
  transport_eq : p.transport = r.transport
  payload : Spells (Text.trim r.payload) p.payload
  named : ∀ name ∈ r.flags, IsName name
  flags : p.flags.Gathers r.flags

lemma Describes.flow_eq {p : Packet} (h : r.Describes p) : p.flow = r.flow := by
  rw [Packet.flow, flow, h.source_eq, h.target_eq, h.transport_eq]

/-- **A record that ends nothing** says the packet that it describes, and nothing else. -/
theorem event_eq_ok_iff (h : r.ends = false) (e : TraceEvent) :
    r.event = .ok e ↔ ∃ p, e = .packet p ∧ r.Describes p := by
  constructor
  · intro he
    cases hpayload : decode (Text.trim r.payload) with
    | error fault => cases (event_of_fault h hpayload).symm.trans he
    | ok bytes =>
      rw [event_of_bytes h hpayload] at he
      cases hflags : withFlags .empty r.flags with
      | error fault =>
        rw [hflags] at he
        cases he
      | ok flags =>
        obtain ⟨hnamed, hgathers⟩ := withFlags_eq_ok_iff.mp hflags
        rw [hflags] at he
        exact ⟨_, (Except.ok.inj he).symm, rfl, rfl, rfl, decode_eq_ok_iff.mp hpayload,
          hnamed, hgathers⟩
  · rintro ⟨p, rfl, hp⟩
    rw [event_of_bytes h (decode_eq_ok_iff.mpr hp.payload),
      withFlags_eq_ok_iff.mpr ⟨hp.named, hp.flags⟩, ← hp.source_eq, ← hp.target_eq,
      ← hp.transport_eq]
    rfl

lemma exists_describes_iff : (∃ p, r.Describes p) ↔
    IsSpelling (Text.trim r.payload) ∧ ∀ name ∈ r.flags, IsName name := by
  constructor
  · rintro ⟨p, hp⟩
    exact ⟨isSpelling_iff.mpr ⟨_, hp.payload⟩, hp.named⟩
  · rintro ⟨hpayload, hnamed⟩
    obtain ⟨bytes, hbytes⟩ := isSpelling_iff.mp hpayload
    obtain ⟨flags, -, hflags⟩ := withFlags_of_named TcpFlags.gathers_nil hnamed
    exact ⟨⟨r.source, r.target, r.transport, flags, bytes⟩, rfl, rfl, rfl, hbytes, hnamed, hflags⟩

lemma exists_event_iff (h : r.ends = false) : (∃ e, r.event = .ok e) ↔
    IsSpelling (Text.trim r.payload) ∧ ∀ name ∈ r.flags, IsName name := by
  rw [← exists_describes_iff]
  constructor
  · rintro ⟨e, he⟩
    obtain ⟨p, -, hp⟩ := (event_eq_ok_iff h e).mp he
    exact ⟨p, hp⟩
  · rintro ⟨p, hp⟩
    exact ⟨.packet p, (event_eq_ok_iff h _).mpr ⟨p, rfl, hp⟩⟩

lemma flow_of_event {p : Packet} (hp : r.event = .ok (.packet p)) : p.flow = r.flow := by
  cases h : r.ends with
  | true => cases (event_of_ends h).symm.trans hp
  | false =>
    obtain ⟨_, ⟨⟩, hdescribes⟩ := (event_eq_ok_iff h _).mp hp
    exact hdescribes.flow_eq

/-- A payload that spells no bytes is reported before anything is known of the flags. -/
lemma event_of_misspelled (h : r.ends = false) (hpayload : ¬IsSpelling (Text.trim r.payload)) :
    ∃ fault, Misspells (Text.trim r.payload).toUTF8.toList fault ∧
      r.event = .error (.payload fault) := by
  rcases Text.Hex.spells_or_misspells (Text.trim r.payload) with hspells | ⟨fault, hfault⟩
  · exact absurd (isSpelling_iff.mpr hspells) hpayload
  · exact ⟨fault, hfault, event_of_fault h (Text.Hex.decode_eq_error_iff.mpr hfault)⟩

lemma event_of_unknown (h : r.ends = false) (hpayload : IsSpelling (Text.trim r.payload))
    {known rest : List String} {name : String} (hflags : r.flags = known ++ name :: rest)
    (hknown : ∀ n ∈ known, IsName n) (hname : ¬IsName name) :
    r.event = .error (.unknownFlag name) := by
  obtain ⟨bytes, hbytes⟩ := isSpelling_iff.mp hpayload
  rw [event_of_bytes h (decode_eq_ok_iff.mpr hbytes), hflags,
    withFlags_of_unknown hknown hname]
  rfl

lemma event_of_spelled (h : r.ends = false) (hnamed : ∀ name ∈ r.flags, IsName name)
    {before after : List Char} {text : String} {bytes : Payload} (hbefore : Blank before)
    (hafter : Blank after) (hbytes : Spells text bytes) :
    ∃ p, { r with payload := String.ofList (before ++ text.toList ++ after) }.event =
      .ok (.packet p) ∧ p.payload = bytes := by
  have hspelling : IsSpelling text := isSpelling_iff.mpr ⟨bytes, hbytes⟩
  have hread : decode (Text.trim (String.ofList (before ++ text.toList ++ after))) =
      .ok bytes := by
    rw [Text.trim_around hbefore hafter hspelling.tight]
    exact decode_eq_ok_iff.mpr hbytes
  obtain ⟨flags, hflags, -⟩ := withFlags_of_named TcpFlags.gathers_nil hnamed
  refine ⟨⟨r.source, r.target, r.transport, flags, bytes⟩, ?_, rfl⟩
  have hevent := @event_of_bytes
    { r with payload := String.ofList (before ++ text.toList ++ after) } h bytes hread
  rw [hevent, hflags]
  rfl

lemma event_of_mem_iff {flags : List String} (hflags : ∀ name, name ∈ flags ↔ name ∈ r.flags)
    {e : TraceEvent} (he : r.event = .ok e) : { r with flags }.event = .ok e := by
  by_cases h : r.ends = true
  · exact (@event_of_ends { r with flags } h).trans ((event_of_ends h).symm.trans he)
  · rw [Bool.not_eq_true] at h
    obtain ⟨p, rfl, hp⟩ := (event_eq_ok_iff h e).mp he
    have hdescribes : { r with flags }.Describes p := { hp with
      named := fun name hmem => hp.named name ((hflags name).mp hmem)
      flags := hp.flags.of_mem_iff hflags }
    exact (@event_eq_ok_iff { r with flags } h _).mpr ⟨p, rfl, hdescribes⟩

/-- What a record says is read off its fields. -/
structure ReadOff (r : TraceRecord) : Prop where
  /-- A record that ends a flow says so, whatever its payload and flags. -/
  close : r.ends = true → r.event = .ok (.close (FlowId.between r.source r.target r.transport))
  /-- Any other record says something exactly if its payload is an even number of digits, blanks
  around them aside, and all its flags have names. -/
  succeeds_iff : r.ends = false → ((∃ e, r.event = .ok e) ↔
    IsSpelling (Text.trim r.payload) ∧ ∀ name ∈ r.flags, IsName name)
  /-- The blanks around the payload are put aside, and nothing else. -/
  trimmed : Trimmed r.payload (Text.trim r.payload)
  /-- What it then says is the packet that it describes. -/
  packet_iff : r.ends = false → ∀ e, r.event = .ok e ↔ ∃ p, e = .packet p ∧ r.Describes p
  /-- The packet belongs to the flow of the record. -/
  flow_eq : ∀ p, r.event = .ok (.packet p) → p.flow = r.flow
  /-- A payload that spells nothing is reported, whatever the flags. -/
  payload_first : r.ends = false → ¬IsSpelling (Text.trim r.payload) → ∃ fault,
    Misspells (Text.trim r.payload).toUTF8.toList fault ∧ r.event = .error (.payload fault)
  /-- After a payload that spells bytes, the first flag without a name is reported. -/
  flag_next : r.ends = false → IsSpelling (Text.trim r.payload) → ∀ known name rest,
    r.flags = known ++ name :: rest → (∀ n ∈ known, IsName n) → ¬IsName name →
    r.event = .error (.unknownFlag name)
  /-- Every spelling of bytes gives them back, with whatever blanks around it. -/
  spelled : r.ends = false → (∀ name ∈ r.flags, IsName name) →
    ∀ before text after bytes, Blank before → Blank after → Spells text bytes →
    ∃ p, { r with payload := String.ofList (before ++ text.toList ++ after) }.event =
      .ok (.packet p) ∧ p.payload = bytes
  /-- The order and the repetition of flags make no difference. -/
  reordered : ∀ flags, (∀ name, name ∈ flags ↔ name ∈ r.flags) →
    ∀ e, r.event = .ok e → { r with flags }.event = .ok e

/-- **What a record says**, whatever it spells: that a flow ends, or the packet that its fields
describe, or what is wrong with it, the payload before the flags and an earlier flag before a later
one. -/
theorem event_read_off (r : TraceRecord) : r.ReadOff where
  close := event_of_ends
  succeeds_iff := exists_event_iff
  trimmed := Text.trimmed_trim r.payload
  packet_iff := event_eq_ok_iff
  flow_eq _ := flow_of_event
  payload_first := event_of_misspelled
  flag_next h hpayload _ _ _ := event_of_unknown h hpayload
  spelled h hnamed _ _ _ _ hbefore hafter := event_of_spelled h hnamed hbefore hafter
  reordered _ hflags _ := event_of_mem_iff hflags

/-- Flags are named in either case and more than once, and digits are spelled in either case. -/
example (a b : Endpoint) :
    (TraceRecord.mk a b .tcp " 00fF20\n" ["FIN", "ack", "fin"] false).event =
      .ok (.packet ⟨a, b, .tcp, ⟨17⟩, [0x00, 0xff, 0x20]⟩) := by cbv

end TraceRecord

end FlowVerdict
