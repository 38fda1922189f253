import FlowVerdict.Net.FlowId
import FlowVerdict.Proofs.Net.AddressText
import FlowVerdict.Proofs.Text.Split

/-!
Endpoints and flows told by their text. An endpoint is read back from its text, whatever address it
has and whichever of its forms the address takes. No text of an endpoint has a blank in it, nor has
the name of a protocol, so the text of a flow is cut into its parts at the blanks.
-/

namespace FlowVerdict

open Text.Numeral (digits decimal isDigit NoDigitFirst noDigitFirst_cons isDigit_of_mem_digits)

/-! ### Endpoints -/

namespace Endpoint

lemma portFormat_takes (port : UInt16) : portFormat.Takes port.toNat where
  one_lt_base := by decide
  base_le := by decide
  lt_bound := port.toNat_lt
  length_le := by rintro m ⟨⟩

lemma withPort?_decimal (address : Address) (port : UInt16) :
    withPort? address (':' :: decimal port.toNat) = some ⟨address, port⟩ := by
  have hread : portFormat.read (decimal port.toNat ++ []) = some (port.toNat, []) :=
    Text.Numeral.Format.read_digits (portFormat_takes port) (by rintro _ _ ⟨⟩)
  rw [List.append_nil] at hread
  simp [withPort?, hread]

lemma exists_eq_quad (bytes : Vector UInt8 4) : ∃ a b c d, bytes = Address.quad a b c d := by
  refine ⟨bytes[0], bytes[1], bytes[2], bytes[3], Vector.ext fun i hi => ?_⟩
  interval_cases i <;> rfl

lemma ofChars?_chars (e : Endpoint) : ofChars? e.chars = some e := by
  obtain ⟨address, port⟩ := e
  cases address with
  | v4 bytes =>
    obtain ⟨a, b, c, d, rfl⟩ := exists_eq_quad bytes
    have hread := AddressText.fourBytes_dotted a b c d
      (noDigitFirst_cons (by decide) (decimal port.toNat) : NoDigitFirst 10 (':' :: _))
    have hchars : chars ⟨.v4 (Address.quad a b c d), port⟩ =
        AddressText.dotted [a, b, c, d] ++ ':' :: decimal port.toNat := rfl
    rw [hchars, ofChars?, hread]
    · exact withPort?_decimal _ port
    · -- A bracket in front would leave no byte to read.
      intro more hbracket
      have hnone : AddressText.fourBytes ('[' :: more) = none :=
        AddressText.fourBytes_eq_none fun h => absurd (Option.some.inj h) (by decide)
      rw [hbracket, hnone] at hread
      cases hread
  | v6 groups =>
    have hread := AddressText.sixteenBytes_write groups (':' :: decimal port.toNat)
    have hchars : chars ⟨.v6 groups, port⟩ =
        '[' :: (AddressText.write (.v6 groups) ++ ']' :: ':' :: decimal port.toNat) := rfl
    rw [hchars, ofChars?, hread]
    exact withPort?_decimal _ port

lemma chars_injective : Function.Injective chars := fun e f h => by
  rw [← Option.some.injEq, ← ofChars?_chars e, h, ofChars?_chars f]

/-- **An endpoint is read back from its text.** -/
theorem ofText?_text (e : Endpoint) : ofText? e.text = some e := by
  rw [ofText?, text, String.toList_ofList, ofChars?_chars]

theorem text_injective : Function.Injective text := fun e f h => by
  rw [← Option.some.injEq, ← ofText?_text e, h, ofText?_text f]

/-- An address of four bytes and the one of groups that stands for it. -/
example :
    text ⟨.ofBytes 1 2 3 4, 443⟩ = "1.2.3.4:443" ∧
    text ⟨.v6 #v[0, 0, 0, 0, 0, 0xffff, 0x102, 0x304], 443⟩ = "[::ffff:1.2.3.4]:443" :=
  ⟨rfl, rfl⟩

/-! ### Characters -/

/-- The characters that endpoints are written with. -/
def IsWritten (c : Char) : Prop := isDigit 16 c = true ∨ c ∈ ['.', ':', '[', ']']

instance (c : Char) : Decidable (IsWritten c) := inferInstanceAs (Decidable (_ ∨ _))

lemma isWritten_of_all {cs : List Char} (h : (cs.all fun c => decide (IsWritten c)) = true) :
    ∀ c ∈ cs, IsWritten c := fun c hc =>
  of_decide_eq_true (List.all_eq_true.mp h c hc)

lemma isWritten_decimal {n : Nat} : ∀ c ∈ digits 10 n, IsWritten c := fun _ hc =>
  .inl (Text.Numeral.isDigit_of_le (by decide) (isDigit_of_mem_digits (by decide) (by decide) hc))

lemma isWritten_join {c : Char} (hc : IsWritten c) {pieces : List (List Char)}
    (h : ∀ piece ∈ pieces, ∀ c ∈ piece, IsWritten c) : ∀ d ∈ Text.join c pieces, IsWritten d := by
  induction pieces with
  | nil => exact fun d hd => absurd hd List.not_mem_nil
  | cons piece pieces ih =>
    obtain ⟨hpiece, hrest⟩ := List.forall_mem_cons.mp h
    cases pieces with
    | nil => exact hpiece
    | cons piece' pieces =>
      exact List.forall_mem_append.mpr ⟨hpiece, List.forall_mem_cons.mpr ⟨hc, ih hrest⟩⟩

lemma isWritten_dotted (bytes : List UInt8) : ∀ c ∈ AddressText.dotted bytes, IsWritten c :=
  isWritten_join (by decide) (List.forall_mem_map.mpr fun _ _ => isWritten_decimal)

lemma isWritten_colons (gs : List UInt16) : ∀ c ∈ AddressText.colons gs, IsWritten c :=
  isWritten_join (by decide) (List.forall_mem_map.mpr fun _ _ _ hc =>
    .inl (isDigit_of_mem_digits (by decide) (by decide) hc))

lemma isWritten_compressed (gs : List UInt16) : ∀ c ∈ AddressText.compressed gs, IsWritten c := by
  rw [AddressText.compressed]
  split
  · simp only [List.forall_mem_append]
    exact ⟨⟨isWritten_colons _, isWritten_of_all rfl⟩, isWritten_colons _⟩
  · exact isWritten_colons gs

lemma isWritten_write (address : Address) : ∀ c ∈ AddressText.write address, IsWritten c := by
  cases address with
  | v4 bytes => exact isWritten_dotted _
  | v6 groups =>
    rw [AddressText.write]
    split
    · exact List.forall_mem_append.mpr ⟨isWritten_of_all rfl, isWritten_dotted _⟩
    · exact isWritten_compressed _

theorem isWritten_chars (e : Endpoint) : ∀ c ∈ e.chars, IsWritten c := by
  have hport : ∀ c ∈ ':' :: decimal e.port.toNat, IsWritten c :=
    List.forall_mem_cons.mpr ⟨by decide, isWritten_decimal⟩
  have haddress := isWritten_write e.address
  rw [chars]
  split
  · exact List.forall_mem_append.mpr ⟨haddress, hport⟩
  · exact List.forall_mem_cons.mpr ⟨by decide, List.forall_mem_append.mpr
      ⟨haddress, List.forall_mem_cons.mpr ⟨by decide, hport⟩⟩⟩

lemma blank_not_mem_chars (e : Endpoint) : ' ' ∉ e.chars := fun h =>
  absurd (e.isWritten_chars _ h) (by decide)

end Endpoint

/-! ### Protocols -/

namespace Transport

lemma toList_name_other (n : UInt8) :
    (other n).name.toList = "ip-proto-".toList ++ digits 10 n.toNat := by
  rw [name, String.toList_append]
  exact congrArg (_ ++ ·) String.toList_ofList

lemma blank_not_mem_name (t : Transport) : ' ' ∉ t.name.toList := by
  cases t with
  | tcp => decide
  | udp => decide
  | other n =>
    rw [toList_name_other]
    refine fun h => (List.mem_append.mp h).elim (by decide) fun hdigit => ?_
    cases isDigit_of_mem_digits (by decide) (by decide) hdigit

lemma name_other_ne (n : UInt8) : (other n).name ≠ "tcp" ∧ (other n).name ≠ "udp" := by
  have hfirst : (other n).name.toList.head? = some 'i' := by
    rw [toList_name_other]
    rfl
  constructor
  · exact fun h => absurd (h ▸ hfirst) (by decide)
  · exact fun h => absurd (h ▸ hfirst) (by decide)

/-- **No two protocols have one name**, another protocol not even under the number of a named
one. -/
theorem name_injective : Function.Injective name := by
  intro s t h
  cases s with
  | tcp =>
    cases t with
    | tcp => rfl
    | udp => exact absurd h (by decide)
    | other n => exact absurd h.symm (name_other_ne n).1
  | udp =>
    cases t with
    | tcp => exact absurd h (by decide)
    | udp => rfl
    | other n => exact absurd h.symm (name_other_ne n).2
  | other n =>
    cases t with
    | tcp => exact absurd h (name_other_ne n).1
    | udp => exact absurd h (name_other_ne n).2
    | other m =>
      have hlist := congrArg String.toList h
      rw [toList_name_other, toList_name_other] at hlist
      have hdigits := List.append_cancel_left hlist
      exact congrArg other (UInt8.toNat_inj.mp
        (Text.Numeral.digits_injective (by decide) (by decide) hdigits))

def all : List Transport := .tcp :: .udp :: (List.range 256).map fun n => .other (UInt8.ofNat n)

lemma mem_all (t : Transport) : t ∈ all := by
  cases t with
  | tcp => exact List.mem_cons_self
  | udp => exact List.mem_cons_of_mem _ List.mem_cons_self
  | other n =>
    refine List.mem_cons_of_mem _ (List.mem_cons_of_mem _ (List.mem_map.mpr ⟨n.toNat, ?_, ?_⟩))
    · exact List.mem_range.mpr n.toNat_lt
    · rw [UInt8.ofNat_toNat]

def ofName? (name : String) : Option Transport := all.find? (·.name == name)

lemma ofName?_name (t : Transport) : ofName? t.name = some t := by
  obtain ⟨found, hfound⟩ := Option.isSome_iff_exists.mp
    (List.find?_isSome (p := fun s : Transport => s.name == t.name).mpr ⟨t, t.mem_all, by simp⟩)
  have hname : found.name = t.name := by simpa using List.find?_some hfound
  rw [ofName?, hfound, name_injective hname]

end Transport

/-! ### Flows -/

namespace FlowId

lemma split_text (id : FlowId) : Text.split ' ' id.text.toList =
    [id.transport.name.toList, id.low.chars, ['<', '-', '>'], id.high.chars] := by
  have hlast := Text.split_append id.high.blank_not_mem_chars (Text.split_nil ' ')
  have htext : id.text.toList = id.transport.name.toList ++ ' ' :: (id.low.chars ++
      ' ' :: (['<', '-', '>'] ++ ' ' :: id.high.chars)) := by
    simp [text, Endpoint.text]
  rw [List.append_nil] at hlast
  rw [htext, Text.split_append_separator id.transport.blank_not_mem_name,
    Text.split_append_separator id.low.blank_not_mem_chars,
    Text.split_append_separator (by decide), hlast]

theorem text_injective : Function.Injective text := by
  intro a b h
  have hparts := congrArg (fun s : String => Text.split ' ' s.toList) h
  simp only [split_text, List.cons.injEq, and_true, true_and] at hparts
  obtain ⟨hname, hlow, hhigh⟩ := hparts
  have htransport := Transport.name_injective (String.toList_inj.mp hname)
  obtain ⟨low, high, transport⟩ := a
  obtain rfl := Endpoint.chars_injective hlow
  obtain rfl := Endpoint.chars_injective hhigh
  obtain rfl := htransport
  rfl

def ofText? (s : String) : Option FlowId :=
  match Text.split ' ' s.toList with
  | [transport, low, _, high] => do
    return ⟨← Endpoint.ofChars? low, ← Endpoint.ofChars? high,
      ← Transport.ofName? (String.ofList transport)⟩
  | _ => none

/-- **A flow is read back from its text.** -/
theorem ofText?_text (id : FlowId) : ofText? id.text = some id := by
  rw [ofText?, split_text]
  simp only [Endpoint.ofChars?_chars, String.ofList_toList, Transport.ofName?_name]
  rfl

end FlowId

end FlowVerdict
