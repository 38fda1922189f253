import FlowVerdict.Files.Error
import FlowVerdict.Proofs.Text.Split

/-!
Texts as bytes. The bytes of a text are those of its characters, and the text is read back from
them. Only the end of a line is written with the byte that ends lines, so the lines of the bytes are
the bytes of the lines.
-/

namespace FlowVerdict.Text

def encode (cs : List Char) : List UInt8 := cs.flatMap String.utf8EncodeChar

/-! ### Bytes -/

lemma toList_loop (bytes : ByteArray) (i : Nat) (read : List UInt8) :
    ByteArray.toList.loop bytes i read = read.reverse ++ bytes.data.toList.drop i := by
  induction i, read using ByteArray.toList.loop.induct bytes with
  | case1 i read hi ih =>
    have hi' : i < bytes.data.toList.length := hi
    have hget : bytes.get! i = bytes.data.toList[i] := by
      rw [Array.getElem_toList]
      exact getElem!_pos bytes.data i hi
    rw [ByteArray.toList.loop, if_pos hi, ih, List.drop_eq_getElem_cons hi', hget,
      List.reverse_cons, List.append_assoc, List.singleton_append]
  | case2 i read hi =>
    have hi' : bytes.data.toList.length ≤ i := Nat.le_of_not_lt hi
    rw [ByteArray.toList.loop, if_neg hi, List.drop_eq_nil_of_le hi', List.append_nil]

lemma toList_eq_data (bytes : ByteArray) : bytes.toList = bytes.data.toList :=
  toList_loop bytes 0 []

lemma toUTF8_toList (s : String) : s.toUTF8.toList = encode s.toList := by
  rw [String.toUTF8_eq_toByteArray, toList_eq_data, ← String.utf8Encode_toList]
  exact List.toList_data_toByteArray

/-- **Text is read back from its bytes.** -/
theorem textOf?_encode (cs : List Char) :
    FileError.textOf? (encode cs) = .ok (String.ofList cs) := by
  have hbytes : ByteArray.mk (encode cs).toArray = cs.utf8Encode :=
    ByteArray.ext List.data_toByteArray.symm
  have hread : String.fromUTF8? cs.utf8Encode = some (String.ofList cs) := by
    rw [String.fromUTF8?, dif_pos ByteArray.isValidUTF8_utf8Encode]
    exact congrArg some (String.toByteArray_inj.mp String.toByteArray_ofList.symm)
  rw [FileError.textOf?, hbytes, hread]

lemma encode_injective : Function.Injective encode := fun cs ds h => by
  have hread := textOf?_encode cs
  rw [h, textOf?_encode ds] at hread
  exact (String.ofList_inj.mp (Except.ok.inj hread)).symm

lemma encode_of_ascii {cs : List Char} (h : ∀ c ∈ cs, c.toNat < 128) :
    encode cs = cs.map fun c => UInt8.ofNat c.toNat := by
  induction cs with
  | nil => rfl
  | cons c cs ih =>
    obtain ⟨hc, hcs⟩ := List.forall_mem_cons.mp h
    have hle : c.val.toNat ≤ 127 := Nat.le_of_lt_succ hc
    rw [encode, List.flatMap_cons, String.utf8EncodeChar.eq_1, if_pos hle, ← encode, ih hcs]
    rfl

/-! ### Lines -/

lemma newline_not_mem_utf8EncodeChar (c : Char) (hc : c ≠ '\n') :
    10 ∉ String.utf8EncodeChar c := by
  have hval : c.val.toNat ≠ 10 := fun h => hc (Char.ext (UInt32.toNat_inj.mp h))
  have hbyte : ∀ n, n < 256 → n ≠ 10 → (10 : UInt8) ≠ UInt8.ofNat n := by
    intro n hn hne h
    have := congrArg UInt8.toNat h
    rw [UInt8.toNat_ofNat_of_lt' hn] at this
    exact hne this.symm
  rw [String.utf8EncodeChar.eq_1]
  split
  · simpa using hbyte _ (by omega) hval
  · split
    · simp only [List.mem_cons, List.not_mem_nil, or_false, not_or]
      exact ⟨hbyte _ (by omega) (by omega), hbyte _ (by omega) (by omega)⟩
    · split
      · simp only [List.mem_cons, List.not_mem_nil, or_false, not_or]
        exact ⟨hbyte _ (by omega) (by omega), hbyte _ (by omega) (by omega),
          hbyte _ (by omega) (by omega)⟩
      · simp only [List.mem_cons, List.not_mem_nil, or_false, not_or]
        exact ⟨hbyte _ (by omega) (by omega), hbyte _ (by omega) (by omega),
          hbyte _ (by omega) (by omega), hbyte _ (by omega) (by omega)⟩

/-- **The lines of the bytes are the bytes of the lines.** -/
theorem lines_encode (cs : List Char) : lines 10 (encode cs) = (lines '\n' cs).map encode :=
  lines_flatMap_encode (by decide) newline_not_mem_utf8EncodeChar
    (fun _ => String.utf8EncodeChar_ne_nil) cs

end FlowVerdict.Text
