import FlowVerdict.Proofs.Computation
import FlowVerdict.Proofs.Text.Blank
import FlowVerdict.Proofs.Text.Encoding
import FlowVerdict.Proofs.Text.Numeral
import FlowVerdict.Text.Hex

/-!
Bytes read from hexadecimal digits. The reader takes the bytes of a text two at a time. It accepts
exactly the texts that spell some bytes, an even number of digits in either case, and what it reads
are the bytes that are spelled. Of any other text it tells the first thing that is wrong.
-/

namespace FlowVerdict.Text.Hex

open Numeral (digitValue?)

/-! ### Digits -/

def IsDigit (c : Char) : Prop :=
  ('0' ≤ c ∧ c ≤ '9') ∨ ('a' ≤ c ∧ c ≤ 'f') ∨ ('A' ≤ c ∧ c ≤ 'F')

/-- The character that a byte is taken for. -/
def letter (b : UInt8) : Char := Char.ofNat b.toNat

lemma toNat_letter (b : UInt8) : (letter b).toNat = b.toNat := by
  have hlt := b.toNat_lt
  have hvalid : b.toNat.isValidChar := Or.inl (by omega)
  rw [letter, Char.ofNat, dif_pos hvalid]
  rfl

lemma toNat_digitChar {v : Nat} (hv : v < 16) :
    (Nat.digitChar v).toNat = if v < 10 then v + 48 else v + 87 := by
  interval_cases v <;> rfl

lemma digitValue?_eq (c : Char) :
    digitValue? 16 c =
      if 48 ≤ c.toNat ∧ c.toNat ≤ 57 then some (c.toNat - 48)
      else if 97 ≤ c.toNat ∧ c.toNat ≤ 102 then some (c.toNat - 87)
      else if 65 ≤ c.toNat ∧ c.toNat ≤ 70 then some (c.toNat - 55)
      else none := by
  have hdecimal : ('0' ≤ c ∧ c ≤ '9') ↔ 48 ≤ c.toNat ∧ c.toNat ≤ 57 := Iff.rfl
  have hsmall : ('a' ≤ c ∧ c ≤ 'z') ↔ 97 ≤ c.toNat ∧ c.toNat ≤ 122 := Iff.rfl
  have hcapital : ('A' ≤ c ∧ c ≤ 'Z') ↔ 65 ≤ c.toNat ∧ c.toNat ≤ 90 := Iff.rfl
  have hzero : '0'.toNat = 48 := rfl
  have ha : 'a'.toNat = 97 := rfl
  have hA : 'A'.toNat = 65 := rfl
  simp only [digitValue?, hdecimal, hsmall, hcapital, hzero, ha, hA]
  grind

lemma digitValue?_eq_some_iff {c : Char} {v : Nat} :
    digitValue? 16 c = some v ↔ v < 16 ∧ InEitherCase c (Nat.digitChar v) := by
  by_cases hv : v < 16
  · simp only [digitValue?_eq, InEitherCase, ← Char.toNat_inj, toNat_toUpper, toNat_digitChar hv]
    grind
  · rw [digitValue?_eq]
    grind

lemma isDigit_iff_toNat {c : Char} : IsDigit c ↔ (48 ≤ c.toNat ∧ c.toNat ≤ 57) ∨
    (97 ≤ c.toNat ∧ c.toNat ≤ 102) ∨ (65 ≤ c.toNat ∧ c.toNat ≤ 70) := Iff.rfl

lemma isDigit_iff {c : Char} : IsDigit c ↔ ∃ v, digitValue? 16 c = some v := by
  rw [isDigit_iff_toNat, digitValue?_eq, ← Option.isSome_iff_exists]
  split_ifs <;> simp <;> omega

lemma IsDigit.ascii {c : Char} (h : IsDigit c) : c.toNat < 128 := by
  rw [isDigit_iff_toNat] at h
  omega

lemma IsDigit.not_blank {c : Char} (h : IsDigit c) : isBlank c = false := by
  rw [isDigit_iff_toNat] at h
  simp only [isBlank, Bool.or_eq_false_iff, Bool.and_eq_false_iff, decide_eq_false_iff_not,
    beq_eq_false_iff_ne]
  omega

lemma digit_of_value {b : UInt8} {v : Nat} (h : digitValue? 16 (letter b) = some v) (i : Nat) :
    digit b i = .ok v := by
  rw [letter] at h
  rw [digit, h]

lemma digit_of_not_isDigit {b : UInt8} (h : ¬IsDigit (letter b)) (i : Nat) :
    digit b i = .error (.badDigit b i) := by
  have hnone : digitValue? 16 (letter b) = none := by
    rw [isDigit_iff] at h
    exact Option.eq_none_iff_forall_not_mem.mpr fun v hv => h ⟨v, hv⟩
  rw [letter] at hnone
  rw [digit, hnone]

/-! ### Pairs of digits -/

/-- The characters spell the bytes: two digits for each byte, in either case. -/
def SpellsChars (cs : List Char) (bytes : List UInt8) : Prop :=
  List.Forall₂ InEitherCase cs (bytes.flatMap encodeByte)

/-- The text spells the bytes. -/
def Spells (s : String) (bytes : List UInt8) : Prop := Respells s (encode bytes)

structure IsSpelling (s : String) : Prop where
  even : s.length % 2 = 0
  digits : ∀ c ∈ s.toList, IsDigit c

lemma spells_iff {s : String} {bytes : List UInt8} :
    Spells s bytes ↔ SpellsChars s.toList bytes := by
  rw [Spells, Respells, encode, String.toList_ofList, SpellsChars]

lemma spellsChars_cons {hi lo : Char} {cs : List Char} {b : UInt8} {bytes : List UInt8} :
    SpellsChars (hi :: lo :: cs) (b :: bytes) ↔
      digitValue? 16 hi = some (b.toNat / 16) ∧ digitValue? 16 lo = some (b.toNat % 16) ∧
        SpellsChars cs bytes := by
  have hlt := b.toNat_lt
  have hhigh : b.toNat / 16 < 16 := by omega
  have hlow : b.toNat % 16 < 16 := by omega
  rw [SpellsChars, List.flatMap_cons, encodeByte, List.cons_append, List.cons_append,
    List.nil_append, List.forall₂_cons, List.forall₂_cons, digitValue?_eq_some_iff,
    digitValue?_eq_some_iff, and_iff_right hhigh, and_iff_right hlow, SpellsChars]

lemma SpellsChars.exists_cons {cs : List Char} {b : UInt8} {bytes : List UInt8}
    (h : SpellsChars cs (b :: bytes)) : ∃ hi lo rest, cs = hi :: lo :: rest := by
  obtain ⟨hi, tail, -, htail, rfl⟩ := List.forall₂_cons_right_iff.mp h
  obtain ⟨lo, rest, -, -, rfl⟩ := List.forall₂_cons_right_iff.mp htail
  exact ⟨hi, lo, rest, rfl⟩

lemma halves {h l : Nat} (hh : h < 16) (hl : l < 16) :
    (UInt8.ofNat (16 * h + l)).toNat / 16 = h ∧ (UInt8.ofNat (16 * h + l)).toNat % 16 = l := by
  have hbyte : 16 * h + l < UInt8.size := by rw [UInt8.size]; omega
  rw [UInt8.toNat_ofNat_of_lt' hbyte]
  omega

lemma exists_spellsChars : ∀ {cs : List Char}, cs.length % 2 = 0 → (∀ c ∈ cs, IsDigit c) →
    ∃ bytes, SpellsChars cs bytes
  | [], _, _ => ⟨[], .nil⟩
  | [_], heven, _ => by simp at heven
  | hi :: lo :: cs, heven, hdigits => by
    obtain ⟨hhi, hdigits⟩ := List.forall_mem_cons.mp hdigits
    obtain ⟨hlo, hdigits⟩ := List.forall_mem_cons.mp hdigits
    obtain ⟨h, hh⟩ := isDigit_iff.mp hhi
    obtain ⟨l, hl⟩ := isDigit_iff.mp hlo
    have heven : cs.length % 2 = 0 := by
      rw [List.length_cons, List.length_cons] at heven
      omega
    obtain ⟨bytes, hbytes⟩ := exists_spellsChars heven hdigits
    obtain ⟨hhigh, hlow⟩ :=
      halves (digitValue?_eq_some_iff.mp hh).1 (digitValue?_eq_some_iff.mp hl).1
    refine ⟨UInt8.ofNat (16 * h + l) :: bytes, spellsChars_cons.mpr ⟨?_, ?_, hbytes⟩⟩
    · rw [hhigh, hh]
    · rw [hlow, hl]

lemma digits_of_spellsChars {cs : List Char} {bytes : List UInt8} (h : SpellsChars cs bytes) :
    cs.length % 2 = 0 ∧ ∀ c ∈ cs, IsDigit c := by
  induction bytes generalizing cs with
  | nil =>
    rw [List.forall₂_nil_right_iff.mp h]
    exact ⟨rfl, by simp⟩
  | cons b bytes ih =>
    obtain ⟨hi, lo, rest, rfl⟩ := h.exists_cons
    obtain ⟨hhi, hlo, hrest⟩ := spellsChars_cons.mp h
    obtain ⟨heven, hdigits⟩ := ih hrest
    refine ⟨by rw [List.length_cons, List.length_cons]; omega, ?_⟩
    exact List.forall_mem_cons.mpr ⟨isDigit_iff.mpr ⟨_, hhi⟩,
      List.forall_mem_cons.mpr ⟨isDigit_iff.mpr ⟨_, hlo⟩, hdigits⟩⟩

/-- **Spellings** are the texts that spell some bytes. -/
theorem isSpelling_iff {s : String} : IsSpelling s ↔ ∃ bytes, Spells s bytes := by
  simp only [spells_iff]
  constructor
  · intro h
    have heven := h.even
    rw [← String.length_toList] at heven
    exact exists_spellsChars heven h.digits
  · rintro ⟨bytes, hbytes⟩
    obtain ⟨heven, hdigits⟩ := digits_of_spellsChars hbytes
    rw [String.length_toList] at heven
    exact ⟨heven, hdigits⟩

lemma IsSpelling.tight {s : String} (h : IsSpelling s) : Tight s.toList :=
  tight_of_forall fun c hc => (h.digits c hc).not_blank

/-! ### The reader -/

/-- What is wrong with the bytes of a text: they are not even in number, or else there is a first
one that is no digit. -/
inductive Misspells : List UInt8 → Fault → Prop
  | oddLength {bytes : List UInt8} (h : bytes.length % 2 = 1) : Misspells bytes .oddLength
  | badDigit {front rest : List UInt8} {b : UInt8} (heven : (front ++ b :: rest).length % 2 = 0)
    (hfront : ∀ x ∈ front, IsDigit (letter x)) (hb : ¬IsDigit (letter b)) :
    Misspells (front ++ b :: rest) (.badDigit b front.length)

lemma decodePairs_of_spells {digits bytes : List UInt8} (h : SpellsChars (digits.map letter) bytes)
    (i : Nat) : decodePairs i digits = .ok bytes := by
  induction bytes generalizing i digits with
  | nil =>
    rw [List.map_eq_nil_iff.mp (List.forall₂_nil_right_iff.mp h)]
    rfl
  | cons b bytes ih =>
    obtain ⟨_, _, _, hcs⟩ := h.exists_cons
    obtain ⟨hi, _, rfl, rfl, htail⟩ := List.map_eq_cons_iff.mp hcs
    obtain ⟨lo, rest, rfl, rfl, rfl⟩ := List.map_eq_cons_iff.mp htail
    obtain ⟨hhi, hlo, hrest⟩ := spellsChars_cons.mp h
    have hbyte : UInt8.ofNat (16 * (b.toNat / 16) + b.toNat % 16) = b := by
      rw [Nat.div_add_mod, UInt8.ofNat_toNat]
    rw [decodePairs, digit_of_value hhi, digit_of_value hlo, ih hrest]
    exact congrArg (fun c => Except.ok (c :: bytes)) hbyte

lemma decodePairs_of_badDigit : ∀ {front rest : List UInt8} {b : UInt8} (i : Nat),
    (front ++ b :: rest).length % 2 = 0 → (∀ x ∈ front, IsDigit (letter x)) →
    ¬IsDigit (letter b) →
    decodePairs i (front ++ b :: rest) = .error (.badDigit b (i + front.length))
  | [], [], _, _, heven, _, _ => by simp at heven
  | [], _ :: _, _, i, _, _, hb => by
    rw [List.nil_append, decodePairs, digit_of_not_isDigit hb]
    rfl
  | [x], _, _, i, _, hfront, hb => by
    obtain ⟨v, hv⟩ := isDigit_iff.mp (hfront x (List.mem_singleton_self x))
    rw [List.singleton_append, decodePairs, digit_of_value hv, digit_of_not_isDigit hb]
    rfl
  | x :: y :: front, rest, b, i, heven, hfront, hb => by
    obtain ⟨hx, hfront⟩ := List.forall_mem_cons.mp hfront
    obtain ⟨hy, hfront⟩ := List.forall_mem_cons.mp hfront
    obtain ⟨v, hv⟩ := isDigit_iff.mp hx
    obtain ⟨w, hw⟩ := isDigit_iff.mp hy
    have heven : (front ++ b :: rest).length % 2 = 0 := by
      rw [List.cons_append, List.cons_append, List.length_cons, List.length_cons] at heven
      omega
    have hposition : i + 2 + front.length = i + (x :: y :: front).length := by
      rw [List.length_cons, List.length_cons]
      omega
    rw [List.cons_append, List.cons_append, decodePairs, digit_of_value hv, digit_of_value hw,
      decodePairs_of_badDigit (i + 2) heven hfront hb, hposition]
    rfl

/-! ### Texts -/

/-- The characters of digits are those that their bytes are taken for, whichever are known to be
digits. -/
lemma letters_eq_toList {s : String}
    (h : (∀ c ∈ s.toList, IsDigit c) ∨ ∀ c ∈ s.toUTF8.toList.map letter, IsDigit c) :
    s.toUTF8.toList.map letter = s.toList := by
  rcases h with h | h
  · rw [toUTF8_toList, encode_of_ascii fun c hc => (h c hc).ascii, List.map_map]
    refine (List.map_congr_left fun c hc => ?_).trans (List.map_id _)
    have hlt : c.toNat < UInt8.size := Nat.lt_trans (h c hc).ascii (by decide)
    rw [Function.comp_apply, id, ← Char.toNat_inj, toNat_letter, UInt8.toNat_ofNat_of_lt' hlt]
  · apply encode_injective
    rw [encode_of_ascii fun c hc => (h c hc).ascii, ← toUTF8_toList, List.map_map]
    refine (List.map_congr_left fun b _ => ?_).trans (List.map_id _)
    rw [Function.comp_apply, id, toNat_letter, UInt8.ofNat_toNat]

lemma spells_iff_letters {s : String} {bytes : List UInt8} :
    Spells s bytes ↔ SpellsChars (s.toUTF8.toList.map letter) bytes := by
  rw [spells_iff]
  constructor
  · intro h
    rwa [letters_eq_toList (.inl (digits_of_spellsChars h).2)]
  · intro h
    rwa [letters_eq_toList (.inr (digits_of_spellsChars h).2)] at h

lemma spells_or_misspells (s : String) :
    (∃ bytes, Spells s bytes) ∨ ∃ fault, Misspells s.toUTF8.toList fault := by
  simp only [spells_iff_letters]
  generalize s.toUTF8.toList = digits
  rcases Nat.mod_two_eq_zero_or_one digits.length with heven | hodd
  · rcases forall_or_first (fun b => IsDigit (letter b)) digits with
      hdigits | ⟨front, b, rest, rfl, hfront, hb⟩
    · rw [← List.length_map letter] at heven
      exact .inl (exists_spellsChars heven (List.forall_mem_map.mpr hdigits))
    · exact .inr ⟨_, .badDigit heven hfront hb⟩
  · exact .inr ⟨_, .oddLength hodd⟩

lemma decode_of_spells {s : String} {bytes : List UInt8} (h : Spells s bytes) :
    decode s = .ok bytes := by
  rw [spells_iff_letters] at h
  have heven := (digits_of_spellsChars h).1
  rw [List.length_map] at heven
  rw [decode, if_neg (by omega), decodePairs_of_spells h]

lemma decode_of_misspells {s : String} {fault : Fault} (h : Misspells s.toUTF8.toList fault) :
    decode s = .error fault := by
  rw [decode]
  generalize s.toUTF8.toList = digits at h ⊢
  cases h with
  | oddLength hodd => rw [if_pos hodd]
  | badDigit heven hfront hb =>
    have hread := decodePairs_of_badDigit 0 heven hfront hb
    rw [Nat.zero_add] at hread
    rw [if_neg (by omega), hread]

/-- **What is read** are the bytes that the text spells. -/
theorem decode_eq_ok_iff {s : String} {bytes : List UInt8} :
    decode s = .ok bytes ↔ Spells s bytes := by
  refine ⟨fun h => ?_, decode_of_spells⟩
  rcases spells_or_misspells s with ⟨read, hread⟩ | ⟨fault, hfault⟩
  · rwa [← Except.ok.inj ((decode_of_spells hread).symm.trans h)]
  · cases (decode_of_misspells hfault).symm.trans h

/-- **What is refused** is a text that spells no bytes, for the first thing that is wrong. -/
theorem decode_eq_error_iff {s : String} {fault : Fault} :
    decode s = .error fault ↔ Misspells s.toUTF8.toList fault := by
  refine ⟨fun h => ?_, decode_of_misspells⟩
  rcases spells_or_misspells s with ⟨read, hread⟩ | ⟨found, hfound⟩
  · cases (decode_of_spells hread).symm.trans h
  · rwa [← Except.error.inj ((decode_of_misspells hfound).symm.trans h)]

/-- **Bytes are read back** from the spelling that is written for them. -/
theorem decode_encode (bytes : List UInt8) : decode (encode bytes) = .ok bytes :=
  decode_of_spells (respells_self _)

end FlowVerdict.Text.Hex
