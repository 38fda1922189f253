import FlowVerdict.Net.Endpoint
import Mathlib.Data.List.Basic
import Mathlib.Data.Nat.Digits.Defs
import Mathlib.Tactic.Lemma

/-!
The order on addresses and endpoints is total, and no two of them share a place in it: an address is
the numeral of its bytes or groups, and a numeral of a known length determines its digits.
-/

namespace FlowVerdict

/-! ### Numerals -/

lemma positionalValue_eq_ofDigits (base : Nat) (digits : List Nat) :
    positionalValue base digits = Nat.ofDigits base digits.reverse := by
  rw [positionalValue, Nat.ofDigits_eq_foldr, List.foldr_reverse]
  congr 1
  funext n d
  rw [Nat.mul_comm, Nat.add_comm]
  rfl

lemma positionalValue_inj {base : Nat} (hbase : 1 < base) {ds es : List Nat}
    (hlength : ds.length = es.length) (hds : ∀ d ∈ ds, d < base) (hes : ∀ d ∈ es, d < base)
    (h : positionalValue base ds = positionalValue base es) : ds = es := by
  rw [positionalValue_eq_ofDigits, positionalValue_eq_ofDigits] at h
  exact List.reverse_inj.mp (Nat.ofDigits_inj_of_len_eq hbase (by simpa using hlength)
    (by simpa using hds) (by simpa using hes) h)

lemma positionalValue_lt {base : Nat} (hbase : 1 < base) {ds : List Nat}
    (hds : ∀ d ∈ ds, d < base) : positionalValue base ds < base ^ ds.length := by
  rw [positionalValue_eq_ofDigits, ← List.length_reverse]
  exact Nat.ofDigits_lt_base_pow_length hbase (by simpa using hds)

/-! ### Addresses -/

namespace Address

lemma byteDigits_lt (bytes : Vector UInt8 4) : ∀ d ∈ byteDigits bytes, d < UInt8.size :=
  List.forall_mem_map.mpr fun b _ => b.toNat_lt

lemma groupDigits_lt (groups : Vector UInt16 8) : ∀ d ∈ groupDigits groups, d < UInt16.size :=
  List.forall_mem_map.mpr fun g _ => g.toNat_lt

lemma rank_v4_lt (bytes : Vector UInt8 4) : (v4 bytes).rank < UInt32.size := by
  have hlength : (byteDigits bytes).length = 4 := by simp [byteDigits]
  calc positionalValue UInt8.size (byteDigits bytes)
      < UInt8.size ^ (byteDigits bytes).length :=
        positionalValue_lt (by decide) (byteDigits_lt bytes)
    _ = UInt32.size := by rw [hlength]; rfl

theorem rank_injective : Function.Injective rank := by
  intro a b h
  cases a with
  | v4 bytes =>
    cases b with
    | v4 bytes' =>
      have hdigits := positionalValue_inj (by decide) (by simp [byteDigits])
        (byteDigits_lt bytes) (byteDigits_lt bytes') h
      exact congrArg v4 (Vector.toList_inj.mp
        (List.map_injective_iff.mpr (fun _ _ => UInt8.toNat_inj.mp) hdigits))
    | v6 groups =>
      have hlt := rank_v4_lt bytes
      simp only [rank] at h hlt
      omega
  | v6 groups =>
    cases b with
    | v4 bytes =>
      have hlt := rank_v4_lt bytes
      simp only [rank] at h hlt
      omega
    | v6 groups' =>
      have hdigits := positionalValue_inj (by decide) (by simp [groupDigits])
        (groupDigits_lt groups) (groupDigits_lt groups') (Nat.add_left_cancel h)
      exact congrArg v6 (Vector.toList_inj.mp
        (List.map_injective_iff.mpr (fun _ _ => UInt16.toNat_inj.mp) hdigits))

end Address

/-! ### Endpoints -/

namespace Endpoint

theorem rank_injective : Function.Injective rank := by
  intro a b h
  have ha : a.port.toNat < UInt16.size := a.port.toNat_lt
  have hb : b.port.toNat < UInt16.size := b.port.toNat_lt
  -- The port is the last digit, the address the rest.
  have haddress : a.address.rank = b.address.rank := by
    have hdiv := congrArg (· / UInt16.size) h
    simpa [rank, Nat.mul_add_div, Nat.mul_comm _ UInt16.size, Nat.div_eq_of_lt ha,
      Nat.div_eq_of_lt hb] using hdiv
  have hport : a.port.toNat = b.port.toNat := by
    simp only [rank, haddress] at h
    exact Nat.add_left_cancel h
  obtain ⟨address, port⟩ := a
  obtain rfl := Address.rank_injective haddress
  obtain rfl := UInt16.toNat_inj.mp hport
  rfl

lemma le_total (a b : Endpoint) : a ≤ b ∨ b ≤ a := Nat.le_total a.rank b.rank

lemma le_antisymm {a b : Endpoint} (hab : a ≤ b) (hba : b ≤ a) : a = b :=
  rank_injective (Nat.le_antisymm hab hba)

end Endpoint

end FlowVerdict
