import FlowVerdict.Payload.Statistics
import Mathlib.Data.List.Perm.Basic
import Mathlib.Tactic.Lemma

/-!
Statistics that do not see the order of a payload's bytes. The mean number of set bits, the
printable share and the entropy are computed from counts, and a permutation of the bytes keeps every
count. The longest printable run is the one statistic that an order can change.
-/

namespace FlowVerdict.Payload

variable {p q : Payload}

/-! ### Counts -/

lemma setBits_perm (h : p.Perm q) : setBits p = setBits q :=
  h.foldl_eq' (fun _ _ _ _ _ => Nat.add_right_comm _ _ _) 0

lemma printableCount_perm (h : p.Perm q) : printableCount p = printableCount q :=
  h.countP_eq isPrintable

lemma modify_succ_comm (h : Array Nat) (i j : Nat) :
    (h.modify i (· + 1)).modify j (· + 1) = (h.modify j (· + 1)).modify i (· + 1) := by
  apply Array.ext
  · simp
  · intro k _ _
    simp only [Array.getElem_modify]
    split <;> split <;> rfl

/-- **The histogram counts occurrences**, wherever they stand. -/
theorem histogram_perm (h : p.Perm q) : histogram p = histogram q :=
  h.foldl_eq' (fun b _ c _ counts => modify_succ_comm counts b.toNat c.toNat) _

/-! ### What is computed from counts -/

lemma perByte_perm (h : p.Perm q) (count : Nat) : perByte p count = perByte q count := by
  rw [perByte, perByte, h.isEmpty_eq, h.length_eq]

/-- Two payloads that agree in all that is computed from counts. -/
structure SameCounts (p q : Payload) : Prop where
  length_eq : p.length = q.length
  averagePopcount_eq : averagePopcount p = averagePopcount q
  printableCount_eq : printableCount p = printableCount q
  printableRatio_eq : printableRatio p = printableRatio q
  entropy_eq : entropy p = entropy q

/-- **Shuffled bytes**: a permutation of the bytes changes neither the mean number of set bits nor
the number of printable bytes, their share, or the entropy. -/
theorem sameCounts_of_perm (h : p.Perm q) : SameCounts p q where
  length_eq := h.length_eq
  averagePopcount_eq := by rw [averagePopcount, averagePopcount, setBits_perm h, perByte_perm h]
  printableCount_eq := printableCount_perm h
  printableRatio_eq := by
    rw [printableRatio, printableRatio, printableCount_perm h, perByte_perm h]
  entropy_eq := by rw [entropy, entropy, histogram_perm h, h.length_eq]

/-- Runs are another matter. -/
example : longestPrintableRun [0x61, 0x61, 0] ≠ longestPrintableRun [0x61, 0, 0x61] := by decide

end FlowVerdict.Payload
