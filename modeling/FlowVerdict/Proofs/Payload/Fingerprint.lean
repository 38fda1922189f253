import FlowVerdict.Payload.Fingerprint
import Mathlib.Data.List.Basic
import Mathlib.Tactic.Lemma

/-!
The fingerprint of a payload read without a scan.

Up to the seventh byte the scan only counts. There it either stops or goes on, and after it nothing
stops it any more: a byte's run starts anew with the byte, so no run ever passes the limit. What is
left is one condition on the first seven bytes and one on the count of all.
-/

namespace FlowVerdict.Fingerprint

open Payload (isPrintable printableCount)

/-- The finding on a payload sent between two ports: the first of five conditions that holds, the
last of which always does. -/
def reading (f : Fingerprint) (p : Payload) (source target : UInt16) : Finding :=
  if f.bandLow < p.averagePopcount ∧ p.averagePopcount < f.bandHigh then .balancedPopcount
  else if 7 ≤ p.length ∧ printableCount (p.take 7) = 6 then .cleartextPrefix
  else if p.length < 2 * p.printableCount then .majorityPrintable
  else if source ∈ f.exemptPorts ∨ target ∈ f.exemptPorts then .exemptPort
  else .obfuscated

lemma printableCount_append (u v : Payload) :
    printableCount (u ++ v) = printableCount u + printableCount v :=
  List.countP_append

/-! ### The scan -/

lemma scan_cons (i n : Nat) (b : UInt8) (rest : Payload) :
    scan i n (b :: rest) =
      if i = 6 ∧ n + printableCount [b] = 6 then .error .cleartextPrefix
      else scan (i + 1) (n + printableCount [b]) rest := by
  have hcount : printableCount [b] = if isPrintable b then 1 else 0 := by
    simp [printableCount, List.countP_cons]
  have hrun : (!isPrintable b && decide (printableCount [b] > printableRunLimit)) = false := by
    rw [hcount]
    cases isPrintable b <;> rfl
  simp only [scan, ← hcount, hrun, Bool.and_eq_true, decide_eq_true_eq, Bool.false_eq_true,
    if_false]
  rfl

lemma scan_early (i n : Nat) (u v : Payload) (hu : i + u.length ≤ 6) :
    scan i n (u ++ v) = scan (i + u.length) (n + printableCount u) v := by
  induction u generalizing i n with
  | nil => rfl
  | cons b u ih =>
    have hlen : (b :: u).length = u.length + 1 := rfl
    have hcount := printableCount_append [b] u
    have hi : ¬(i = 6 ∧ n + printableCount [b] = 6) := by omega
    rw [List.cons_append, scan_cons, if_neg hi, ih (i + 1) (n + printableCount [b]) (by omega)]
    rw [List.singleton_append] at hcount
    rw [hcount, hlen, Nat.add_assoc, Nat.add_assoc, Nat.add_comm 1]

lemma scan_late (i n : Nat) (p : Payload) (hi : 6 < i) :
    scan i n p = .ok (n + printableCount p) := by
  induction p generalizing i n with
  | nil => rfl
  | cons b rest ih =>
    have hcount := printableCount_append [b] rest
    rw [List.singleton_append] at hcount
    have hne : ¬(i = 6 ∧ n + printableCount [b] = 6) := by omega
    rw [scan_cons, if_neg hne, ih (i + 1) _ (by omega), hcount, Nat.add_assoc]

/-- **The scan** ends early exactly if all but one of the first seven bytes are printable. -/
theorem scan_eq (p : Payload) :
    scan 0 0 p =
      if 7 ≤ p.length ∧ printableCount (p.take 7) = 6 then .error .cleartextPrefix
      else .ok p.printableCount := by
  by_cases hlen : 7 ≤ p.length
  · -- The first six bytes, the seventh, and the rest.
    have hsix : (p.take 6).length = 6 := by
      rw [List.length_take]
      omega
    have hp : p = p.take 6 ++ p[6] :: p.drop 7 := by
      rw [← List.drop_eq_getElem_cons, List.take_append_drop]
    have hstart :
        printableCount (p.take 7) = printableCount (p.take 6) + printableCount [p[6]] := by
      rw [List.take_succ_eq_append_getElem (by omega), printableCount_append]
    have hall : p.printableCount = printableCount (p.take 7) + printableCount (p.drop 7) := by
      rw [← printableCount_append, List.take_append_drop]
    calc scan 0 0 p
        = scan 6 (printableCount (p.take 6)) (p[6] :: p.drop 7) := by
          conv_lhs => rw [hp, scan_early 0 0 _ _ (by omega), hsix]
          rw [Nat.zero_add, Nat.zero_add]
      _ = if printableCount (p.take 7) = 6 then .error .cleartextPrefix
          else .ok p.printableCount := by
          rw [scan_cons, scan_late 7 _ _ (by omega), ← hstart, ← hall]
          simp
      _ = _ := by simp [hlen]
  · have hscan := scan_early 0 0 p [] (by omega)
    rw [List.append_nil, Nat.zero_add, Nat.zero_add] at hscan
    rw [hscan, if_neg (by omega)]
    rfl

/-! ### Findings -/

lemma isExempt_iff {f : Fingerprint} {port : UInt16} :
    f.isExempt port = true ↔ port ∈ f.exemptPorts := by
  simp [isExempt]

/-- **Findings without a scan**: the finding on a payload is the first of five conditions that
holds, whatever the band, the exempt ports, the payload and its ports. No payload is let go for a
printable run, and a payload is dropped exactly if none of its exemptions holds. -/
theorem inspect_eq_reading (f : Fingerprint) (p : Payload) (source target : UInt16) :
    f.inspect p source target = f.reading p source target ∧
    f.inspect p source target ≠ .printableRun ∧
    (f.judge p source target = .drop ↔ f.inspect p source target = .obfuscated) ∧
    (f.judge p source target = .pass ↔ f.inspect p source target ≠ .obfuscated) := by
  have hread : f.inspect p source target = f.reading p source target := by
    -- The integer half of a length is exceeded exactly if twice the count exceeds the length.
    have hhalf : p.printableCount > p.length / 2 ↔ p.length < 2 * p.printableCount := by omega
    simp only [inspect, reading, inBand, scan_eq, Bool.and_eq_true, decide_eq_true_eq,
      Bool.or_eq_true, isExempt_iff]
    split
    · rfl
    · by_cases hprefix : 7 ≤ p.length ∧ printableCount (p.take 7) = 6
      · simp only [if_pos hprefix]
      · simp only [if_neg hprefix, hhalf]
  refine ⟨hread, ?_, ?_, ?_⟩
  · rw [hread, reading]
    split_ifs <;> simp
  · rw [judge]
    cases f.inspect p source target <;> simp [Finding.verdict]
  · rw [judge]
    cases f.inspect p source target <;> simp [Finding.verdict]

end FlowVerdict.Fingerprint
