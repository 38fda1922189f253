import FlowVerdict.Payload.Statistics
import Mathlib.Data.List.Infix
import Mathlib.Tactic.Lemma

/-!
The longest printable run, measured. A run is a block of printable bytes that stand next to each
other. The scan keeps two lengths, that of the run that ends with the last byte and that of the
longest run so far, and each is the greatest one among all blocks of its kind. What follows compares
the longest run with the counts of a payload and with the runs of its parts.
-/

namespace FlowVerdict.Payload

variable {p q : Payload}

def Printable (u : Payload) : Prop := ∀ b ∈ u, isPrintable b = true

def unprintableCount (p : Payload) : Nat := p.countP fun b => !isPrintable b

/-- Among the blocks of a kind, the longest printable ones have `n` bytes. -/
structure Longest (block : Payload → Prop) (n : Nat) : Prop where
  attained : ∃ u, block u ∧ Printable u ∧ u.length = n
  length_le : ∀ u, block u → Printable u → u.length ≤ n

lemma printable_append {u v : Payload} : Printable (u ++ v) ↔ Printable u ∧ Printable v :=
  List.forall_mem_append

lemma printable_singleton {b : UInt8} : Printable [b] ↔ isPrintable b = true :=
  List.forall_mem_singleton

lemma Longest.or {block other : Payload → Prop} {m n : Nat} (hm : Longest block m)
    (hn : Longest other n) : Longest (fun u => block u ∨ other u) (max m n) where
  attained := by
    rcases Nat.le_total m n with hle | hle
    · obtain ⟨u, hu, hprintable, hlength⟩ := hn.attained
      exact ⟨u, .inr hu, hprintable, by rw [hlength, Nat.max_eq_right hle]⟩
    · obtain ⟨u, hu, hprintable, hlength⟩ := hm.attained
      exact ⟨u, .inl hu, hprintable, by rw [hlength, Nat.max_eq_left hle]⟩
  length_le := by
    rintro u (hu | hu) hprintable
    · exact Nat.le_trans (hm.length_le u hu hprintable) (Nat.le_max_left m n)
    · exact Nat.le_trans (hn.length_le u hu hprintable) (Nat.le_max_right m n)

/-! ### The scan -/

/-- The scan after a payload. -/
def runs (p : Payload) : RunScan := p.foldl RunScan.step ⟨0, 0⟩

lemma runs_snoc (p : Payload) (b : UInt8) : runs (p ++ [b]) = (runs p).step b :=
  List.foldl_concat RunScan.step ⟨0, 0⟩ b p

lemma current_step_of_printable (s : RunScan) {b : UInt8} (hb : isPrintable b = true) :
    (s.step b).current = s.current + 1 := by
  rw [RunScan.step, if_pos hb]

lemma current_step_of_not_printable (s : RunScan) {b : UInt8} (hb : ¬isPrintable b = true) :
    (s.step b).current = 0 := by
  rw [RunScan.step, if_neg hb]

lemma longest_step (s : RunScan) (b : UInt8) :
    (s.step b).longest = max (s.step b).current s.longest := by
  rw [RunScan.step]
  split
  · exact Nat.max_comm _ _
  · exact (Nat.zero_max s.longest).symm

/-- What the scan knows of the bytes that it has read. -/
structure Tracks (p : Payload) (s : RunScan) : Prop where
  current : Longest (· <:+ p) s.current
  longest : Longest (· <:+: p) s.longest

lemma tracks_nil : Tracks [] ⟨0, 0⟩ where
  current := ⟨⟨[], List.nil_suffix, by simp [Printable], rfl⟩, fun u hu _ => by
    simp [List.suffix_nil.mp hu]⟩
  longest := ⟨⟨[], List.nil_infix, by simp [Printable], rfl⟩, fun u hu _ => by
    simp [List.infix_nil.mp hu]⟩

lemma longest_suffix_snoc {s : RunScan} (h : Longest (· <:+ p) s.current) (b : UInt8) :
    Longest (· <:+ p ++ [b]) (s.step b).current := by
  by_cases hb : isPrintable b = true
  · rw [current_step_of_printable s hb]
    constructor
    · obtain ⟨u, hu, hprintable, hlength⟩ := h.attained
      refine ⟨u ++ [b], List.suffix_concat_iff.mpr (.inr ⟨u, rfl, hu⟩),
        printable_append.mpr ⟨hprintable, printable_singleton.mpr hb⟩, ?_⟩
      rw [List.length_append, hlength, List.length_singleton]
    · intro u hu hprintable
      rcases List.suffix_concat_iff.mp hu with rfl | ⟨v, rfl, hv⟩
      · exact Nat.zero_le _
      · rw [List.length_append, List.length_singleton]
        exact Nat.succ_le_succ (h.length_le v hv (printable_append.mp hprintable).1)
  -- Only the empty block at the end is printable.
  · rw [current_step_of_not_printable s hb]
    constructor
    · exact ⟨[], List.nil_suffix, by simp [Printable], rfl⟩
    · intro u hu hprintable
      rcases List.suffix_concat_iff.mp hu with rfl | ⟨v, rfl, -⟩
      · exact Nat.le_refl _
      · exact absurd (printable_singleton.mp (printable_append.mp hprintable).2) hb

/-- **A step of the scan** keeps both lengths right: a block is at the end or was there before. -/
theorem tracks_step {s : RunScan} (h : Tracks p s) (b : UInt8) : Tracks (p ++ [b]) (s.step b) where
  current := longest_suffix_snoc h.current b
  longest := by
    simp only [longest_step, List.infix_concat_iff]
    exact (longest_suffix_snoc h.current b).or h.longest

theorem tracks_runs (p : Payload) : Tracks p (runs p) := by
  induction p using List.reverseRecOn with
  | nil => exact tracks_nil
  | append_singleton p b ih =>
    rw [runs_snoc]
    exact tracks_step ih b

theorem longest_block (p : Payload) : Longest (· <:+: p) p.longestPrintableRun :=
  (tracks_runs p).longest

/-! ### Counts -/

lemma longestPrintableRun_le_printableCount (p : Payload) :
    p.longestPrintableRun ≤ p.printableCount := by
  obtain ⟨u, hu, hprintable, hlength⟩ := (longest_block p).attained
  calc p.longestPrintableRun
      = u.countP isPrintable := by rw [List.countP_eq_length.mpr hprintable, hlength]
    _ ≤ p.printableCount := hu.sublist.countP_le

lemma current_le_longest (p : Payload) : (runs p).current ≤ (runs p).longest := by
  obtain ⟨u, hu, hprintable, hlength⟩ := (tracks_runs p).current.attained
  rw [← hlength]
  exact (tracks_runs p).longest.length_le u hu.isInfix hprintable

lemma printableCount_snoc (p : Payload) (b : UInt8) :
    printableCount (p ++ [b]) = p.printableCount + if isPrintable b then 1 else 0 := by
  rw [printableCount, List.countP_append, List.countP_singleton, ← printableCount]

lemma unprintableCount_snoc (p : Payload) (b : UInt8) :
    unprintableCount (p ++ [b]) = p.unprintableCount + if isPrintable b then 0 else 1 := by
  rw [unprintableCount, List.countP_append, List.countP_singleton, ← unprintableCount]
  cases isPrintable b <;> rfl

/-- Each byte that is not printable closes a run, and the run at the end is still open. -/
lemma printableCount_le_runs (p : Payload) :
    p.printableCount ≤ (runs p).longest * p.unprintableCount + (runs p).current := by
  induction p using List.reverseRecOn with
  | nil => exact Nat.le_refl 0
  | append_singleton p b ih =>
    rw [runs_snoc, printableCount_snoc, unprintableCount_snoc]
    by_cases hb : isPrintable b = true
    · have hgrows : (runs p).longest ≤ ((runs p).step b).longest := by
        rw [longest_step]
        exact Nat.le_max_right _ _
      have hmul := Nat.mul_le_mul_right (unprintableCount p) hgrows
      rw [current_step_of_printable _ hb, if_pos hb, if_pos hb, Nat.add_zero (unprintableCount p)]
      omega
    · have hkept : ((runs p).step b).longest = (runs p).longest := by
        rw [longest_step, current_step_of_not_printable _ hb, Nat.zero_max]
      have hcurrent := current_le_longest p
      -- The run that the byte ends is charged to it.
      rw [current_step_of_not_printable _ hb, hkept, if_neg hb, if_neg hb, Nat.mul_add_one]
      omega

lemma printableCount_le_mul (p : Payload) :
    p.printableCount ≤ p.longestPrintableRun * (p.unprintableCount + 1) := by
  have hcurrent := current_le_longest p
  calc p.printableCount
      ≤ (runs p).longest * p.unprintableCount + (runs p).current := printableCount_le_runs p
    _ ≤ (runs p).longest * p.unprintableCount + (runs p).longest := Nat.add_le_add_left hcurrent _
    _ = p.longestPrintableRun * (p.unprintableCount + 1) := (Nat.mul_add_one _ _).symm

/-! ### Parts -/

lemma longestPrintableRun_le_of_infix (h : p <:+: q) :
    p.longestPrintableRun ≤ q.longestPrintableRun := by
  obtain ⟨u, hu, hprintable, hlength⟩ := (longest_block p).attained
  rw [← hlength]
  exact (longest_block q).length_le u (hu.trans h) hprintable

/-- A block that lies on both sides of a cut is a run on each side. -/
lemma longestPrintableRun_append_le (p q : Payload) :
    (p ++ q).longestPrintableRun ≤ p.longestPrintableRun + q.longestPrintableRun := by
  obtain ⟨u, hu, hprintable, hlength⟩ := (longest_block (p ++ q)).attained
  rw [← hlength]
  rcases List.infix_append_iff.mp hu with hu | hu | ⟨v, w, rfl, hv, hw⟩
  · exact Nat.le_add_right_of_le ((longest_block p).length_le u hu hprintable)
  · exact Nat.le_add_left_of_le ((longest_block q).length_le u hu hprintable)
  · obtain ⟨hleft, hright⟩ := printable_append.mp hprintable
    rw [List.length_append]
    exact Nat.add_le_add ((longest_block p).length_le v hv.isInfix hleft)
      ((longest_block q).length_le w hw.isInfix hright)

/-- **Printable runs, measured**: the longest printable run is the length of a longest block of
printable bytes. It is at most the number of printable bytes, which the bytes that are not printable
part into one run more than there are of them. The longest run of two payloads in a row is at least
that of either, and at most as long as both together. -/
theorem printable_runs_measured :
    (∀ p : Payload, Longest (· <:+: p) p.longestPrintableRun ∧
      p.longestPrintableRun ≤ p.printableCount ∧ p.printableCount ≤ p.length ∧
      p.printableCount ≤ p.longestPrintableRun * (p.unprintableCount + 1)) ∧
    ∀ p q : Payload,
      max p.longestPrintableRun q.longestPrintableRun ≤ (p ++ q).longestPrintableRun ∧
      (p ++ q).longestPrintableRun ≤ p.longestPrintableRun + q.longestPrintableRun := by
  constructor
  · exact fun p => ⟨longest_block p, longestPrintableRun_le_printableCount p,
      List.countP_le_length, printableCount_le_mul p⟩
  · intro p q
    have hleft := longestPrintableRun_le_of_infix (List.prefix_append p q).isInfix
    have hright := longestPrintableRun_le_of_infix (List.suffix_append p q).isInfix
    exact ⟨Nat.max_le.mpr ⟨hleft, hright⟩, longestPrintableRun_append_le p q⟩

/-- The run across a cut is longer than the runs on either side. -/
example : longestPrintableRun ([0, 0x61, 0x62] ++ [0x63, 0, 0x64]) = 3 := by decide

end FlowVerdict.Payload
