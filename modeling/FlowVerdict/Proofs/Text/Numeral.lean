import FlowVerdict.Proofs.Text.Split
import FlowVerdict.Text.Numeral
import Mathlib.Data.List.Basic
import Mathlib.Tactic.IntervalCases

/-!
Numbers written and read again. A reader of numbers takes digits as long as there are any, so a
number is read back from its digits if what follows them starts with none, and if the format has
room for it.
-/

namespace FlowVerdict.Text.Numeral

variable {base n : Nat} {rest : List Char}

/-- The text does not start with a digit of the base. -/
def NoDigitFirst (base : Nat) (rest : List Char) : Prop :=
  ∀ c more, rest = c :: more → isDigit base c = false

lemma noDigitFirst_cons {c : Char} (h : isDigit base c = false) (rest : List Char) :
    NoDigitFirst base (c :: rest) := by
  rintro _ _ ⟨⟩
  exact h

/-! ### Digits -/

lemma digitValue?_digitChar (hbase : base ≤ 16) {d : Nat} (hd : d < base) :
    digitValue? base (Nat.digitChar d) = some d := by
  have h : digitValue? base (Nat.digitChar d) = if d < base then some d else none := by
    have hd' : d < 16 := Nat.lt_of_lt_of_le hd hbase
    interval_cases d <;> rfl
  rw [h, if_pos hd]

lemma isDigit_digitChar (hbase : base ≤ 16) {d : Nat} (hd : d < base) :
    isDigit base (Nat.digitChar d) = true := by
  rw [isDigit, digitValue?_digitChar hbase hd, Option.isSome_some]

lemma isDigit_of_le {base' : Nat} (h : base ≤ base') {c : Char} (hc : isDigit base c = true) :
    isDigit base' c = true := by
  simp only [isDigit, digitValue?, Option.isSome_ite] at hc ⊢
  split_ifs at hc ⊢ <;> omega

lemma digits_eq (hbase : 1 < base) (n : Nat) :
    digits base n = if n < base then [Nat.digitChar n]
      else digits base (n / base) ++ [Nat.digitChar (n % base)] :=
  Nat.toDigits_eq_if hbase

lemma digits_ne_nil : digits base n ≠ [] := Nat.toDigits_ne_nil

lemma isDigit_of_mem_digits (hone : 1 < base) (hbase : base ≤ 16) {c : Char}
    (h : c ∈ digits base n) : isDigit base c = true := by
  induction n using Nat.strong_induction_on with
  | _ n ih =>
    rw [digits_eq hone] at h
    split at h
    · next hlt =>
      rw [List.mem_singleton.mp h]
      exact isDigit_digitChar hbase hlt
    · next hge =>
      rcases List.mem_append.mp h with h | h
      · exact ih (n / base) (Nat.div_lt_self (by omega) hone) h
      · rw [List.mem_singleton.mp h]
        exact isDigit_digitChar hbase (Nat.mod_lt n (by omega))

lemma value_snoc (base : Nat) (cs : List Char) (c : Char) :
    value base (cs ++ [c]) = value base cs * base + (digitValue? base c).getD 0 := by
  rw [value, List.foldl_append]
  rfl

lemma value_digits (hone : 1 < base) (hbase : base ≤ 16) (n : Nat) :
    value base (digits base n) = n := by
  induction n using Nat.strong_induction_on with
  | _ n ih =>
    rw [digits_eq hone]
    split
    · next hlt =>
      rw [← List.nil_append [_], value_snoc, digitValue?_digitChar hbase hlt]
      exact (congrArg (· + n) (Nat.zero_mul base)).trans (Nat.zero_add n)
    · next hge =>
      rw [value_snoc, ih (n / base) (Nat.div_lt_self (by omega) hone),
        digitValue?_digitChar hbase (Nat.mod_lt n (by omega))]
      exact Nat.div_add_mod' n base

lemma head?_digits (hone : 1 < base) (hbase : base ≤ 16) (hn : n ≠ 0) :
    (digits base n).head? ≠ some '0' := by
  induction n using Nat.strong_induction_on with
  | _ n ih =>
    rw [digits_eq hone]
    split
    · next hlt => simpa using hn
    · next hge =>
      have hpos : n / base ≠ 0 := by
        rw [Nat.div_ne_zero_iff]
        omega
      rw [List.head?_append_of_ne_nil _ digits_ne_nil]
      exact ih (n / base) (Nat.div_lt_self (by omega) hone) hpos

lemma digits_injective (hone : 1 < base) (hbase : base ≤ 16) :
    Function.Injective (digits base) := fun n m h => by
  rw [← value_digits hone hbase n, h, value_digits hone hbase m]

/-! ### Formats -/

/-- The format has room for the number. -/
structure Format.Takes (f : Format) (n : Nat) : Prop where
  one_lt_base : 1 < f.base
  base_le : f.base ≤ 16
  lt_bound : n < f.bound
  length_le : ∀ m, f.maxDigits = some m → (digits f.base n).length ≤ m

lemma Format.rest_of_read {f : Format} {cs : List Char} (h : f.read cs = some (n, rest)) :
    rest = cs.dropWhile (isDigit f.base) := by
  simp only [Format.read, Option.ite_none_left_eq_some, Option.some.injEq, Prod.mk.injEq] at h
  exact h.2.2.symm

/-- **A number is read back from its digits.** -/
theorem Format.read_digits {f : Format} (h : f.Takes n) (hrest : NoDigitFirst f.base rest) :
    f.read (digits f.base n ++ rest) = some (n, rest) := by
  obtain ⟨hone, hbase, hbound, hlength⟩ := h
  have hdigits : ∀ c ∈ digits f.base n, isDigit f.base c = true :=
    fun c => isDigit_of_mem_digits hone hbase
  have hempty : (digits f.base n).isEmpty = false := by
    simpa using digits_ne_nil
  have hzero : ((digits f.base n).head? == some '0' && decide ((digits f.base n).length > 1)) =
      false := by
    by_cases hn : n = 0
    · subst hn
      rw [digits_eq hone, if_pos (by omega)]
      rfl
    · rw [beq_false_of_ne (head?_digits hone hbase hn), Bool.false_and]
  simp only [Format.read, takeWhile_append_of_stop hdigits hrest,
    dropWhile_append_of_stop hdigits hrest, value_digits hone hbase, hempty,
    Bool.and_assoc, hzero]
  cases hmax : f.maxDigits with
  | none => simp [hbound]
  | some m => simp [hbound, hlength m hmax]

end FlowVerdict.Text.Numeral
