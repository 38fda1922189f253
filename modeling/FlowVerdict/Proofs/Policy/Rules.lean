import FlowVerdict.Policy.Rules
import Mathlib.Data.List.Basic
import Mathlib.Tactic.Lemma

/-!
What rules decide. A value and a threshold stand in one of three orders, unless one of them is no
number; a comparison holds in some of the orders, and never without one. The first rule whose
channel is there and whose comparison holds decides.
-/

namespace FlowVerdict

namespace Comparator

open Float.Model (UnpackedFloat)

/-- The order of a value and a threshold. There is none if one of them is no number. -/
def order? (value threshold : Float32) : Option Ordering :=
  value.toModel.compare threshold.toModel

/-- The comparison holds in an order of value and threshold. -/
def admits : Comparator → Ordering → Bool
  | .greater, o => o.isGT
  | .greaterOrEqual, o => o.isGE
  | .less, o => o.isLT
  | .lessOrEqual, o => o.isLE

lemma compare_ne_none {a b : UnpackedFloat} (ha : a.isNaN = false) (hb : b.isNaN = false) :
    a.compare b ≠ none := by
  cases a with
  | notANumber => cases ha
  | infinity s =>
    cases b with
    | notANumber => cases hb
    | infinity => exact Option.some_ne_none _
    | zero | finite => cases s <;> exact Option.some_ne_none _
  | zero =>
    cases b with
    | notANumber => cases hb
    | infinity t | finite t => cases t <;> exact Option.some_ne_none _
    | zero => exact Option.some_ne_none _
  | finite s =>
    cases b with
    | notANumber => cases hb
    | infinity t => cases t <;> exact Option.some_ne_none _
    | zero => cases s <;> exact Option.some_ne_none _
    | finite t => cases s <;> cases t <;> exact Option.some_ne_none _

lemma compare_eq_none_iff (a b : UnpackedFloat) :
    a.compare b = none ↔ a.isNaN = true ∨ b.isNaN = true := by
  constructor
  · intro h
    by_contra hne
    obtain ⟨ha, hb⟩ := not_or.mp hne
    exact compare_ne_none (eq_false_of_ne_true ha) (eq_false_of_ne_true hb) h
  · rintro (ha | hb)
    · cases a with
      | notANumber => rfl
      | _ => cases ha
    · cases b with
      | notANumber => cases a <;> rfl
      | _ => cases hb

lemma compare_swap (a b : UnpackedFloat) : b.compare a = (a.compare b).map Ordering.swap := by
  cases a with
  | notANumber => cases b <;> rfl
  | infinity s =>
    cases b with
    | notANumber => rfl
    | infinity t => cases s <;> cases t <;> rfl
    | zero => cases s <;> rfl
    | finite => cases s <;> rfl
  | zero s =>
    cases b with
    | notANumber => rfl
    | infinity t => cases t <;> rfl
    | zero => rfl
    | finite t => cases t <;> rfl
  | finite s m e =>
    cases b with
    | notANumber => rfl
    | infinity t => cases t <;> rfl
    | zero => cases s <;> rfl
    | finite t m' e' =>
      -- Among finite numbers the exponents come first; a negative sign turns the order round.
      have hmagnitude : (compare e' e).then (compare m' m) =
          ((compare e e').then (compare m m')).swap := by
        rw [Ordering.swap_then, Int.compare_swap, Nat.compare_swap]
      cases s with
      | positive =>
        cases t with
        | positive => exact congrArg some hmagnitude
        | negative => rfl
      | negative =>
        cases t with
        | positive => rfl
        | negative => exact congrArg (fun o => some (Ordering.swap o)) hmagnitude

lemma order?_eq_none_iff (value threshold : Float32) :
    order? value threshold = none ↔ value.isNaN = true ∨ threshold.isNaN = true :=
  compare_eq_none_iff _ _

lemma order?_swap (value threshold : Float32) :
    order? threshold value = (order? value threshold).map Ordering.swap :=
  compare_swap _ _

lemma lt_iff (a b : Float32) : a < b ↔ order? a b = some .lt := by
  have h : a < b ↔ (order? a b == some .lt) = true := by
    change decide ((order? a b == some .lt) = true) = true ↔ _
    exact decide_eq_true_iff
  rw [h, beq_iff_eq]

lemma le_iff (a b : Float32) : a ≤ b ↔ ∃ o, order? a b = some o ∧ o.isLE = true := by
  have h : a ≤ b ↔ (order? a b).any (·.isLE) = true := by
    change decide ((order? a b).any (·.isLE) = true) = true ↔ _
    exact decide_eq_true_iff
  rw [h, Option.any_eq_true]

/-- **A comparison holds in the orders that it admits**, and in no other case. -/
theorem holds_iff (c : Comparator) (value threshold : Float32) :
    c.holds value threshold = true ↔
      ∃ o, order? value threshold = some o ∧ c.admits o = true := by
  cases c with
  | greater =>
    simp only [holds, decide_eq_true_eq, lt_iff, order?_swap value threshold, admits]
    rcases order? value threshold with _ | _ | _ | _ <;> simp
  | greaterOrEqual =>
    simp only [holds, decide_eq_true_eq, le_iff, order?_swap value threshold, admits]
    rcases order? value threshold with _ | _ | _ | _ <;> simp
  | less =>
    simp only [holds, decide_eq_true_eq, lt_iff, admits]
    rcases order? value threshold with _ | _ | _ | _ <;> simp
  | lessOrEqual => simp only [holds, decide_eq_true_eq, le_iff, admits]

end Comparator

/-! ### Rules -/

/-- The channel of the rule is there, and its value compares with the threshold as the rule asks. -/
def ThresholdRule.Matches (rule : ThresholdRule) (probabilities : List Float32) : Prop :=
  ∃ value o, probabilities[rule.channel]? = some value ∧
    Comparator.order? value rule.threshold = some o ∧ rule.comparator.admits o = true

lemma ThresholdRule.accepts_iff {rule : ThresholdRule} {probabilities : List Float32} :
    rule.accepts probabilities = true ↔ rule.Matches probabilities := by
  unfold accepts Matches
  cases probabilities[rule.channel]? with
  | none => simp
  | some value => simp [Comparator.holds_iff]

lemma ThresholdRule.not_matches_of_isNaN {rule : ThresholdRule} {probabilities : List Float32}
    (h : rule.threshold.isNaN = true ∨
      ∃ value, probabilities[rule.channel]? = some value ∧ value.isNaN = true) :
    ¬rule.Matches probabilities := by
  rintro ⟨value, o, hvalue, horder, -⟩
  have hnone : Comparator.order? value rule.threshold = none := by
    refine (Comparator.order?_eq_none_iff _ _).mpr ?_
    rcases h with hthreshold | ⟨value', hvalue', hnan⟩
    · exact .inr hthreshold
    · obtain rfl := Option.some.inj (hvalue.symm.trans hvalue')
      exact .inl hnan
  cases horder.symm.trans hnone

namespace Rules

/-- The verdict is that of the earliest rule that matches, or to pass if there is none. -/
inductive Gives (rules : Rules) (probabilities : List Float32) : Verdict → Prop
  | matched {before after : Rules} {rule : ThresholdRule} (split : rules = before ++ rule :: after)
      (earlier : ∀ r ∈ before, ¬r.Matches probabilities) (here : rule.Matches probabilities) :
      Gives rules probabilities rule.verdict
  | unmatched (h : ∀ rule ∈ rules, ¬rule.Matches probabilities) : Gives rules probabilities .pass

lemma gives_verdict (rules : Rules) (probabilities : List Float32) :
    rules.Gives probabilities (rules.verdict probabilities) := by
  unfold verdict
  cases hfind : rules.find? (·.accepts probabilities) with
  | none =>
    have hnone := List.find?_eq_none.mp hfind
    exact .unmatched fun rule hrule hmatch =>
      hnone rule hrule (ThresholdRule.accepts_iff.mpr hmatch)
  | some rule =>
    obtain ⟨haccepts, before, after, hsplit, hbefore⟩ := List.find?_eq_some_iff_append.mp hfind
    refine .matched hsplit (fun r hr hmatch => ?_) (ThresholdRule.accepts_iff.mp haccepts)
    have hrefused := hbefore r hr
    rw [ThresholdRule.accepts_iff.mpr hmatch] at hrefused
    cases hrefused

lemma Gives.verdict_eq {rules : Rules} {probabilities : List Float32} {v : Verdict}
    (h : rules.Gives probabilities v) : rules.verdict probabilities = v := by
  unfold verdict
  cases h with
  | @matched before after rule split earlier here =>
    have hfind : rules.find? (·.accepts probabilities) = some rule := by
      refine List.find?_eq_some_iff_append.mpr
        ⟨ThresholdRule.accepts_iff.mpr here, before, after, split, fun r hr => ?_⟩
      rw [Bool.not_eq_true', ← Bool.not_eq_true, ThresholdRule.accepts_iff]
      exact earlier r hr
    rw [hfind]
  | unmatched h =>
    have hfind : rules.find? (·.accepts probabilities) = none :=
      List.find?_eq_none.mpr fun rule hrule => mt ThresholdRule.accepts_iff.mp (h rule hrule)
    rw [hfind]

/-- **The verdict on an answer** is that of the first rule that matches it. -/
theorem verdict_eq_iff {rules : Rules} {probabilities : List Float32} {v : Verdict} :
    rules.verdict probabilities = v ↔ rules.Gives probabilities v :=
  ⟨fun h => h ▸ rules.gives_verdict probabilities, Gives.verdict_eq⟩

end Rules

end FlowVerdict
