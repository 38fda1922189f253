import FlowVerdict.Policy.Ports
import Mathlib.Tactic.Lemma

/-!
A port policy does not tell the two sides of a flow apart, and what it recommends is told by which
ports are in its lists, however often and in whatever order.
-/

namespace FlowVerdict.PortPolicy

variable {policy : PortPolicy} {a b : UInt16}

lemma touches_comm (ports : List UInt16) (a b : UInt16) : touches ports a b = touches ports b a :=
  Bool.or_comm _ _

theorem verdict?_comm (policy : PortPolicy) (a b : UInt16) :
    policy.verdict? a b = policy.verdict? b a := by
  simp only [verdict?, touches_comm _ a b]

lemma touches_iff {ports : List UInt16} : touches ports a b = true ↔ a ∈ ports ∨ b ∈ ports := by
  simp [touches]

/-- A flow between the two ports gets the verdict of the blocked ports. -/
def Blocks (policy : PortPolicy) (a b : UInt16) : Prop :=
  (a ∈ policy.blocked ∨ b ∈ policy.blocked) ∧ policy.blockedVerdict ≠ .pass

instance : Decidable (policy.Blocks a b) := inferInstanceAs (Decidable (_ ∧ _))

inductive Recommends (policy : PortPolicy) (a b : UInt16) : Verdict → Prop
  /-- A blocked port is touched. -/
  | blocked (blocks : policy.Blocks a b) : Recommends policy a b policy.blockedVerdict
  /-- There are allowed ports, and none of them is touched. -/
  | missed (free : ¬policy.Blocks a b) (listed : policy.allowed ≠ [])
    (missed : a ∉ policy.allowed ∧ b ∉ policy.allowed) (strict : policy.otherVerdict ≠ .pass) :
    Recommends policy a b policy.otherVerdict

/-- **The verdict on two ports** is what the policy recommends for them. -/
theorem verdict?_eq_some_iff {v : Verdict} :
    policy.verdict? a b = some v ↔ policy.Recommends a b v := by
  have hblocks : (touches policy.blocked a b && policy.blockedVerdict != .pass) = true ↔
      policy.Blocks a b := by
    simp [Blocks, touches_iff]
  have hmissed : (!policy.allowed.isEmpty && !touches policy.allowed a b &&
      policy.otherVerdict != .pass) = true ↔
        policy.allowed ≠ [] ∧ (a ∉ policy.allowed ∧ b ∉ policy.allowed) ∧
          policy.otherVerdict ≠ .pass := by
    simp [touches, and_assoc]
  simp only [verdict?, hblocks, hmissed]
  constructor
  · intro h
    split at h
    · next hb =>
      obtain rfl := Option.some.inj h
      exact .blocked hb
    · next hb =>
      split at h
      · next hm =>
        obtain rfl := Option.some.inj h
        exact .missed hb hm.1 hm.2.1 hm.2.2
      · cases h
  · intro h
    cases h with
    | blocked hb => rw [if_pos hb]
    | missed hb hlisted hmissed hstrict => rw [if_neg hb, if_pos ⟨hlisted, hmissed, hstrict⟩]

lemma Recommends.ne_pass {v : Verdict} (h : policy.Recommends a b v) : v ≠ .pass := by
  cases h with
  | blocked hb => exact hb.2
  | missed _ _ _ hstrict => exact hstrict

end FlowVerdict.PortPolicy
