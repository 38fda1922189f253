import FlowVerdict.Packet
import FlowVerdict.Proofs.Net.Endpoint

/-!
The identity of a flow determines its two sides, though not which of them sends: a packet and one
sent back belong to the same flow.
-/

namespace FlowVerdict

lemma FlowId.between_eq_or (a b : Endpoint) (t : Transport) :
    between a b t = ⟨a, b, t⟩ ∨ between a b t = ⟨b, a, t⟩ := by
  unfold between
  split
  · exact .inl rfl
  · exact .inr rfl

theorem FlowId.between_comm (a b : Endpoint) (t : Transport) : between a b t = between b a t := by
  unfold between
  by_cases hab : a ≤ b
  · by_cases hba : b ≤ a
    · obtain rfl := Endpoint.le_antisymm hab hba
      rfl
    · rw [if_pos hab, if_neg hba]
  · rw [if_neg hab, if_pos ((Endpoint.le_total a b).resolve_left hab)]

theorem FlowId.sides_of_between_eq {a b c d : Endpoint} {s t : Transport}
    (h : between a b s = between c d t) : s = t ∧ (a = c ∧ b = d ∨ a = d ∧ b = c) := by
  rcases between_eq_or a b s with h₁ | h₁ <;> rcases between_eq_or c d t with h₂ | h₂ <;>
    rw [h₁, h₂] at h <;> obtain ⟨rfl, rfl, rfl⟩ := FlowId.mk.inj h <;> simp

lemma Packet.sides_of_flow_eq {p q : Packet} (h : p.flow = q.flow) :
    p.transport = q.transport ∧ (p.source = q.source ∧ p.target = q.target ∨
      p.source = q.target ∧ p.target = q.source) :=
  FlowId.sides_of_between_eq h

lemma Packet.sides_of_flow {p : Packet} {flow : FlowId} (h : p.flow = flow) :
    p.source = flow.low ∧ p.target = flow.high ∨ p.source = flow.high ∧ p.target = flow.low := by
  subst h
  rcases FlowId.between_eq_or p.source p.target p.transport with heq | heq
  · exact .inl (by simp [Packet.flow, heq])
  · exact .inr (by simp [Packet.flow, heq])

lemma Packet.contains_source {p : Packet} {flow : FlowId} (h : p.flow = flow) :
    flow.contains p.source = true := by
  rcases Packet.sides_of_flow h with ⟨hsource, -⟩ | ⟨hsource, -⟩
  · simp [FlowId.contains, hsource]
  · simp [FlowId.contains, hsource]

end FlowVerdict
