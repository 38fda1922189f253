import FlowVerdict.Proofs.Net.FlowId
import Mathlib.Data.Multiset.ZeroCons

/-!
A flow and its two sides. Endpoints are in the order of their addresses, read from the first byte or
group on and every four-byte address first, and then of their ports. A flow's sides stand in that
order, whichever of them sends, so flows are the same exactly if their sides are, and the two
directions of a flow are told apart from either side.
-/

namespace FlowVerdict

/-! ### The order on endpoints -/

/-- Two numbers of two digits, the second of which may just be too big. -/
lemma mul_add_lt_iff {n d e x y : Nat} (hx : x < n) (hy : y ≤ n) :
    d * n + x < e * n + y ↔ d < e ∨ d = e ∧ x < y := by
  rcases Nat.lt_trichotomy d e with hlt | rfl | hgt
  · have hle : (d + 1) * n ≤ e * n := Nat.mul_le_mul_right n hlt
    rw [Nat.add_one_mul] at hle
    omega
  · omega
  · have hle : (e + 1) * n ≤ d * n := Nat.mul_le_mul_right n hgt
    rw [Nat.add_one_mul] at hle
    omega

lemma positionalValue_cons (base d : Nat) (ds : List Nat) :
    positionalValue base (d :: ds) = d * base ^ ds.length + positionalValue base ds := by
  rw [positionalValue_eq_ofDigits, positionalValue_eq_ofDigits, List.reverse_cons,
    Nat.ofDigits_append, List.length_reverse, Nat.ofDigits_singleton, Nat.add_comm, Nat.mul_comm]

lemma positionalValue_lt_iff {base : Nat} (hbase : 1 < base) {ds es : List Nat}
    (hlength : ds.length = es.length) (hds : ∀ d ∈ ds, d < base) (hes : ∀ d ∈ es, d < base) :
    positionalValue base ds < positionalValue base es ↔ ds < es := by
  induction ds generalizing es with
  | nil =>
    obtain rfl := List.length_eq_zero_iff.mp hlength.symm
    simp
  | cons d ds ih =>
    obtain ⟨e, es, rfl⟩ := List.exists_cons_of_length_eq_add_one hlength.symm
    have hrest : ds.length = es.length := Nat.succ_inj.mp hlength
    obtain ⟨-, hds⟩ := List.forall_mem_cons.mp hds
    obtain ⟨-, hes⟩ := List.forall_mem_cons.mp hes
    have hlow := positionalValue_lt hbase hds
    have hhigh := positionalValue_lt hbase hes
    rw [← hrest] at hhigh
    rw [positionalValue_cons, positionalValue_cons, ← hrest, mul_add_lt_iff hlow hhigh.le,
      List.cons_lt_cons_iff, ih hrest hds hes]

/-- The first address comes before the second: it has four bytes and the other one groups, or it is
smaller in the first byte or group in which they differ. -/
inductive Address.Before : Address → Address → Prop
  | bytes {a b : Vector UInt8 4} (h : byteDigits a < byteDigits b) : Before (.v4 a) (.v4 b)
  | groups {a b : Vector UInt16 8} (h : groupDigits a < groupDigits b) : Before (.v6 a) (.v6 b)
  | family (bytes : Vector UInt8 4) (groups : Vector UInt16 8) : Before (.v4 bytes) (.v6 groups)

/-- The endpoints are in order: that of their addresses, and for equal addresses that of their
ports. -/
def Endpoint.Sorted (a b : Endpoint) : Prop :=
  a.address.Before b.address ∨ a.address = b.address ∧ a.port ≤ b.port

lemma Address.rank_lt_iff {a b : Address} : a.rank < b.rank ↔ a.Before b := by
  cases a with
  | v4 bytes =>
    cases b with
    | v4 bytes' =>
      have hlength : (byteDigits bytes).length = (byteDigits bytes').length := by
        simp [byteDigits]
      refine (positionalValue_lt_iff (by decide) hlength (byteDigits_lt _)
        (byteDigits_lt _)).trans ⟨.bytes, fun h => ?_⟩
      cases h with
      | bytes h => exact h
    | v6 groups =>
      -- Every rank of four bytes lies below the first rank of eight groups.
      refine iff_of_true ?_ (.family bytes groups)
      exact Nat.lt_of_lt_of_le (rank_v4_lt bytes) (Nat.le_add_right _ _)
  | v6 groups =>
    cases b with
    | v4 bytes =>
      refine iff_of_false (Nat.not_lt_of_le ?_) (by rintro ⟨⟩)
      exact Nat.le_trans (rank_v4_lt bytes).le (Nat.le_add_right _ _)
    | v6 groups' =>
      have hlength : (groupDigits groups).length = (groupDigits groups').length := by
        simp [groupDigits]
      refine Nat.add_lt_add_iff_left.trans ((positionalValue_lt_iff (by decide) hlength
        (groupDigits_lt _) (groupDigits_lt _)).trans ⟨.groups, fun h => ?_⟩)
      cases h with
      | groups h => exact h

/-- **Endpoints are compared** by address, from the first byte or group on, and then by port. -/
theorem Endpoint.le_iff_sorted {a b : Endpoint} : a ≤ b ↔ a.Sorted b := by
  have ha : a.port.toNat < UInt16.size := a.port.toNat_lt
  have hb : b.port.toNat + 1 ≤ UInt16.size := b.port.toNat_lt
  calc a ≤ b
      ↔ a.address.rank * UInt16.size + a.port.toNat <
          b.address.rank * UInt16.size + (b.port.toNat + 1) := Nat.lt_succ_iff.symm
    _ ↔ a.address.rank < b.address.rank ∨
          a.address.rank = b.address.rank ∧ a.port.toNat < b.port.toNat + 1 :=
        mul_add_lt_iff ha hb
    _ ↔ a.Sorted b := by
        rw [Address.rank_lt_iff, Address.rank_injective.eq_iff, Nat.lt_succ_iff,
          ← UInt16.le_iff_toNat_le]
        rfl

/-! ### Sides -/

namespace FlowId

lemma between_eq_iff {a b c d : Endpoint} {s t : Transport} :
    between a b s = between c d t ↔ s = t ∧ (a = c ∧ b = d ∨ a = d ∧ b = c) := by
  refine ⟨sides_of_between_eq, ?_⟩
  rintro ⟨rfl, ⟨rfl, rfl⟩ | ⟨rfl, rfl⟩⟩
  · rfl
  · exact between_comm _ _ _

/-- The flow has the two endpoints as its sides, in order, and nothing else. -/
structure Joins (flow : FlowId) (a b : Endpoint) (t : Transport) : Prop where
  sorted : flow.low.Sorted flow.high
  sides_eq : ({flow.low, flow.high} : Multiset Endpoint) = {a, b}
  transport_eq : flow.transport = t
  contains_iff : ∀ e, flow.contains e = true ↔ e = a ∨ e = b

lemma contains_iff {flow : FlowId} {e : Endpoint} :
    flow.contains e = true ↔ e = flow.low ∨ e = flow.high := by
  rw [contains, Bool.or_eq_true, decide_eq_true_iff, decide_eq_true_iff, eq_comm,
    eq_comm (a := flow.high)]

lemma joins_between (a b : Endpoint) (t : Transport) : (between a b t).Joins a b t := by
  have hsorted : (between a b t).low.Sorted (between a b t).high := by
    rw [← Endpoint.le_iff_sorted]
    unfold between
    split
    · next hle => exact hle
    · next hnot => exact (Endpoint.le_total a b).resolve_left hnot
  rcases between_eq_or a b t with h | h
  · refine ⟨hsorted, by rw [h], by rw [h], fun e => ?_⟩
    rw [contains_iff, h]
  · refine ⟨hsorted, ?_, by rw [h], fun e => ?_⟩
    · rw [h]
      exact Multiset.pair_comm b a
    · rw [contains_iff, h]
      exact or_comm

end FlowId

/-! ### Directions -/

lemma Packet.directionFrom_eq_forward_iff {p : Packet} {e : Endpoint} :
    p.directionFrom e = .forward ↔ p.source = e := by
  unfold directionFrom
  split
  · next h => exact iff_of_true rfl h
  · next h => exact iff_of_false nofun h

lemma Direction.eq_iff_forward {d d' : Direction} :
    d = d' ↔ (d = .forward ↔ d' = .forward) := by
  cases d <;> cases d' <;> decide

lemma Direction.sign_eq_neg_of_ne {d d' : Direction} (h : d ≠ d') : d'.sign = -d.sign := by
  cases d with
  | forward =>
    cases d' with
    | forward => exact absurd rfl h
    | reverse => rfl
  | reverse =>
    cases d' with
    | forward => rfl
    | reverse => exact absurd rfl h

lemma Packet.directionFrom_eq_iff {p q : Packet} {e : Endpoint} (hflow : p.flow = q.flow)
    (hsides : p.source ≠ p.target) (he : p.flow.contains e = true) :
    p.directionFrom e = q.directionFrom e ↔ p.source = q.source := by
  rw [Direction.eq_iff_forward, directionFrom_eq_forward_iff, directionFrom_eq_forward_iff]
  have hside := ((FlowId.joins_between _ _ _).contains_iff e).mp he
  obtain ⟨-, ⟨hsource, -⟩ | ⟨hsource, htarget⟩⟩ := sides_of_flow_eq hflow
  · rw [hsource]
    simp
  · -- The packets go opposite ways, and the endpoint is the source of one of them.
    refine iff_of_false (fun hsame => hsides ?_) fun hsame => hsides ?_
    · rcases hside with rfl | rfl
      · exact ((hsame.mp rfl).symm.trans htarget.symm)
      · exact hsame.mpr htarget.symm
    · exact hsame.trans htarget.symm

/-- **Flows are known by their sides**: two flows are the same exactly if they have the same
protocol and the same two sides, whichever of them sends; the sides stand in order; and from either
side of a flow with two sides, packets go the same way or opposite ways as their sources say. -/
theorem FlowId.flows_known_by_sides :
    (∀ a b c d s t, between a b s = between c d t ↔
      s = t ∧ ((a, b) = (c, d) ∨ (a, b) = (d, c))) ∧
    (∀ a b t, (between a b t).Joins a b t) ∧
    ∀ (p q : Packet) e, p.flow = q.flow → p.source ≠ p.target → p.flow.contains e = true →
      (p.directionFrom e = q.directionFrom e ↔ p.source = q.source) ∧
      (p.source ≠ q.source → (q.directionFrom e).sign = -(p.directionFrom e).sign) := by
  refine ⟨fun a b c d s t => ?_, joins_between, fun p q e hflow hsides he => ?_⟩
  · rw [between_eq_iff, Prod.mk.injEq, Prod.mk.injEq]
  · have hagree := Packet.directionFrom_eq_iff hflow hsides he
    exact ⟨hagree, fun hne => Direction.sign_eq_neg_of_ne (mt hagree.mp hne)⟩

/-- A packet from an address of bytes to one of groups, and its reply. -/
theorem FlowId.flows_known_by_sides_reply :
    let a : Endpoint := ⟨.ofBytes 1 2 3 4, 40000⟩
    let b : Endpoint := ⟨.v6 #v[0, 0, 0, 0, 0, 0xffff, 0x102, 0x304], 443⟩
    let p : Packet := ⟨a, b, .tcp, .empty, []⟩
    let q : Packet := ⟨b, a, .tcp, .empty, []⟩
    p.flow = q.flow ∧ p.source ≠ p.target ∧ p.flow.contains b = true ∧ p.source ≠ q.source ∧
      (q.directionFrom b).sign = -(p.directionFrom b).sign := by
  intro a b p q
  have hflow : p.flow = q.flow := by decide
  have hsides : p.source ≠ p.target := by decide
  have hside : p.flow.contains b = true := by decide
  have hsources : p.source ≠ q.source := by decide
  exact ⟨hflow, hsides, hside, hsources,
    (flows_known_by_sides.2.2 p q b hflow hsides hside).2 hsources⟩

end FlowVerdict
