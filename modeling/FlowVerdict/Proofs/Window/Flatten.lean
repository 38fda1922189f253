import FlowVerdict.Window.Window
import Mathlib.Tactic.Lemma

/-!
Flattening in closed form.

Cell by cell, a flattened window looks up every position of a grid. Told by its packets, it is the
list of their values in the order of the layout, followed by the padding, feature by feature or once
at the end.
-/

namespace FlowVerdict

lemma map_range_length {α β : Type} (l : List α) {f : Nat → β} {g : α → β}
    (h : ∀ i (hi : i < l.length), f i = g l[i]) : (List.range l.length).map f = l.map g :=
  List.ext_getElem (by simp) fun i hi _ => by simpa using h i (by simpa using hi)

lemma map_range_add {α β : Type} (l : List α) (extra : Nat) {f : Nat → β} {g : α → β} {b : β}
    (h : ∀ i (hi : i < l.length), f i = g l[i]) (hpad : ∀ i, l.length ≤ i → f i = b) :
    (List.range (l.length + extra)).map f = l.map g ++ List.replicate extra b := by
  rw [List.range_add, List.map_append, map_range_length l h, List.map_map]
  congr 1
  refine List.eq_replicate_iff.mpr ⟨by simp, fun c hc => ?_⟩
  obtain ⟨i, -, rfl⟩ := List.mem_map.mp hc
  exact hpad _ (Nat.le_add_right _ _)

namespace WindowShape

variable (shape : WindowShape)

/-- The row of a packet of a flow with a given opener. -/
def rowFrom (opener : Endpoint) (p : Packet) : List Float32 :=
  shape.row p (p.directionFrom opener)

/-- The values of packets in the order of the layout, and padding for the rows that none of them
fills. -/
def spread (opener : Endpoint) (packets : List Packet) : List Float32 :=
  match shape.layout with
  | .concatenated => shape.features.flatMap fun f =>
      (packets.map fun p => f.value p (p.directionFrom opener)) ++
        List.replicate (shape.size - packets.length) shape.padding
  | .interleaved => packets.flatMap (shape.rowFrom opener) ++
      List.replicate ((shape.size - packets.length) * shape.width) shape.padding

theorem length_flatten (w : Window) : (shape.flatten w).length = shape.size * shape.width := by
  unfold flatten
  cases shape.layout with
  | concatenated => simp [List.length_flatMap, List.map_const', Nat.mul_comm]
  | interleaved => simp [List.length_flatMap, List.map_const']

variable {shape} {w : Window} {opener : Endpoint} {packets : List Packet}

lemma inputLength?_eq_some_iff {n : Nat} :
    shape.inputLength? = some n ↔ n = shape.size * shape.width ∧ n < UInt64.size := by
  unfold inputLength?
  dsimp only
  split
  · next h => exact ⟨fun hn => by cases hn; exact ⟨rfl, h⟩, fun hn => congrArg some hn.1.symm⟩
  · next h => exact ⟨nofun, fun ⟨hn, hlt⟩ => absurd (hn ▸ hlt) h⟩

lemma inputLength?_eq_none_iff :
    shape.inputLength? = none ↔ UInt64.size ≤ shape.size * shape.width := by
  unfold inputLength?
  dsimp only
  split
  · next h => exact ⟨nofun, fun hle => absurd h (Nat.not_lt_of_le hle)⟩
  · next h => exact ⟨fun _ => Nat.le_of_not_lt h, fun _ => rfl⟩

lemma cell_of_lt (h : w.rows.toList = packets.map (shape.rowFrom opener)) {i j : Nat}
    (hi : i < packets.length) (hj : j < shape.features.length) :
    shape.cell w i j = shape.features[j].value packets[i] (packets[i].directionFrom opener) := by
  have hrow : w.rows[i]? = some (shape.rowFrom opener packets[i]) := by
    rw [← Array.getElem?_toList, h]
    simp [hi]
  simp [cell, hrow, rowFrom, row, hj]

lemma cell_of_le (h : w.rows.toList = packets.map (shape.rowFrom opener)) {i : Nat}
    (hi : packets.length ≤ i) (j : Nat) : shape.cell w i j = shape.padding := by
  have hrow : w.rows[i]? = none := by
    rw [← Array.getElem?_toList, h]
    simp [hi]
  simp [cell, hrow]

/-- **The closed form**: a window that holds the rows of packets flattens to their values, spread in
the order of the layout. -/
theorem flatten_eq_spread (h : w.rows.toList = packets.map (shape.rowFrom opener))
    (hlen : packets.length ≤ shape.size) : shape.flatten w = shape.spread opener packets := by
  obtain ⟨extra, hsize⟩ := Nat.exists_eq_add_of_le hlen
  have hextra : shape.size - packets.length = extra := by omega
  unfold flatten spread
  rw [hextra, hsize]
  cases shape.layout with
  | concatenated =>
    dsimp only
    rw [List.flatMap_def, List.flatMap_def]
    refine congrArg List.flatten (map_range_length shape.features fun j hj => ?_)
    exact map_range_add packets extra (fun i hi => cell_of_lt h hi hj)
      (fun i hi => cell_of_le h hi j)
  | interleaved =>
    have hrow : ∀ i (hi : i < packets.length),
        (List.range shape.width).map (shape.cell w i) = shape.rowFrom opener packets[i] :=
      fun i hi => map_range_length shape.features fun j hj => cell_of_lt h hi hj
    have hpad : ∀ i, packets.length ≤ i →
        (List.range shape.width).map (shape.cell w i) =
          List.replicate shape.width shape.padding := by
      intro i hi
      rw [funext (cell_of_le h hi), List.map_const', List.length_range]
    dsimp only
    rw [List.flatMap_def, List.flatMap_def, map_range_add packets extra hrow hpad,
      List.flatten_append, List.flatten_replicate_replicate]

end WindowShape

end FlowVerdict
