import FlowVerdict.Proofs.Monitor.Judgement
import FlowVerdict.Proofs.Window.Accumulation

/-!
The window of a flow as it fills up. A window that holds the rows of packets and is not full takes
the row of one more packet at its end, and what a model would be asked about it is the values of the
packets spread in the order of the layout.
-/

namespace FlowVerdict.WindowShape

variable {shape : WindowShape} {s : FlowState} {packets : List Packet} {p : Packet}

/-- The window of the flow holds the rows of the packets and is not full. -/
structure Holds (shape : WindowShape) (s : FlowState) (packets : List Packet) : Prop where
  rows : s.window.rows.toList = packets.map (shape.rowFrom s.opener)
  short : packets.length < shape.size

lemma pushPacket_of_lt (h : s.window.length < shape.size) :
    shape.pushPacket s.window p (s.directionOf p) =
      (s.window.length + 1 == shape.size, ⟨s.window.rows.push (shape.rowFrom s.opener p)⟩) :=
  append_of_room h _

lemma length_collect_of_fills (h : shape.fills s p = true) :
    (shape.collect s p).window.length = shape.size := by
  have hfull : s.window.length + 1 = shape.size := (append_fst_iff _ _ _).mp h
  rw [collect, pushPacket_of_lt (by omega), Window.length, Array.size_push]
  exact hfull

namespace Holds

lemma length_window (h : shape.Holds s packets) : s.window.length = packets.length := by
  have hrows := congrArg List.length h.rows
  simpa [Window.length] using hrows

lemma length_window_lt (h : shape.Holds s packets) : s.window.length < shape.size := by
  rw [h.length_window]
  exact h.short

lemma fills_iff (h : shape.Holds s packets) (p : Packet) :
    shape.fills s p = true ↔ packets.length + 1 = shape.size := by
  rw [fills, pushPacket_of_lt h.length_window_lt, h.length_window]
  exact beq_iff_eq

lemma rows_collect (h : shape.Holds s packets) (p : Packet) :
    (shape.collect s p).window.rows.toList = (packets ++ [p]).map (shape.rowFrom s.opener) := by
  rw [collect, pushPacket_of_lt h.length_window_lt, List.map_append, ← h.rows]
  exact Array.toList_push

lemma collect (h : shape.Holds s packets) (hfills : shape.fills s p = false) :
    shape.Holds (shape.collect s p) (packets ++ [p]) := by
  have hshort := h.short
  have hnot : ¬packets.length + 1 = shape.size := by
    rw [← h.fills_iff p, hfills]
    simp
  refine ⟨h.rows_collect p, ?_⟩
  rw [List.length_append, List.length_singleton]
  omega

/-- What a model would be asked about the window with the next packet in it. -/
lemma flatten_collect (h : shape.Holds s packets) (p : Packet) :
    shape.flatten (shape.collect s p).window = shape.spread s.opener (packets ++ [p]) := by
  refine flatten_eq_spread (h.rows_collect p) ?_
  rw [List.length_append, List.length_singleton]
  exact h.short

lemma flatten_eq (h : shape.Holds s packets) :
    shape.flatten s.window = shape.spread s.opener packets :=
  flatten_eq_spread h.rows (Nat.le_of_lt h.short)

end Holds

lemma holds_nil (hwindow : s.window = .empty) (hsize : shape.size ≠ 0) : shape.Holds s [] :=
  ⟨by rw [hwindow]; rfl, Nat.pos_of_ne_zero hsize⟩

end FlowVerdict.WindowShape
