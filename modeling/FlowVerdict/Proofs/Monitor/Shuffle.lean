import FlowVerdict.Proofs.Monitor.Assembly
import FlowVerdict.Proofs.Monitor.Mapping
import FlowVerdict.Proofs.Payload.Statistics

/-!
A model does not see the order of bytes. All that a window takes from a payload are its length and
numbers computed from counts, so a packet leaves the same row in whatever order its bytes stand. Two
runs whose packets differ in this order alone go through the same states.

A fingerprint does see it: the first bytes of a payload are judged apart from the others.
-/

namespace FlowVerdict

/-- The packet, its payload aside, with the bytes of its payload in some order. -/
inductive Packet.Shuffled (p : Packet) : Packet → Prop where
  | bytes {payload : Payload} (h : p.payload.Perm payload) : Shuffled p { p with payload }

/-- The event, a packet's bytes in some order. -/
inductive Monitor.Event.Shuffled : Monitor.Event → Monitor.Event → Prop where
  | packet {p q : Packet} (h : p.Shuffled q) (now : Nat) : Shuffled (.packet p now) (.packet q now)
  | close (flow : FlowId) : Shuffled (.close flow) (.close flow)
  | sweep (now : Nat) : Shuffled (.sweep now) (.sweep now)

variable {p q : Packet}

/-! ### Rows -/

/-- **No feature sees the order of bytes.** -/
theorem Feature.value_shuffled (f : Feature) (h : p.Shuffled q) (d : Direction) :
    f.value q d = f.value p d := by
  obtain ⟨hperm⟩ := h
  have hcounts := Payload.sameCounts_of_perm hperm
  cases f with
  | payloadLength => exact congrArg Float32.ofNat hcounts.length_eq.symm
  | direction => rfl
  | payloadEntropy => exact congrArg Float.toFloat32 hcounts.entropy_eq.symm
  | payloadPopcount => exact congrArg Float.toFloat32 hcounts.averagePopcount_eq.symm
  | printableRatio => exact congrArg Float.toFloat32 hcounts.printableRatio_eq.symm

lemma WindowShape.row_shuffled (shape : WindowShape) (h : p.Shuffled q) (d : Direction) :
    shape.row q d = shape.row p d :=
  List.map_congr_left fun f _ => f.value_shuffled h d

namespace Monitor

variable {σ : Type} {monitor : Monitor σ} {m : ModelClassifier σ}

/-! ### Events -/

/-- **A model does not tell shuffled packets apart.** -/
lemma equates_shuffled (hc : monitor.classifier = .model m) (h : p.Shuffled q) :
    monitor.Equates p q := by
  have hrow : ∀ m', monitor.classifier = .model m' → ∀ d, m'.window.row q d = m'.window.row p d :=
    fun m' _ => m'.window.row_shuffled h
  have hverdict : ∀ g, monitor.classifier = .fingerprint g →
      monitor.payloadVerdict g q = monitor.payloadVerdict g p :=
    fun g hg => by cases hg.symm.trans hc
  obtain ⟨hperm⟩ := h
  exact ⟨rfl, hperm.length_eq.symm, rfl, hrow, hverdict⟩

lemma process_shuffled (hc : monitor.classifier = .model m) (h : p.Shuffled q) (state : State σ)
    (now : Nat) : monitor.process state q now = monitor.process state p now := by
  have hsource : q.source = p.source := by
    obtain ⟨-⟩ := h
    rfl
  exact (equates_shuffled hc h).process_eq hsource state now

lemma respond_shuffled (hc : monitor.classifier = .model m) {event shuffled : Event}
    (h : event.Shuffled shuffled) (state : State σ) :
    monitor.respond state shuffled = monitor.respond state event := by
  cases h with
  | packet h now => simp only [respond, process_shuffled hc h]
  | close flow => rfl
  | sweep now => rfl

/-! ### Runs -/

theorem run_shuffled (hc : monitor.classifier = .model m) {events shuffled : List Event}
    (h : List.Forall₂ Event.Shuffled events shuffled) (state : State σ) :
    monitor.run state shuffled = monitor.run state events := by
  induction h generalizing state with
  | nil => rfl
  | cons hevent _ ih => simp only [run, respond_shuffled hc hevent, ih]

/-- **The order of bytes is unseen by a model**: a permutation of a payload's bytes changes no
statistic that is computed from counts and no feature of its packet. A monitor that asks a model
therefore answers a run in which the bytes of every packet are shuffled as it answers the run
itself, comes to the same state, settled verdicts and counters included, and asks its scorer the
same questions. -/
theorem byte_order_unseen :
    (∀ p q : Payload, p.Perm q → Payload.SameCounts p q) ∧
    (∀ p q : Packet, p.Shuffled q → ∀ (f : Feature) (d : Direction), f.value q d = f.value p d) ∧
    ∀ (σ : Type) (monitor : Monitor σ) (m : ModelClassifier σ), monitor.classifier = .model m →
      ∀ events shuffled, List.Forall₂ Event.Shuffled events shuffled → ∀ x,
        monitor.run (.start x) shuffled = monitor.run (.start x) events ∧
        monitor.log x shuffled = monitor.log x events := by
  refine ⟨fun _ _ => Payload.sameCounts_of_perm, fun _ _ h f d => f.value_shuffled h d, ?_⟩
  intro σ monitor m hc events shuffled h x
  refine ⟨run_shuffled hc h _, ?_⟩
  rw [log, after, run_shuffled (recording_classifier hc) h, ← after, ← log]

end Monitor

namespace Sample

/-- A monitor that sees all features and drops a flow if the first of two packets is long. Its
scorer answers with the very features that it is shown. -/
def echoing : Monitor Unit :=
  ⟨{}, .model ⟨"echo", ⟨2, Feature.all, .interleaved, 0⟩, [⟨0, .greater, 2, .drop⟩],
    ⟨fun x _ features => (.ok features, x), fun _ => none⟩⟩⟩

def segment (payload : Payload) : Packet := { packet 5 with payload }

end Sample

namespace Monitor

open Sample in
/-- Two packets of a flow that is dropped for its first one, and the same bytes in other orders. -/
theorem byte_order_unseen_two_packets :
    let events := [.packet (segment [0x61, 0xff, 0]) 3, .packet (segment [0x20, 0x21]) 4]
    let shuffled := [.packet (segment [0xff, 0x61, 0]) 3, .packet (segment [0x21, 0x20]) 4]
    List.Forall₂ Event.Shuffled events shuffled ∧
    (echoing.run (.start ()) events).1 = [.verdict .pass, .verdict .drop] ∧
    echoing.run (.start ()) shuffled = echoing.run (.start ()) events ∧
    echoing.log () shuffled = echoing.log () events := by
  intro events shuffled
  have hfirst : (segment [0x61, 0xff, 0]).Shuffled (segment [0xff, 0x61, 0]) := .bytes (.swap ..)
  have hsecond : (segment [0x20, 0x21]).Shuffled (segment [0x21, 0x20]) := .bytes (.swap ..)
  have hshuffled : List.Forall₂ Event.Shuffled events shuffled :=
    .cons (.packet hfirst 3) (.cons (.packet hsecond 4) .nil)
  refine ⟨hshuffled, by decide +kernel, ?_⟩
  exact byte_order_unseen.2.2 Unit echoing _ rfl events shuffled hshuffled ()

end Monitor

end FlowVerdict
