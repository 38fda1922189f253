import FlowVerdict.Proofs.Monitor.Assembly
import FlowVerdict.Proofs.Settings.Requirements
import FlowVerdict.Proofs.Window.Flatten

/-!
How long a flattened window is, and what a machine word makes of it.

A window has as many values as it has packets times features. The length is computed as a machine
word, so there is one only as long as the product fits, and no monitor comes about without. Nothing
that is checked bounds the number of packets from above, so it is the features of the model that
decide: one or two of them are safe for all sizes that a document can spell, three are not.
-/

namespace FlowVerdict

/-- There is a computed length, and it is the one that windows have. -/
structure WindowShape.Exact (shape : WindowShape) : Prop where
  length_eq : shape.inputLength? = some (shape.size * shape.width)
  flatten_eq : ∀ w, shape.inputLength? = some (shape.flatten w).length

namespace WindowShape

lemma exact_iff (shape : WindowShape) : shape.Exact ↔ shape.size * shape.width < UInt64.size := by
  constructor
  · intro h
    exact (inputLength?_eq_some_iff.mp h.length_eq).2
  · intro h
    have hlength : shape.inputLength? = some (shape.size * shape.width) :=
      inputLength?_eq_some_iff.mpr ⟨rfl, h⟩
    exact ⟨hlength, fun w => by rw [hlength, shape.length_flatten]⟩

lemma not_exact_iff (shape : WindowShape) : ¬shape.Exact ↔ shape.inputLength? = none := by
  rw [exact_iff, inputLength?_eq_none_iff, Nat.not_lt]

end WindowShape

/-- Up to `c` features are safe for all sizes below a bound, if the bound is large enough for one
more feature to be too many. -/
lemma forall_mul_lt_iff {word bound c k : Nat} (hbound : 0 < bound) (hfits : (bound - 1) * c < word)
    (hexceeds : word ≤ (bound - 1) * (c + 1)) : (∀ n < bound, n * k < word) ↔ k ≤ c := by
  constructor
  · intro h
    by_contra hk
    have hlast : (bound - 1) * k < word := h (bound - 1) (by omega)
    have hmore : (bound - 1) * (c + 1) ≤ (bound - 1) * k := Nat.mul_le_mul_left _ (by omega)
    omega
  · intro hk n hn
    have hnk : n * k ≤ (bound - 1) * c := Nat.mul_le_mul (by omega) hk
    omega

namespace Settings

variable {s : Settings} {name : String} {m : ModelSettings}

def withWindowSize (s : Settings) (n : Nat) : Settings :=
  { s with window := { s.window with size := n } }

lemma check_withWindowSize (h : s.check = .ok ()) (n : Nat) :
    (s.withWindowSize n).check = .ok () ↔ 1 ≤ n := by
  rw [check_eq_ok_iff, forall_ownRequirements, WindowSettings.forall_requirements] at h ⊢
  obtain ⟨⟨-, hpadding⟩, hrest⟩ := h
  exact ⟨fun hcheck => hcheck.1.1, fun hn => ⟨⟨hn, hpadding⟩, hrest⟩⟩

/-- What the sizes of a model's windows can be, and which of them a machine word can tell. -/
structure Geometry (s : Settings) (m : ModelSettings) : Prop where
  /-- Every size but zero passes the check. -/
  check_iff : ∀ n, (s.withWindowSize n).check = .ok () ↔ 1 ≤ n
  /-- Lengths are exact as long as they fit in a word. -/
  exact_iff : ∀ n, ((s.withWindowSize n).window.shape m).Exact ↔
    n * m.features.length < UInt64.size
  /-- All words are exact as sizes with one feature only. -/
  word_iff : (∀ n < UInt64.size, ((s.withWindowSize n).window.shape m).Exact) ↔
    m.features.length ≤ 1
  /-- All sizes that a document can spell, which are signed, are exact with up to two features. -/
  signed_iff : (∀ n < UInt64.size / 2, ((s.withWindowSize n).window.shape m).Exact) ↔
    m.features.length ≤ 2

lemma geometry (h : s.check = .ok ()) (m : ModelSettings) : s.Geometry m := by
  have hexact : ∀ n, ((s.withWindowSize n).window.shape m).Exact ↔
      n * m.features.length < UInt64.size := fun n => WindowShape.exact_iff _
  refine ⟨check_withWindowSize h, hexact, ?_, ?_⟩
  · simp only [hexact]
    exact forall_mul_lt_iff (by decide) (by decide) (by decide)
  · simp only [hexact]
    exact forall_mul_lt_iff (by decide) (by decide) (by decide)

end Settings

namespace Monitor

variable {σ : Type} {settings : Settings} {scorer : Scorer σ} {name : String}
  {model : ModelSettings}

lemma mapError_refused_ne_overflow {α : Type} (x : Except SettingsError α) :
    x.mapError AssemblyFault.refused ≠ .error .overflow := by
  cases x with
  | error => intro h; cases h
  | ok => intro h; cases h

lemma assemble_eq_overflow_iff {shape : ModelShape} (hcheck : settings.check = .ok ())
    (hactive : settings.activeModel? = .ok (some (name, model)))
    (hshape : scorer.shape name = some shape) :
    assemble settings (some scorer) = .error .overflow ↔
      (settings.window.shape model).inputLength? = none := by
  simp only [assemble, hcheck, hactive, mapError_ok, ok_bind, hshape]
  cases (settings.window.shape model).inputLength? with
  | none => exact iff_of_true rfl rfl
  | some length =>
    -- Past the product there are only checks, and what these report is refused.
    refine iff_of_false (fun h => ?_) (by simp)
    rcases error_of_bind h with h | ⟨_, -, h⟩
    · exact mapError_refused_ne_overflow _ h
    rcases error_of_bind h with h | ⟨_, -, h⟩
    · exact mapError_refused_ne_overflow _ h
    · cases h

/-- **The length of a window is exact as long as it fits in a machine word**, which the check of
settings does not see to: it admits every size but zero. A model that is accepted for the settings
takes inputs of the length that windows have; where there is no such length, the attempt to build a
monitor overflows. -/
theorem window_length_exact_iff (hcheck : settings.check = .ok ())
    (hactive : settings.activeModel? = .ok (some (name, model))) :
    settings.Geometry model ∧
      (∀ (scorer : Scorer σ) (monitor : Monitor σ), assemble settings (some scorer) = .ok monitor →
        (settings.window.shape model).Exact ∧ ∃ shape, scorer.shape name = some shape ∧
          shape.inputLength = settings.window.size * model.features.length) ∧
      ∀ (scorer : Scorer σ) (shape : ModelShape), scorer.shape name = some shape →
        (assemble settings (some scorer) = .error .overflow ↔
          ¬(settings.window.shape model).Exact) := by
  refine ⟨Settings.geometry hcheck model, fun scorer monitor h => ?_,
    fun scorer shape hshape => ?_⟩
  · obtain ⟨shape, hshape, hlength, -⟩ := suits_of_assemble h hactive
    obtain ⟨hproduct, hword⟩ := WindowShape.inputLength?_eq_some_iff.mp hlength
    exact ⟨(WindowShape.exact_iff _).mpr (hproduct ▸ hword), shape, hshape, hproduct⟩
  · rw [assemble_eq_overflow_iff hcheck hactive hshape, WindowShape.not_exact_iff]

end Monitor

namespace Sample

/-- A model that sees four features of a packet. -/
def fourfold : ModelSettings :=
  { features := [.payloadLength, .direction, .payloadEntropy, .payloadPopcount] }

/-- Settings with windows of so many packets that their four features make `2 ^ 64` values. -/
def wide : Settings :=
  { window := { size := UInt64.size / 4 }, classifier := ⟨.model, some "m"⟩,
    models := [("m", fourfold)] }

/-- A library whose model takes no input at all. -/
def blind : ModelLibrary := ⟨[("m", ⟨0, [[]], [0], .softmax⟩)]⟩

end Sample

open Sample in
theorem Monitor.window_length_exact_iff_four_features :
    wide.check = .ok () ∧ ¬(wide.window.shape fourfold).Exact ∧
      ((wide.withWindowSize (UInt64.size / 4 - 1)).window.shape fourfold).Exact := by
  have hcheck : wide.check = .ok () := rfl
  obtain ⟨hgeometry, -, -⟩ := Monitor.window_length_exact_iff (σ := Unit) hcheck rfl
  have hexact := hgeometry.exact_iff
  exact ⟨hcheck, fun h => absurd ((hexact (UInt64.size / 4)).mp h) (by decide),
    (hexact (UInt64.size / 4 - 1)).mpr (by decide)⟩

open Sample in
/-- The check admits windows whose length is no machine word. -/
theorem Settings.check_admits_overflow :
    wide.check = .ok () ∧ wide.activeModel? = .ok (some ("m", fourfold)) ∧
      wide.window.size * fourfold.features.length = UInt64.size ∧
      (wide.window.shape fourfold).inputLength? = none :=
  ⟨rfl, rfl, rfl, rfl⟩

end FlowVerdict
