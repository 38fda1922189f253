import FlowVerdict.Monitor.Assembly
import FlowVerdict.Proofs.Computation
import FlowVerdict.Proofs.Monitor.Simulation

/-!
What settings that are accepted come to: the monitor keeps them, its windows take at least one
packet, and its classifier is the one they name, asking the scorer that was handed over.
-/

namespace FlowVerdict

lemma Check.of_require {condition : Bool} {error : SettingsError}
    (h : Check.require condition error = .ok ()) : condition = true := by
  cases condition with
  | false => cases h
  | true => rfl

lemma Settings.window_size_ne_zero {settings : Settings} (h : settings.check = .ok ()) :
    settings.window.size ≠ 0 := by
  obtain ⟨_, hwindow, -⟩ := ok_of_bind h
  obtain ⟨_, hsize, -⟩ := ok_of_bind hwindow
  simpa using Check.of_require hsize

lemma Rules.channel_lt_of_checkAgainst {name : String} {shape : ModelShape} {rules : Rules}
    {i : Nat} (h : rules.checkAgainst name shape i = .ok ()) :
    ∀ rule ∈ rules, rule.channel < shape.channels := by
  induction rules generalizing i with
  | nil => simp
  | cons rule rest ih =>
    obtain ⟨_, hchannel, h⟩ := ok_of_bind h
    obtain ⟨_, -, hrest⟩ := ok_of_bind h
    exact List.forall_mem_cons.mpr ⟨by simpa using Check.of_require hchannel, ih hrest⟩

namespace Monitor

variable {σ : Type} {settings : Settings} {scorer : Scorer σ} {monitor : Monitor σ}

/-- The scorer knows the model, whose input is as long as a flattened window and whose channels the
rules read. -/
def Suits (scorer : Scorer σ) (settings : Settings) (name : String) (model : ModelSettings) :
    Prop :=
  ∃ shape, scorer.shape name = some shape ∧
    (settings.window.shape model).inputLength? = some shape.inputLength ∧
    ∀ rule ∈ model.rules, rule.channel < shape.channels

/-- What accepted settings come to: a monitor that judges payloads by their fingerprint, or one that
asks a model about windows of at least one packet. -/
theorem assembled {scorer? : Option (Scorer σ)} (h : assemble settings scorer? = .ok monitor) :
    settings.window.size ≠ 0 ∧
      (settings.activeModel? = .ok none ∧
        monitor = ⟨settings, .fingerprint settings.fingerprint.fingerprint⟩ ∨
      ∃ name model scorer, settings.activeModel? = .ok (some (name, model)) ∧
        scorer? = some scorer ∧ Suits scorer settings name model ∧
        monitor = ⟨settings, .model ⟨name, settings.window.shape model, model.rules, scorer⟩⟩) := by
  obtain ⟨_, hcheck, h⟩ := ok_of_bind h
  obtain ⟨active, hactive, h⟩ := ok_of_bind h
  refine ⟨Settings.window_size_ne_zero (ok_of_mapError hcheck), ?_⟩
  have hactive : settings.activeModel? = .ok active := ok_of_mapError hactive
  cases active with
  | none => exact .inl ⟨hactive, (Except.ok.inj h).symm⟩
  | some choice =>
    cases scorer? with
    | none => cases h
    | some scorer =>
      dsimp only at h
      cases hshape : scorer.shape choice.1 with
      | none => rw [hshape] at h; cases h
      | some shape =>
        rw [hshape] at h
        cases hlength : (settings.window.shape choice.2).inputLength? with
        | none => dsimp only at h; rw [hlength] at h; cases h
        | some length =>
          dsimp only at h
          rw [hlength] at h
          obtain ⟨_, hsame, h⟩ := ok_of_bind h
          obtain ⟨_, hrules, h⟩ := ok_of_bind h
          have heq : shape.inputLength = length := by
            simpa using Check.of_require (ok_of_mapError hsame)
          exact .inr ⟨choice.1, choice.2, scorer, hactive, rfl,
            ⟨shape, hshape, heq ▸ hlength,
              Rules.channel_lt_of_checkAgainst (ok_of_mapError hrules)⟩,
            (Except.ok.inj h).symm⟩

lemma settings_of_assemble {scorer? : Option (Scorer σ)}
    (h : assemble settings scorer? = .ok monitor) : monitor.settings = settings := by
  obtain ⟨-, ⟨-, rfl⟩ | ⟨_, _, _, -, -, -, rfl⟩⟩ := assembled h <;> rfl

lemma size_ne_zero_of_assemble {scorer? : Option (Scorer σ)}
    (h : assemble settings scorer? = .ok monitor) {m : ModelClassifier σ}
    (hc : monitor.classifier = .model m) : m.window.size ≠ 0 := by
  obtain ⟨hsize, ⟨-, rfl⟩ | ⟨_, _, _, -, -, -, rfl⟩⟩ := assembled h
  · cases hc
  · obtain rfl := Classifier.model.inj hc
    exact hsize

lemma eq_of_assemble_fingerprint {scorer? : Option (Scorer σ)}
    (h : assemble settings scorer? = .ok monitor) (hactive : settings.activeModel? = .ok none) :
    monitor = ⟨settings, .fingerprint settings.fingerprint.fingerprint⟩ := by
  obtain ⟨-, ⟨-, hmonitor⟩ | ⟨name, model, scorer, hactive', -⟩⟩ := assembled h
  · exact hmonitor
  · cases hactive.symm.trans hactive'

theorem eq_of_assemble (h : assemble settings (some scorer) = .ok monitor) {name : String}
    {model : ModelSettings} (hactive : settings.activeModel? = .ok (some (name, model))) :
    monitor = ⟨settings, .model ⟨name, settings.window.shape model, model.rules, scorer⟩⟩ ∧
      settings.window.size ≠ 0 := by
  obtain ⟨hsize, ⟨hactive', -⟩ | ⟨name', model', scorer', hactive', hscorer, -, hmonitor⟩⟩ :=
    assembled h
  · cases hactive.symm.trans hactive'
  · cases hactive.symm.trans hactive'
    cases hscorer
    exact ⟨hmonitor, hsize⟩

lemma classifier_of_assemble (h : assemble settings (some scorer) = .ok monitor) {name : String}
    {model : ModelSettings} (hactive : settings.activeModel? = .ok (some (name, model))) :
    monitor.settings = settings ∧
      monitor.classifier = .model ⟨name, settings.window.shape model, model.rules, scorer⟩ := by
  obtain ⟨rfl, -⟩ := eq_of_assemble h hactive
  exact ⟨rfl, rfl⟩

lemma suits_of_assemble (h : assemble settings (some scorer) = .ok monitor) {name : String}
    {model : ModelSettings} (hactive : settings.activeModel? = .ok (some (name, model))) :
    Suits scorer settings name model := by
  obtain ⟨-, ⟨hactive', -⟩ | ⟨name', model', scorer', hactive', hscorer, hsuits, -⟩⟩ := assembled h
  · cases hactive.symm.trans hactive'
  · cases hactive.symm.trans hactive'
    cases hscorer
    exact hsuits

lemma follows_of_assemble {good : σ → Prop} {oracle : String → List Float32 → Answer}
    (h : assemble settings (some scorer) = .ok monitor) (hscorer : scorer.Follows good oracle) :
    monitor.Follows good oracle := by
  intro m hm
  obtain ⟨-, ⟨-, rfl⟩ | ⟨_, _, _, -, hsame, -, rfl⟩⟩ := assembled h
  · cases hm
  · obtain rfl := Classifier.model.inj hm
    cases hsame
    exact hscorer

theorem follows_of_withBackend {backend : Backend σ} {oracle : String → List Float32 → Answer}
    {monitor : Monitor (Pool σ)} (h : withBackend settings backend = .ok monitor)
    (hbackend : backend.Answers oracle) : monitor.Follows Pool.Whole oracle :=
  follows_of_assemble h (Pool.follows hbackend settings.scoring.limits)

/-- Settings that pass their checks are accepted with a scorer that fits their model. -/
theorem assemble_of_checks {name : String} {model : ModelSettings} {shape : ModelShape}
    (hcheck : settings.check = .ok ()) (hactive : settings.activeModel? = .ok (some (name, model)))
    (hshape : scorer.shape name = some shape)
    (hlength : (settings.window.shape model).inputLength? = some shape.inputLength)
    (hrules : model.rules.checkAgainst name shape 0 = .ok ()) :
    assemble settings (some scorer) =
      .ok ⟨settings, .model ⟨name, settings.window.shape model, model.rules, scorer⟩⟩ := by
  simp only [assemble, hcheck, hactive, mapError_ok, ok_bind, hshape, hlength, hrules,
    Check.require, BEq.rfl, if_true]
  rfl

end Monitor

/-! ### Settings that are accepted -/

namespace Sample

/-- A model that sees directions and drops a flow on a high first channel. -/
def model : ModelSettings :=
  { features := [.direction], rules := [⟨0, .greater, 0.5, .drop⟩] }

/-- Settings with windows of two packets for the model. -/
def settings : Settings :=
  { classifier := ⟨.model, some "m"⟩, window := { size := 2 }, models := [("m", model)] }

def oracle (_ : String) (features : List Float32) : Answer :=
  if features = [1, 1] then .ok [0.75] else .error .busy

def backend : Backend Unit where
  evaluate x name features := (.answered (oracle name features), x)
  shape _ := some ⟨2, 1⟩

def monitor : Monitor (Pool Unit) :=
  ⟨settings, .model ⟨"m", settings.window.shape model, model.rules,
    Pool.scorer settings.scoring.limits backend⟩⟩

lemma accepted : Monitor.withBackend settings backend = .ok monitor :=
  Monitor.assemble_of_checks rfl rfl rfl rfl rfl

lemma answers : backend.Answers oracle := fun _ _ _ => rfl

/-- The settings, but with a new window after every question without an answer. -/
def rescoring : Settings := { settings with scoring := { rescoreOnFailure := true } }

def rescorer : Monitor (Pool Unit) :=
  ⟨rescoring, .model ⟨"m", rescoring.window.shape model, model.rules,
    Pool.scorer rescoring.scoring.limits backend⟩⟩

lemma rescorer_accepted : Monitor.withBackend rescoring backend = .ok rescorer :=
  Monitor.assemble_of_checks rfl rfl rfl rfl rfl

def packet (port : UInt16) : Packet :=
  ⟨⟨.ofBytes 10 0 0 1, port⟩, ⟨.ofBytes 10 0 0 2, 443⟩, .tcp, .empty, []⟩

def reply (port : UInt16) : Packet :=
  ⟨⟨.ofBytes 10 0 0 2, 443⟩, ⟨.ofBytes 10 0 0 1, port⟩, .tcp, .empty, []⟩

end Sample

end FlowVerdict
