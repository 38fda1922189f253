import FlowVerdict.Proofs.Monitor.Geometry
import FlowVerdict.Settings.Reader

/-!
Which settings are accepted. A monitor comes about exactly from sound settings, and otherwise the
error is that of the first requirement that does not hold: first what the settings require in
themselves, the models in the order of their names, then what the model in use requires of the
scorer. The length of a model's input is held against a product of machine words. Where that is no
word, there is neither a monitor nor an error, and the attempt ends before the lengths are compared.
-/

namespace FlowVerdict

variable {σ : Type}

namespace Settings

/-- The models stand in the order of their names. -/
def Ordered (s : Settings) : Prop := s.models.Pairwise fun a b => a.1 ≤ b.1

def modelsByName (s : Settings) : List (String × ModelSettings) :=
  s.models.mergeSort fun a b => decide (a.1 ≤ b.1)

/-- The model in use, by its name. -/
def inUse? (s : Settings) : Option (String × ModelSettings) :=
  match s.classifier.kind with
  | .fingerprint => none
  | .model => s.classifier.model.bind fun name => (s.models.lookup name).map fun m => (name, m)

end Settings

/-- What a model in use requires of a scorer. -/
def ModelSettings.fitRequirements (name : String) (m : ModelSettings) (size : Nat)
    (scorer? : Option (Scorer σ)) : List (Requirement AssemblyFault) :=
  ⟨scorer?.isSome = true, .refused (.invalid (.noScorer name))⟩ ::
    ⟨(scorer?.bind (·.shape name)).isSome = true, .refused (.unknownModel name)⟩ ::
    ⟨size * m.features.length < UInt64.size, .overflow⟩ ::
    (scorer?.bind (·.shape name)).toList.flatMap fun shape =>
      ⟨shape.inputLength = size * m.features.length,
        .refused (.inputLengthMismatch name shape.inputLength (size * m.features.length))⟩ ::
      m.rules.mapIdx fun i rule => ⟨rule.channel < shape.channels,
        .refused (.channelOutOfRange name i rule.channel shape.channels)⟩

namespace Settings

/-- Everything that settings require, in the order in which it is checked. -/
def requirements (s : Settings) (scorer? : Option (Scorer σ)) :
    List (Requirement AssemblyFault) :=
  (s.window.requirements ++ s.fingerprint.requirements ++ s.flows.requirements ++
      s.scoring.requirements ++ (s.modelsByName.flatMap fun (name, m) => m.requirements name) ++
      s.choiceRequirements).map (·.mapError .refused) ++
    s.inUse?.toList.flatMap fun (name, m) => m.fitRequirements name s.window.size scorer?

/-- Settings that can be worked with, given a scorer or not. The bound on the product is the only
condition that no check asks for; an input whose length is a machine word meets it by itself. -/
structure Sound (s : Settings) (scorer? : Option (Scorer σ)) : Prop where
  window_size : 1 ≤ s.window.size
  padding : s.window.padding.isFinite = true
  band : s.fingerprint.bandLow.isFinite = true ∧ s.fingerprint.bandHigh.isFinite = true ∧
    s.fingerprint.bandLow < s.fingerprint.bandHigh
  on_detect : s.fingerprint.onDetect ≠ .pass
  flow_times : 0 < s.flows.idleTimeout ∧ 0 < s.flows.sweepInterval
  shards : ∀ n, s.flows.shards = some n → 2 ≤ n ∧ n.isPowerOfTwo
  scoring : 0 < s.scoring.timeout ∧ 0 < s.scoring.workers ∧ 0 < s.scoring.queueDepth
  models : ∀ entry ∈ s.models,
    entry.2.features ≠ [] ∧ ∀ rule ∈ entry.2.rules, rule.threshold.isFinite = true
  in_use : s.classifier.kind = .model → ∃ name model scorer shape,
    s.classifier.model = some name ∧ s.models.lookup name = some model ∧
    scorer? = some scorer ∧ scorer.shape name = some shape ∧
    s.window.size * model.features.length < UInt64.size ∧
    shape.inputLength = s.window.size * model.features.length ∧
    ∀ rule ∈ model.rules, rule.channel < shape.channels

variable {s : Settings} {scorer? : Option (Scorer σ)}

lemma pairwise_of_models? {dialect : Datum.Dialect} {d : Datum}
    {models : List (String × ModelSettings)} (h : models? dialect d = some models) :
    models.Pairwise fun a b => a.1 ≤ b.1 := by
  cases d with
  | table members =>
    obtain ⟨unsorted, -, hsorted⟩ := Option.bind_eq_some_iff.mp h
    cases hsorted
    have htrans : ∀ a b c : String × ModelSettings,
        (!(b.1 < a.1)) = true → (!(c.1 < b.1)) = true → (!(c.1 < a.1)) = true := by
      intro a b c hab hbc
      simp only [Bool.not_eq_true', decide_eq_false_iff_not, String.not_lt] at hab hbc ⊢
      exact String.le_trans hab hbc
    have htotal : ∀ a b : String × ModelSettings, (!(b.1 < a.1) || !(a.1 < b.1)) = true := by
      intro a b
      simp only [Bool.or_eq_true, Bool.not_eq_true', decide_eq_false_iff_not, String.not_lt]
      exact String.le_total a.1 b.1
    refine (List.pairwise_mergeSort htrans htotal unsorted).imp fun hle => ?_
    simpa only [Bool.not_eq_true', decide_eq_false_iff_not, String.not_lt] using hle
  | _ => cases h

lemma ordered_of_ofDatum? {dialect : Datum.Dialect} {d : Datum} {s : Settings}
    (h : ofDatum? dialect d = some s) : s.Ordered := by
  obtain ⟨fields, -, h⟩ := Option.bind_eq_some_iff.mp h
  split at h
  · next window fingerprint flows scoring classifier models ports =>
    simp only [Option.bind_eq_bind, Option.bind_eq_some_iff] at h
    obtain ⟨_, -, _, -, _, -, _, -, _, -, read, hread, _, -, h⟩ := h
    cases h
    cases models with
    | none =>
      cases hread
      exact List.Pairwise.nil
    | some d => exact pairwise_of_models? hread
  · cases h

lemma Ordered.modelsByName (h : s.Ordered) : s.modelsByName = s.models :=
  List.mergeSort_of_pairwise (h.imp fun hle => decide_eq_true hle)

lemma inUse?_of_activeModel? {active : Option (String × ModelSettings)}
    (h : s.activeModel? = .ok active) : s.inUse? = active := by
  unfold activeModel? at h
  unfold inUse?
  cases hkind : s.classifier.kind with
  | fingerprint =>
    rw [hkind] at h
    exact Except.ok.inj h
  | model =>
    rw [hkind] at h
    cases hname : s.classifier.model with
    | none => rw [hname] at h; cases h
    | some name =>
      rw [hname] at h
      dsimp only at h ⊢
      rw [Option.bind_some]
      cases hmodel : s.models.lookup name with
      | none => rw [hmodel] at h; cases h
      | some m =>
        rw [hmodel] at h
        exact Except.ok.inj h

lemma mem_of_inUse? {name : String} {m : ModelSettings} (h : s.inUse? = some (name, m)) :
    (name, m) ∈ s.models := by
  unfold inUse? at h
  cases hkind : s.classifier.kind with
  | fingerprint => rw [hkind] at h; cases h
  | model =>
    rw [hkind] at h
    obtain ⟨key, -, hkey⟩ := Option.bind_eq_some_iff.mp h
    obtain ⟨found, hfound, hpair⟩ := Option.map_eq_some_iff.mp hkey
    cases hpair
    obtain ⟨before, after, hmodels, -⟩ := List.lookup_eq_some_iff.mp hfound
    rw [hmodels]
    exact List.mem_append_right before List.mem_cons_self

end Settings

lemma Rules.enforces_checkAgainst (name : String) (shape : ModelShape) (rules : Rules)
    (hfinite : ∀ rule ∈ rules, rule.threshold.isFinite = true) (i : Nat) :
    Enforces (rules.checkAgainst name shape i)
      (rules.mapIdx fun j rule => ⟨rule.channel < shape.channels,
        .channelOutOfRange name (i + j) rule.channel shape.channels⟩) := by
  induction rules generalizing i with
  | nil => exact .pure ()
  | cons rule rest ih =>
    obtain ⟨hrule, hrest⟩ := List.forall_mem_cons.mp hfinite
    have hnext := ih hrest (i + 1)
    simp only [Nat.add_right_comm _ 1] at hnext
    rw [List.mapIdx_cons]
    refine (Enforces.require decide_eq_true_iff _).bind fun _ _ _ => ?_
    rw [hrule]
    exact hnext

namespace Monitor

variable {settings : Settings} {scorer? : Option (Scorer σ)}

theorem enforces_assemble (settings : Settings) (scorer? : Option (Scorer σ)) :
    Enforces (assemble settings scorer?) (settings.ownRequirements.map (·.mapError .refused) ++
      settings.inUse?.toList.flatMap fun (name, m) =>
        m.fitRequirements name settings.window.size scorer?) := by
  refine (settings.enforces.mapError AssemblyFault.refused).bind fun _ _ hchecked => ?_
  have hcheck : settings.check = .ok () := ok_of_mapError hchecked
  obtain ⟨active, hactive⟩ := Settings.exists_activeModel? hcheck
  have hinUse := Settings.inUse?_of_activeModel? hactive
  rw [hactive, mapError_ok, ok_bind, hinUse]
  -- Each case stops at the first requirement that the code looks at and that does not hold.
  cases active with
  | none => exact .pure _
  | some choice =>
    obtain ⟨name, m⟩ := choice
    have hfinite := (Settings.models_of_check hcheck _ (Settings.mem_of_inUse? hinUse)).2
    rw [Option.toList_some, List.flatMap_singleton]
    cases scorer? with
    | none =>
      exact .error (r := ⟨Option.isSome (none : Option (Scorer σ)) = true, _⟩)
        Bool.false_ne_true _
    | some scorer =>
      refine .cons rfl ?_
      dsimp only [Option.bind_some]
      cases hshape : scorer.shape name with
      | none =>
        exact .error (r := ⟨Option.isSome (none : Option ModelShape) = true, _⟩)
          Bool.false_ne_true _
      | some shape =>
        refine .cons rfl ?_
        rw [Option.toList_some, List.flatMap_singleton]
        dsimp only
        cases hlength : (settings.window.shape m).inputLength? with
        | none =>
          -- The product is asked for before the lengths are compared and the rules are read.
          have hlarge := WindowShape.inputLength?_eq_none_iff.mp hlength
          exact .error
            (r := ⟨settings.window.size * m.features.length < UInt64.size, AssemblyFault.overflow⟩)
            (Nat.not_lt_of_le hlarge) _
        | some length =>
          obtain ⟨rfl, hword⟩ := WindowShape.inputLength?_eq_some_iff.mp hlength
          refine .cons hword ?_
          have hrules := (m.rules.enforces_checkAgainst name shape hfinite 0).mapError
            AssemblyFault.refused
          simp only [Nat.zero_add, List.mapIdx_eq_zipIdx_map, List.map_map] at hrules
          have hreturn := hrules.bind fun _ _ _ => Enforces.pure
            (⟨settings, .model ⟨name, settings.window.shape m, m.rules, scorer⟩⟩ : Monitor σ)
          rw [List.append_nil] at hreturn
          rw [List.mapIdx_eq_zipIdx_map]
          exact ((Enforces.require beq_iff_eq _).mapError AssemblyFault.refused).bind
            fun _ _ _ => hreturn

end Monitor

/-! ### What the requirements come to -/

lemma ModelSettings.forall_fitRequirements (name : String) (m : ModelSettings) (size : Nat)
    (scorer? : Option (Scorer σ)) :
    (∀ r ∈ m.fitRequirements name size scorer?, r.holds) ↔ ∃ scorer shape,
      scorer? = some scorer ∧ scorer.shape name = some shape ∧
        size * m.features.length < UInt64.size ∧ shape.inputLength = size * m.features.length ∧
        ∀ rule ∈ m.rules, rule.channel < shape.channels := by
  rw [fitRequirements, List.forall_mem_cons, List.forall_mem_cons, List.forall_mem_cons]
  cases scorer? with
  | none => simp
  | some scorer =>
    dsimp only [Option.bind_some]
    cases hshape : scorer.shape name with
    | none => simp [hshape]
    | some shape =>
      rw [Option.toList_some, List.flatMap_singleton, List.forall_mem_cons,
        forall_mem_mapIdx (q := fun rule => rule.channel < shape.channels) fun _ _ => Iff.rfl]
      simp [hshape]

namespace Settings

variable {s : Settings} {scorer? : Option (Scorer σ)}

lemma forall_choice_and_fit (s : Settings) (scorer? : Option (Scorer σ)) :
    ((∀ r ∈ s.choiceRequirements, r.holds) ∧
      ∀ choice ∈ s.inUse?, ∀ r ∈ choice.2.fitRequirements choice.1 s.window.size scorer?, r.holds) ↔
    (s.classifier.kind = .model → ∃ name model scorer shape,
      s.classifier.model = some name ∧ s.models.lookup name = some model ∧
      scorer? = some scorer ∧ scorer.shape name = some shape ∧
      s.window.size * model.features.length < UInt64.size ∧
      shape.inputLength = s.window.size * model.features.length ∧
      ∀ rule ∈ model.rules, rule.channel < shape.channels) := by
  unfold choiceRequirements inUse?
  cases s.classifier.kind with
  | fingerprint => simp
  | model =>
    cases s.classifier.model with
    | none => simp
    | some name =>
      cases hmodel : s.models.lookup name with
      | none => simp [hmodel]
      | some m => simp [hmodel, m.forall_fitRequirements]

lemma requirements_eq (h : s.Ordered) : s.requirements scorer? =
    s.ownRequirements.map (·.mapError .refused) ++ s.inUse?.toList.flatMap fun (name, m) =>
      m.fitRequirements name s.window.size scorer? := by
  simp only [requirements, ownRequirements, h.modelsByName, List.append_assoc]

lemma forall_requirements (h : s.Ordered) :
    (∀ r ∈ s.requirements scorer?, r.holds) ↔ s.Sound scorer? := by
  have hmap : (∀ r ∈ s.ownRequirements.map (·.mapError AssemblyFault.refused), r.holds) ↔
      ∀ r ∈ s.ownRequirements, r.holds := List.forall_mem_map
  rw [requirements_eq h, List.forall_mem_append, hmap, forall_ownRequirements,
    s.window.forall_requirements, s.fingerprint.forall_requirements, s.flows.forall_requirements,
    s.scoring.forall_requirements]
  simp only [List.forall_mem_flatMap, ModelSettings.forall_requirements, Option.mem_toList]
  have huse := s.forall_choice_and_fit scorer?
  constructor
  · rintro ⟨⟨⟨hsize, hpadding⟩, ⟨hband, hdetect⟩, ⟨htimes, hshards⟩, hscoring, hmodels, hchoice⟩,
      hfit⟩
    exact ⟨hsize, hpadding, hband, hdetect, htimes, hshards, hscoring, hmodels,
      huse.mp ⟨hchoice, hfit⟩⟩
  · intro hsound
    obtain ⟨hchoice, hfit⟩ := huse.mpr hsound.in_use
    exact ⟨⟨⟨hsound.window_size, hsound.padding⟩, ⟨hsound.band, hsound.on_detect⟩,
      ⟨hsound.flow_times, hsound.shards⟩, hsound.scoring, hsound.models, hchoice⟩, hfit⟩

end Settings

/-- Settings whose classifier asks a model that is not there, and where another model has no
features, which is the first thing to be wrong. -/
def Sample.astray : Settings :=
  { classifier := ⟨.model, some "o"⟩
    models := [("m", model), ("n", { model with features := [] })] }

namespace Monitor

variable {settings : Settings} {scorer? : Option (Scorer σ)}

/-- **A monitor comes about exactly from sound settings**, and otherwise it is the first requirement
that does not hold which tells why there is none. -/
theorem accepted_iff_sound (h : settings.Ordered) :
    ((∃ monitor, assemble settings scorer? = .ok monitor) ↔ settings.Sound scorer?) ∧
      ∀ fault, assemble settings scorer? = .error fault ↔
        FirstBroken (settings.requirements scorer?) fault := by
  have henforces := enforces_assemble settings scorer?
  rw [← Settings.requirements_eq h] at henforces
  exact ⟨henforces.ok_iff.trans (Settings.forall_requirements h), henforces.error_iff⟩

open Sample in
theorem accepted_iff_sound_two_models :
    Sample.settings.Sound (some (Pool.scorer Sample.settings.scoring.limits backend)) ∧
      astray.Ordered ∧ ¬astray.Sound (none : Option (Scorer Unit)) ∧
      FirstBroken (astray.requirements (none : Option (Scorer Unit)))
        (.refused (.invalid (.noFeatures "n"))) := by
  have hsettings : Sample.settings.Ordered := by
    unfold Settings.Ordered
    decide
  have hastray : astray.Ordered := by
    unfold Settings.Ordered
    decide
  have hcheck : astray.check = .error (.invalid (.noFeatures "n")) := rfl
  have hrefused : assemble astray (none : Option (Scorer Unit)) =
      .error (.refused (.invalid (.noFeatures "n"))) := by
    rw [assemble, hcheck]
    rfl
  obtain ⟨hsound, herror⟩ := accepted_iff_sound hastray
  refine ⟨(accepted_iff_sound hsettings).1.mp ⟨_, accepted⟩, hastray, fun h => ?_,
    (herror _).mp hrefused⟩
  obtain ⟨monitor, hmonitor⟩ := hsound.mpr h
  cases hmonitor.symm.trans hrefused

open Sample in
/-- A model without any input does not fit windows of `2 ^ 64` values, and this is the only thing
that is wrong, but it is not reported. -/
theorem blind_model_not_refused :
    wide.check = .ok () ∧ wide.activeModel? = .ok (some ("m", fourfold)) ∧
      blind.shape "m" = some ⟨0, 1⟩ ∧ 0 ≠ wide.window.size * fourfold.features.length ∧
      withBackend wide blind.backend = .error .overflow ∧
      ∀ error, withBackend wide blind.backend ≠ .error (.refused error) := by
  have hshape : (Pool.scorer wide.scoring.limits blind.backend).shape "m" = some ⟨0, 1⟩ := rfl
  have hoverflow : withBackend wide blind.backend = .error .overflow :=
    (assemble_eq_overflow_iff rfl rfl hshape).mpr rfl
  exact ⟨rfl, rfl, rfl, by decide, hoverflow, fun error h => nomatch hoverflow.symm.trans h⟩

end Monitor

end FlowVerdict
