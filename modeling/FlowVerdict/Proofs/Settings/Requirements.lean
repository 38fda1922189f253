import FlowVerdict.Proofs.Computation
import FlowVerdict.Settings.Check
import Mathlib.Tactic.Lemma

/-!
The requirements on settings, one by one.

A check comes down to a list of requirements: it succeeds exactly if all of them hold, and otherwise
it reports the first one that does not. Checks made one after the other come down to the lists put
together, so the list of a whole section, of a table of models and of all settings is read off its
parts. A requirement may lean on those before it.
-/

namespace FlowVerdict

/-- A condition, and what is wrong where it does not hold. -/
structure Requirement (ε : Type) where
  holds : Prop
  error : ε

def Requirement.mapError {ε ε' : Type} (g : ε → ε') (r : Requirement ε) : Requirement ε' :=
  ⟨r.holds, g r.error⟩

/-- The error is that of the first requirement that does not hold. -/
inductive FirstBroken {ε : Type} : List (Requirement ε) → ε → Prop
  | here {r : Requirement ε} {rs : List (Requirement ε)} (broken : ¬r.holds) :
      FirstBroken (r :: rs) r.error
  | later {r : Requirement ε} {rs : List (Requirement ε)} {e : ε} (holds : r.holds)
      (first : FirstBroken rs e) : FirstBroken (r :: rs) e

/-- The computation succeeds exactly if all requirements hold, and otherwise reports the first that
does not. -/
structure Enforces {ε α : Type} (x : Except ε α) (rs : List (Requirement ε)) : Prop where
  ok_iff : (∃ a, x = .ok a) ↔ ∀ r ∈ rs, r.holds
  error_iff : ∀ e, x = .error e ↔ FirstBroken rs e

variable {ε ε' α β : Type} {x : Except ε α} {f : α → Except ε β}
  {rs more : List (Requirement ε)} {r : Requirement ε} {e : ε}

namespace FirstBroken

lemma not_forall (h : FirstBroken rs e) : ¬∀ r ∈ rs, r.holds := by
  induction h with
  | here broken => exact fun hall => broken (hall _ List.mem_cons_self)
  | later _ _ ih => exact fun hall => ih fun r hr => hall r (List.mem_cons_of_mem _ hr)

lemma append_left (h : FirstBroken rs e) (more : List (Requirement ε)) :
    FirstBroken (rs ++ more) e := by
  induction h with
  | here broken => exact .here broken
  | later holds _ ih => exact .later holds ih

lemma append_right (hrs : ∀ r ∈ rs, r.holds) (h : FirstBroken more e) :
    FirstBroken (rs ++ more) e := by
  induction rs with
  | nil => exact h
  | cons r rs ih =>
    obtain ⟨hr, hrs⟩ := List.forall_mem_cons.mp hrs
    exact .later hr (ih hrs)

lemma of_append (h : FirstBroken (rs ++ more) e) :
    FirstBroken rs e ∨ (∀ r ∈ rs, r.holds) ∧ FirstBroken more e := by
  induction rs with
  | nil => exact .inr ⟨by simp, h⟩
  | cons r rs ih =>
    cases h with
    | here broken => exact .inl (.here broken)
    | later holds first =>
      rcases ih first with hleft | ⟨hrs, hright⟩
      · exact .inl (.later holds hleft)
      · exact .inr ⟨List.forall_mem_cons.mpr ⟨holds, hrs⟩, hright⟩

lemma mapError_iff (g : ε → ε') {e : ε'} :
    FirstBroken (rs.map (·.mapError g)) e ↔ ∃ cause, FirstBroken rs cause ∧ g cause = e := by
  constructor
  · intro h
    induction rs with
    | nil => cases h
    | cons r rs ih =>
      cases h with
      | here broken => exact ⟨r.error, .here broken, rfl⟩
      | later holds first =>
        obtain ⟨cause, hcause, rfl⟩ := ih first
        exact ⟨cause, .later holds hcause, rfl⟩
  · rintro ⟨cause, h, rfl⟩
    induction h with
    | here broken => exact .here broken
    | later holds _ ih => exact .later holds ih

end FirstBroken

namespace Enforces

lemma pure (a : α) : Enforces (.ok a : Except ε α) [] :=
  ⟨⟨fun _ => List.forall_mem_nil _, fun _ => ⟨a, rfl⟩⟩, fun _ => ⟨nofun, nofun⟩⟩

lemma error (hbroken : ¬r.holds) (rs : List (Requirement ε)) :
    Enforces (.error r.error : Except ε α) (r :: rs) := by
  refine ⟨⟨fun ⟨a, ha⟩ => (nomatch ha), fun hall => ?_⟩, fun e => ⟨fun h => ?_, fun h => ?_⟩⟩
  · exact absurd (hall r List.mem_cons_self) hbroken
  · cases h
    exact .here hbroken
  · cases h with
    | here => rfl
    | later holds => exact absurd holds hbroken

lemma cons (hr : r.holds) (h : Enforces x rs) : Enforces x (r :: rs) := by
  refine ⟨?_, fun e => ⟨fun he => .later hr ((h.error_iff e).mp he), fun hfirst => ?_⟩⟩
  · rw [h.ok_iff, List.forall_mem_cons]
    exact (and_iff_right hr).symm
  · cases hfirst with
    | here broken => exact absurd hr broken
    | later _ first => exact (h.error_iff e).mpr first

/-- A second computation may rely on the requirements of the first, and on its result. -/
lemma bind (hx : Enforces x rs)
    (hf : (∀ r ∈ rs, r.holds) → ∀ a, x = .ok a → Enforces (f a) more) :
    Enforces (x >>= f) (rs ++ more) := by
  cases hresult : x with
  | error cause =>
    -- The second part is not reached, and its requirements come too late to be the first broken.
    have hbroken : FirstBroken rs cause := (hx.error_iff cause).mp hresult
    refine ⟨⟨fun ⟨b, hb⟩ => (nomatch hb), fun hall => ?_⟩, fun e => ⟨fun h => ?_, fun h => ?_⟩⟩
    · exact absurd (fun r hr => hall r (List.mem_append_left _ hr)) hbroken.not_forall
    · cases h
      exact hbroken.append_left more
    · rcases h.of_append with hleft | ⟨hall, -⟩
      · have hsame := hresult.symm.trans ((hx.error_iff e).mpr hleft)
        rw [Except.error.inj hsame]
        rfl
      · exact absurd hall hbroken.not_forall
  | ok a =>
    have hall : ∀ r ∈ rs, r.holds := hx.ok_iff.mp ⟨a, hresult⟩
    have hnext : Enforces (f a) more := hf hall a hresult
    refine ⟨hnext.ok_iff.trans ?_, fun e => (hnext.error_iff e).trans ?_⟩
    · rw [List.forall_mem_append]
      exact ⟨fun hmore => ⟨hall, hmore⟩, fun h => h.2⟩
    · refine ⟨.append_right hall, fun h => ?_⟩
      rcases h.of_append with hleft | ⟨-, hright⟩
      · exact absurd hall hleft.not_forall
      · exact hright

lemma require {condition : Bool} {holds : Prop} (h : condition = true ↔ holds)
    (e : SettingsError) : Enforces (Check.require condition e) [⟨holds, e⟩] := by
  cases condition with
  | true => exact (pure ()).cons (h.mp rfl)
  | false => exact error (r := ⟨holds, e⟩) (fun hholds => Bool.false_ne_true (h.mpr hholds)) []

lemma mapError (h : Enforces x rs) (g : ε → ε') :
    Enforces (x.mapError g) (rs.map (·.mapError g)) := by
  have hholds : (∀ r ∈ rs.map (·.mapError g), r.holds) ↔ ∀ r ∈ rs, r.holds := List.forall_mem_map
  refine ⟨?_, fun e => (FirstBroken.mapError_iff g).symm.subst ?_⟩
  · rw [hholds, ← h.ok_iff]
    cases x with
    | error cause =>
      rw [mapError_error]
      simp
    | ok a => exact ⟨fun _ => ⟨a, rfl⟩, fun _ => ⟨a, rfl⟩⟩
  · simp only [← h.error_iff]
    cases x with
    | error cause =>
      rw [mapError_error]
      simp
    | ok a =>
      rw [mapError_ok]
      simp

lemma forM {ι : Type} {l : List ι} {check : ι → Check}
    {requirements : ι → List (Requirement SettingsError)}
    (h : ∀ i ∈ l, Enforces (check i) (requirements i)) :
    Enforces (l.forM check) (l.flatMap requirements) := by
  induction l with
  | nil => exact pure ()
  | cons i l ih =>
    obtain ⟨hi, hl⟩ := List.forall_mem_cons.mp h
    exact hi.bind fun _ _ _ => ih hl

end Enforces

/-! ### What each section requires -/

lemma forall_mem_mapIdx {ι κ : Type} {l : List ι} {f : Nat → ι → κ} {p : κ → Prop} {q : ι → Prop}
    (h : ∀ i a, p (f i a) ↔ q a) : (∀ b ∈ l.mapIdx f, p b) ↔ ∀ a ∈ l, q a := by
  induction l generalizing f with
  | nil => simp
  | cons a l ih =>
    have hrest := ih (f := fun i => f (i + 1)) fun i b => h (i + 1) b
    rw [List.mapIdx_cons, List.forall_mem_cons, List.forall_mem_cons, h, hrest]

lemma isPowerOfTwo_iff {n : Nat} : isPowerOfTwo n = true ↔ n.isPowerOfTwo := by
  rw [isPowerOfTwo, Bool.and_eq_true, bne_iff_ne, beq_iff_eq]
  by_cases hzero : n = 0
  · subst hzero
    refine iff_of_false (fun h => h.1 rfl) fun ⟨k, hk⟩ => ?_
    have hpos := Nat.two_pow_pos k
    omega
  · rw [and_iff_right hzero]
    exact Nat.and_sub_one_eq_zero_iff_isPowerOfTwo hzero

def WindowSettings.requirements (s : WindowSettings) : List (Requirement SettingsError) :=
  [⟨1 ≤ s.size, .invalid .windowSize⟩, ⟨s.padding.isFinite = true, .invalid .windowPadding⟩]

def FingerprintSettings.requirements (s : FingerprintSettings) : List (Requirement SettingsError) :=
  [⟨s.bandLow.isFinite = true ∧ s.bandHigh.isFinite = true ∧ s.bandLow < s.bandHigh,
      .invalid (.popcountBand s.bandLow s.bandHigh)⟩,
    ⟨s.onDetect ≠ .pass, .invalid .passOnDetect⟩]

def FlowSettings.requirements (s : FlowSettings) : List (Requirement SettingsError) :=
  ⟨0 < s.idleTimeout ∧ 0 < s.sweepInterval, .invalid .flowTimes⟩ ::
    s.shards.toList.map fun n => ⟨2 ≤ n ∧ n.isPowerOfTwo, .invalid (.shards n)⟩

def ScoringSettings.requirements (s : ScoringSettings) : List (Requirement SettingsError) :=
  [⟨0 < s.timeout ∧ 0 < s.workers ∧ 0 < s.queueDepth, .invalid .scoringLimits⟩]

/-- What a model requires, be it the one in use or not. -/
def ModelSettings.requirements (name : String) (m : ModelSettings) :
    List (Requirement SettingsError) :=
  ⟨m.features ≠ [], .invalid (.noFeatures name)⟩ ::
    m.rules.mapIdx fun i rule => ⟨rule.threshold.isFinite = true, .nonFiniteThreshold name i⟩

def Settings.choiceRequirements (s : Settings) : List (Requirement SettingsError) :=
  match s.classifier.kind with
  | .fingerprint => []
  | .model => ⟨∃ name, s.classifier.model = some name, .missingModel⟩ ::
    s.classifier.model.toList.map fun name =>
      ⟨∃ m, s.models.lookup name = some m, .unknownModel name⟩

lemma WindowSettings.forall_requirements (s : WindowSettings) :
    (∀ r ∈ s.requirements, r.holds) ↔ 1 ≤ s.size ∧ s.padding.isFinite = true := by
  simp [requirements]

lemma FingerprintSettings.forall_requirements (s : FingerprintSettings) :
    (∀ r ∈ s.requirements, r.holds) ↔
      (s.bandLow.isFinite = true ∧ s.bandHigh.isFinite = true ∧ s.bandLow < s.bandHigh) ∧
        s.onDetect ≠ .pass := by
  simp [requirements]

lemma FlowSettings.forall_requirements (s : FlowSettings) :
    (∀ r ∈ s.requirements, r.holds) ↔ (0 < s.idleTimeout ∧ 0 < s.sweepInterval) ∧
      ∀ n, s.shards = some n → 2 ≤ n ∧ n.isPowerOfTwo := by
  simp [requirements]

lemma ScoringSettings.forall_requirements (s : ScoringSettings) :
    (∀ r ∈ s.requirements, r.holds) ↔ 0 < s.timeout ∧ 0 < s.workers ∧ 0 < s.queueDepth := by
  simp [requirements]

lemma ModelSettings.forall_requirements (name : String) (m : ModelSettings) :
    (∀ r ∈ m.requirements name, r.holds) ↔
      m.features ≠ [] ∧ ∀ rule ∈ m.rules, rule.threshold.isFinite = true := by
  rw [requirements, List.forall_mem_cons,
    forall_mem_mapIdx (q := fun rule => rule.threshold.isFinite = true) fun _ _ => Iff.rfl]

lemma WindowSettings.enforces (s : WindowSettings) : Enforces s.check s.requirements := by
  refine (Enforces.require ?_ _).bind fun _ _ _ => Enforces.require Iff.rfl _
  rw [bne_iff_ne, Nat.one_le_iff_ne_zero]

lemma FingerprintSettings.enforces (s : FingerprintSettings) : Enforces s.check s.requirements := by
  refine (Enforces.require ?_ _).bind fun _ _ _ => Enforces.require bne_iff_ne _
  rw [Bool.and_eq_true, Bool.and_eq_true, decide_eq_true_iff, and_assoc]

lemma FlowSettings.enforces (s : FlowSettings) : Enforces s.check s.requirements := by
  refine (Enforces.require ?_ _).bind fun _ _ _ => ?_
  · rw [Bool.and_eq_true, bne_iff_ne, bne_iff_ne, Nat.pos_iff_ne_zero, Nat.pos_iff_ne_zero]
  · cases s.shards with
    | none => exact .pure ()
    | some n =>
      refine Enforces.require ?_ _
      rw [Bool.and_eq_true, decide_eq_true_iff, isPowerOfTwo_iff]

lemma ScoringSettings.enforces (s : ScoringSettings) : Enforces s.check s.requirements := by
  refine Enforces.require ?_ _
  simp only [Bool.and_eq_true, bne_iff_ne, Nat.pos_iff_ne_zero, and_assoc]

lemma Rules.enforces_checkThresholds (name : String) (rules : Rules) (i : Nat) :
    Enforces (rules.checkThresholds name i)
      (rules.mapIdx fun j rule => ⟨rule.threshold.isFinite = true,
        .nonFiniteThreshold name (i + j)⟩) := by
  induction rules generalizing i with
  | nil => exact .pure ()
  | cons rule rest ih =>
    have hrest := ih (i + 1)
    simp only [Nat.add_right_comm _ 1] at hrest
    rw [List.mapIdx_cons]
    exact (Enforces.require Iff.rfl _).bind fun _ _ _ => hrest

lemma ModelSettings.enforces (name : String) (m : ModelSettings) :
    Enforces (m.check name) (m.requirements name) := by
  have hrules := m.rules.enforces_checkThresholds name 0
  simp only [Nat.zero_add] at hrules
  refine (Enforces.require ?_ _).bind fun _ _ _ => hrules
  simp

lemma Settings.enforces_activeModel? (s : Settings) :
    Enforces s.activeModel? s.choiceRequirements := by
  unfold activeModel? choiceRequirements
  cases s.classifier.kind with
  | fingerprint => exact .pure none
  | model =>
    cases s.classifier.model with
    | none =>
      refine Enforces.error (r := ⟨∃ name, none = some name, SettingsError.missingModel⟩) ?_ []
      simp
    | some name =>
      refine .cons ⟨name, rfl⟩ ?_
      dsimp only [Option.toList, List.map]
      cases s.models.lookup name with
      | none =>
        refine Enforces.error
          (r := ⟨∃ m : ModelSettings, none = some m, SettingsError.unknownModel name⟩) ?_ []
        simp
      | some m => exact (Enforces.pure (some (name, m))).cons ⟨m, rfl⟩

/-- What all settings require before a model is at hand. -/
def Settings.ownRequirements (s : Settings) : List (Requirement SettingsError) :=
  s.window.requirements ++ (s.fingerprint.requirements ++ (s.flows.requirements ++
    (s.scoring.requirements ++ (s.models.flatMap (fun (name, m) => m.requirements name) ++
      s.choiceRequirements))))

/-- **The check of settings enforces their requirements** in the order of the models. -/
theorem Settings.enforces (s : Settings) : Enforces s.check s.ownRequirements := by
  refine s.window.enforces.bind fun _ _ _ => s.fingerprint.enforces.bind fun _ _ _ =>
    s.flows.enforces.bind fun _ _ _ => s.scoring.enforces.bind fun _ _ _ =>
    (Enforces.forM fun (name, m) _ => m.enforces name).bind fun _ _ _ => ?_
  have h : Enforces (s.activeModel? >>= fun _ => (.ok () : Check)) (s.choiceRequirements ++ []) :=
    s.enforces_activeModel?.bind fun _ _ _ => .pure ()
  rwa [List.append_nil] at h

lemma Settings.forall_ownRequirements (s : Settings) :
    (∀ r ∈ s.ownRequirements, r.holds) ↔
      (∀ r ∈ s.window.requirements, r.holds) ∧ (∀ r ∈ s.fingerprint.requirements, r.holds) ∧
        (∀ r ∈ s.flows.requirements, r.holds) ∧ (∀ r ∈ s.scoring.requirements, r.holds) ∧
        (∀ entry ∈ s.models, ∀ r ∈ entry.2.requirements entry.1, r.holds) ∧
        ∀ r ∈ s.choiceRequirements, r.holds := by
  simp only [ownRequirements, List.forall_mem_append, List.forall_mem_flatMap]

lemma Settings.check_eq_ok_iff (s : Settings) :
    s.check = .ok () ↔ ∀ r ∈ s.ownRequirements, r.holds := by
  rw [← s.enforces.ok_iff]
  exact ⟨fun h => ⟨(), h⟩, fun ⟨(), h⟩ => h⟩

lemma Settings.exists_activeModel? {s : Settings} (h : s.check = .ok ()) :
    ∃ active, s.activeModel? = .ok active := by
  rw [check_eq_ok_iff, forall_ownRequirements] at h
  obtain ⟨-, -, -, -, -, hchoice⟩ := h
  exact s.enforces_activeModel?.ok_iff.mpr hchoice

lemma Settings.models_of_check {s : Settings} (h : s.check = .ok ()) :
    ∀ entry ∈ s.models,
      entry.2.features ≠ [] ∧ ∀ rule ∈ entry.2.rules, rule.threshold.isFinite = true := by
  rw [check_eq_ok_iff, forall_ownRequirements] at h
  obtain ⟨-, -, -, -, hmodels, -⟩ := h
  exact fun entry hentry => (entry.2.forall_requirements entry.1).mp (hmodels entry hentry)

end FlowVerdict
