import FlowVerdict.Proofs.Monitor.Conservation
import FlowVerdict.Proofs.Monitor.Tracking
import FlowVerdict.Proofs.Scoring.Library

/-!
What the checks before the first packet are good for. A library refuses models that do not fit
themselves, and a monitor refuses a model that does not fit its windows and rules; the windows keep
their shape by themselves. So over a library every question of every run is answered, with a value
for each channel that a rule reads.
-/

namespace FlowVerdict

/-- A question to a linear model that the model can answer: it is in the library, the window asked
about can be read, its values are as many as the model takes, and what the model answers has all its
channels and so those that the rules read. -/
structure Exchange.Served (library : ModelLibrary) (linear : LinearModel) (shape : WindowShape)
    (rules : Rules) (e : Exchange) : Prop where
  found : library.find? e.model = some linear
  window : ∃ w, shape.InPlace w ∧ e.features = shape.flatten w
  length_eq : e.features.length = linear.inputLength
  answer_eq : e.answer = .ok (linear.predict e.features)
  channels_eq : (linear.predict e.features).length = linear.shape.channels
  reads : ∀ rule ∈ rules, ∃ p, (linear.predict e.features)[rule.channel]? = some p

/-- A question about a window of whole rows. -/
structure Exchange.AboutWindow (name : String) (shape : WindowShape) (e : Exchange) : Prop where
  model_eq : e.model = name
  window : ∃ w, shape.Fits w ∧ e.features = shape.flatten w

/-- A library serves questions about windows that fit the input of a model without a fault. -/
lemma Exchange.AboutWindow.served {name : String} {shape : WindowShape} {rules : Rules}
    {e : Exchange} {library : ModelLibrary} {linear : LinearModel} (h : e.AboutWindow name shape)
    (hfind : library.find? name = some linear) (hfault : linear.fault? = none)
    (hlength : linear.inputLength = shape.size * shape.width)
    (hrules : ∀ rule ∈ rules, rule.channel < linear.shape.channels)
    (hanswer : e.answer = library.evaluate e.model e.features) :
    e.Served library linear shape rules := by
  obtain ⟨hmodel, w, hfits, hfeatures⟩ := h
  have hmatch : e.features.length = linear.inputLength := by
    rw [hfeatures, shape.length_flatten, hlength]
  have hchannels : (linear.predict e.features).length = linear.shape.channels :=
    LinearModel.length_predict hfault _
  refine ⟨by rw [hmodel, hfind], ⟨w, hfits.inPlace, hfeatures⟩, hmatch, ?_, hchannels,
    fun rule hrule => ?_⟩
  · rw [hanswer, hmodel]
    exact ModelLibrary.evaluate_of_find hfind hmatch
  · have hlt : rule.channel < (linear.predict e.features).length := by
      rw [hchannels]
      exact hrules rule hrule
    exact ⟨_, List.getElem?_eq_getElem hlt⟩

namespace Monitor

variable {σ : Type} {monitor : Monitor σ} {m : ModelClassifier σ} {flow : FlowId} {s s' : FlowState}
  {h : Hearing} {hs : List Hearing}

/-! ### Every question is about a window of whole rows -/

lemma Heard.aboutWindow (hc : monitor.classifier = .model m) (hheard : Heard monitor s h s')
    (hfits : m.window.Fits s.window) : ∀ e ∈ h.exchanges, e.AboutWindow m.name m.window := by
  cases hheard with
  | settled => simp
  | payload => simp
  | waiting => simp
  | @answered p m' _ hc' =>
    obtain rfl := Classifier.model.inj (hc.symm.trans hc')
    exact List.forall_mem_singleton.mpr ⟨rfl, _, hfits.pushPacket p _, rfl⟩
  | @failed p m' _ hc' =>
    obtain rfl := Classifier.model.inj (hc.symm.trans hc')
    exact List.forall_mem_singleton.mpr ⟨rfl, _, hfits.pushPacket p _, rfl⟩

lemma Parting.aboutWindow {es : List Exchange} (hc : monitor.classifier = .model m)
    (hparting : Parting monitor s es) (hfits : m.window.Fits s.window) :
    ∀ e ∈ es, e.AboutWindow m.name m.window := by
  cases hparting with
  | silent => simp
  | @asked m' _ hc' =>
    obtain rfl := Classifier.model.inj (hc.symm.trans hc')
    exact List.forall_mem_singleton.mpr ⟨rfl, _, hfits, rfl⟩

lemma Path.aboutWindow (hc : monitor.classifier = .model m) (path : Path monitor flow hs s) :
    ∀ e ∈ hs.flatMap (·.exchanges), e.AboutWindow m.name m.window := by
  induction path with
  | opened => simp
  | @next hs s h s' path _ _ _ _ now hheard ih =>
    have hfits : m.window.Fits s.window := path.fits hc
    rw [List.flatMap_append, List.flatMap_singleton]
    exact List.forall_mem_append.mpr ⟨ih, hheard.aboutWindow hc hfits⟩

lemma stay_aboutWindow (hc : monitor.classifier = .model m) (x : σ) (flow : FlowId)
    (events : List Event) :
    ∀ e ∈ (monitor.stay x flow events).exchanges, e.AboutWindow m.name m.window := by
  obtain ⟨hs, s, es, path, hparting, hexch⟩ := monitor.exists_path_of_stay x flow events
  rw [hexch]
  exact List.forall_mem_append.mpr
    ⟨path.aboutWindow hc, hparting.aboutWindow hc (path.fits hc)⟩

/-- **Every question is about a window** of whole rows, in every run. -/
theorem log_aboutWindow (hc : monitor.classifier = .model m) (x : σ) (events : List Event) :
    ∀ e ∈ monitor.log x events, e.AboutWindow m.name m.window := by
  intro e he
  obtain ⟨before, -, flow, -, he⟩ := mem_stay_of_mem_log he
  exact stay_aboutWindow hc x flow before e he

/-- The windows that can be asked about in a state can be read: that of a flow in the table, and
that of a packet's flow with the packet in it. -/
structure State.Readable (state : State σ) (shape : WindowShape) : Prop where
  waiting : ∀ flow s, state.flows.lookup flow = some s → shape.InPlace s.window
  filled : ∀ p now, shape.InPlace (shape.collect (state.arrival p now) p).window

theorem after_readable (hc : monitor.classifier = .model m) (x : σ) (events : List Event) :
    (monitor.after x events).Readable m.window := by
  have hfits : ∀ flow s, (monitor.after x events).flows.lookup flow = some s →
      m.window.Fits s.window := fun flow s hlook => (path_of_lookup hlook).1.fits hc
  refine ⟨fun flow s hlook => (hfits flow s hlook).inPlace, fun p now => ?_⟩
  have harrival : m.window.Fits ((monitor.after x events).arrival p now).window := by
    unfold State.arrival
    cases hlook : (monitor.after x events).flows.lookup p.flow with
    | none => exact .empty m.window
    | some s => exact hfits p.flow s hlook
  exact (harrival.pushPacket p _).inPlace

/-! ### Every question is answered -/

/-- **What startup checks is enough**: over a library of linear models, a monitor that was accepted
is answered every question of every run, and it can read every window that it asks about. -/
theorem startup_checks_suffice {library : ModelLibrary} {settings : Settings}
    {monitor : Monitor (Pool Unit)} (hstocked : library.Stocked)
    (haccepted : withBackend settings library.backend = .ok monitor) {name : String}
    {model : ModelSettings} (hactive : settings.activeModel? = .ok (some (name, model)))
    (events : List Event) :
    ∃ linear, library.find? name = some linear ∧
      (∀ e ∈ monitor.log (.start ()) events,
        e.Served library linear (settings.window.shape model) model.rules) ∧
      (monitor.after (.start ()) events).tally.scorerFailures = 0 ∧
      (monitor.after (.start ()) events).Readable (settings.window.shape model) := by
  obtain ⟨-, hc⟩ := classifier_of_assemble haccepted hactive
  obtain ⟨shape, hshape, hlength, hrules⟩ := suits_of_assemble haccepted hactive
  obtain ⟨linear, hfind, rfl⟩ := Option.map_eq_some_iff.mp hshape
  have hfault : linear.fault? = none := hstocked.fault?_eq_none hfind
  have hinput : linear.inputLength = settings.window.size * model.features.length :=
    (WindowShape.inputLength?_eq_some_iff.mp hlength).1
  have hanswers := log_follows (follows_of_withBackend haccepted library.answers)
    (Pool.whole_start ()) events
  have hserved : ∀ e ∈ monitor.log (.start ()) events,
      e.Served library linear (settings.window.shape model) model.rules := fun e he =>
    (log_aboutWindow hc _ events e he).served hfind hfault hinput hrules (hanswers e he)
  have hanswered : ∀ e ∈ monitor.log (.start ()) events, ¬e.Failed := by
    rintro e he ⟨cause, hcause⟩
    cases hcause.symm.trans (hserved e he).answer_eq
  refine ⟨linear, hfind, hserved, ?_, after_readable hc _ events⟩
  rw [scorerFailures_eq, List.countP_eq_zero]
  simpa using hanswered

end Monitor

namespace Sample

def linear : LinearModel := ⟨2, [[1, 1]], [0], .sigmoid⟩

def library : ModelLibrary := ⟨[("m", linear)]⟩

def librarian : Monitor (Pool Unit) :=
  ⟨settings, .model ⟨"m", settings.window.shape model, model.rules,
    Pool.scorer settings.scoring.limits library.backend⟩⟩

lemma librarian_accepted : Monitor.withBackend settings library.backend = .ok librarian :=
  Monitor.assemble_of_checks rfl rfl rfl rfl rfl

lemma stocked : library.Stocked := by
  have hentered : ModelLibrary.empty.insert "m" linear = .ok library := rfl
  exact .insert .empty hentered

end Sample

namespace Monitor

open Sample in
/-- A question to a linear model about two packets, which it answers. -/
theorem startup_checks_suffice_two_packets :
    let events := [.packet (packet 5) 3, .packet (packet 5) 4]
    librarian.log (.start ()) events = [⟨"m", [1, 1], .ok (linear.predict [1, 1])⟩] ∧
    (∀ e ∈ librarian.log (.start ()) events,
      e.Served library linear (Sample.settings.window.shape model) model.rules) ∧
    (librarian.after (.start ()) events).tally.scorerFailures = 0 ∧
    (librarian.after (.start ()) events).Readable (Sample.settings.window.shape model) := by
  intro events
  obtain ⟨linear', hfind, hserved, hfailures, hreadable⟩ :=
    startup_checks_suffice stocked librarian_accepted rfl events
  obtain rfl : linear = linear' := Option.some.inj hfind
  refine ⟨?_, hserved, hfailures, hreadable⟩
  -- The exponential does not evaluate here, so the log is not computed but put together.
  have hlog := log_snoc librarian (.start ()) [.packet (packet 5) 3] (.packet (packet 5) 4)
  rw [exchanges_of_packet (after_live _ _) rfl] at hlog
  exact hlog

end Monitor

end FlowVerdict
