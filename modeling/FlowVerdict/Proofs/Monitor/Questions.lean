import FlowVerdict.Proofs.Monitor.Assembly
import FlowVerdict.Proofs.Monitor.Filling
import FlowVerdict.Proofs.Monitor.Stay

/-!
What a model is asked. The packets of a stay fall into batches, one after the other from the first
packet on: the last packet of a batch is the one at which the model is asked, and it is asked about
the packets of the batch, neither more nor less. The packets after the last batch wait in the window
or belong to a settled flow.
-/

namespace FlowVerdict

/-- A question about packets of a flow: it names the model and holds their values in the order of
the layout, with padding up to a full window. -/
structure Asks (name : String) (shape : WindowShape) (opener : Endpoint) (packets : List Packet)
    (e : Exchange) : Prop where
  model_eq : e.model = name
  features_eq : e.features = shape.spread opener packets
  length_eq : e.features.length = shape.size * shape.features.length

/-- Hearings the last of which asks about the packets of all of them. They are a full window, or the
last packet closes the connection and windows that are not full are scored too. -/
inductive Batch (settings : Settings) (name : String) (shape : WindowShape) (opener : Endpoint) :
    List Hearing → Prop
  | mk {quiet : List Hearing} {h : Hearing} {e : Exchange}
    (quiet_exchanges : ∀ g ∈ quiet, g.exchanges = []) (exchanges : h.exchanges = [e])
    (asks : Asks name shape opener ((quiet ++ [h]).map (·.packet)) e)
    (length_le : quiet.length + 1 ≤ shape.size)
    (trigger : quiet.length + 1 = shape.size ∨
      settings.window.scorePartialOnClose = true ∧ h.packet.isTeardown = true) :
    Batch settings name shape opener (quiet ++ [h])

/-- Hearings in batches and a rest, whose packets wait in the window unless the flow is settled. -/
structure Batched (settings : Settings) (name : String) (shape : WindowShape) (s : FlowState)
    (batches : List (List Hearing)) (rest : List Hearing) : Prop where
  batch : ∀ b ∈ batches, Batch settings name shape s.opener b
  quiet : ∀ h ∈ rest, h.exchanges = []
  holds : s.latched = none → shape.Holds s (rest.map (·.packet))

namespace Batched

variable {settings : Settings} {name : String} {shape : WindowShape} {s : FlowState}
  {batches : List (List Hearing)} {rest : List Hearing}

lemma of_latched {v : Verdict} (hlatch : s.latched = some v)
    (hbatch : ∀ b ∈ batches, Batch settings name shape s.opener b)
    (hquiet : ∀ h ∈ rest, h.exchanges = []) : Batched settings name shape s batches rest :=
  ⟨hbatch, hquiet, by simp [hlatch]⟩

lemma record (hb : Batched settings name shape s batches rest) (p : Packet) (now : Nat) :
    Batched settings name shape (s.record p now) batches rest :=
  ⟨hb.batch, hb.quiet, fun hlatch => ⟨(hb.holds hlatch).rows, (hb.holds hlatch).short⟩⟩

lemma batch_of_asks (hb : Batched settings name shape s batches rest) (hlatch : s.latched = none)
    {h : Hearing} (hask : settings.asks shape s h.packet = true) {answer : Answer}
    (hexch : h.exchanges = [⟨name, shape.flatten (shape.collect s h.packet).window, answer⟩]) :
    Batch settings name shape s.opener (rest ++ [h]) := by
  have hholds := hb.holds hlatch
  have hlength : (rest.map (·.packet)).length = rest.length := List.length_map _
  have hshort := hholds.short
  have hasks : Asks name shape s.opener ((rest ++ [h]).map (·.packet))
      ⟨name, shape.flatten (shape.collect s h.packet).window, answer⟩ :=
    ⟨rfl, by rw [List.map_append]; exact hholds.flatten_collect h.packet, shape.length_flatten _⟩
  refine .mk hb.quiet hexch hasks (by omega) ?_
  rcases Settings.fills_or_of_asks hask with hfills | hclose
  · have hfull := (hholds.fills_iff h.packet).mp hfills
    exact .inl (by omega)
  · exact .inr hclose

end Batched

namespace Monitor

variable {σ : Type} {monitor : Monitor σ} {m : ModelClassifier σ} {flow : FlowId}
  {s s' : FlowState} {h : Hearing} {batches : List (List Hearing)} {rest : List Hearing}

/-- A hearing joins the rest, or closes it as a batch. -/
theorem Heard.batched (hc : monitor.classifier = .model m) (hsize : m.window.size ≠ 0)
    (hheard : Heard monitor s h s')
    (hb : Batched monitor.settings m.name m.window s batches rest) :
    Batched monitor.settings m.name m.window s' batches (rest ++ [h]) ∨
      Batched monitor.settings m.name m.window s' (batches ++ [rest ++ [h]]) [] := by
  have hquiet : h.exchanges = [] → ∀ g ∈ rest ++ [h], g.exchanges = [] := fun hexch =>
    List.forall_mem_append.mpr ⟨hb.quiet, List.forall_mem_singleton.mpr hexch⟩
  have hclosed : Batch monitor.settings m.name m.window s.opener (rest ++ [h]) →
      ∀ b ∈ batches ++ [rest ++ [h]], Batch monitor.settings m.name m.window s.opener b :=
    fun hbatch => List.forall_mem_append.mpr ⟨hb.batch, List.forall_mem_singleton.mpr hbatch⟩
  cases hheard with
  | settled hlatch =>
    -- After the flow is settled packets join the rest, and nothing is asked about it any more.
    exact .inl (.of_latched hlatch hb.batch (hquiet rfl))
  | payload hc' => simp [hc] at hc'
  | @waiting p m' hc' hlatch hask =>
    obtain rfl := Classifier.model.inj (hc.symm.trans hc')
    refine .inl ⟨hb.batch, hquiet rfl, fun _ => ?_⟩
    rw [List.map_append]
    exact (hb.holds hlatch).collect (Settings.fills_of_not_asks hask)
  | @answered p m' probabilities hc' hlatch hask =>
    obtain rfl := Classifier.model.inj (hc.symm.trans hc')
    exact .inr (.of_latched rfl (hclosed (hb.batch_of_asks hlatch hask rfl)) (by simp))
  | @failed p m' cause hc' hlatch hask =>
    obtain rfl := Classifier.model.inj (hc.symm.trans hc')
    have hbatch := hclosed (hb.batch_of_asks hlatch hask rfl)
    refine .inr ?_
    cases monitor.settings.scoring.rescoreOnFailure with
    | true => exact ⟨hbatch, by simp, fun _ => WindowShape.holds_nil rfl hsize⟩
    | false => exact .of_latched rfl hbatch (by simp)

theorem Path.batched (hc : monitor.classifier = .model m) (hsize : m.window.size ≠ 0)
    {hs : List Hearing} (path : Path monitor flow hs s) :
    ∃ batches rest, hs = batches.flatten ++ rest ∧
      Batched monitor.settings m.name m.window s batches rest := by
  induction path with
  | opened opener now =>
    exact ⟨[], [], rfl, by simp, by simp, fun _ => WindowShape.holds_nil rfl hsize⟩
  | @next hs s h s' path _ _ _ _ now hheard ih =>
    obtain ⟨batches, rest, rfl, hb⟩ := ih
    rcases hheard.batched hc hsize (hb.record h.packet now) with hb' | hb'
    · exact ⟨batches, rest ++ [h], List.append_assoc _ _ _, hb'⟩
    · exact ⟨batches ++ [rest ++ [h]], [], by simp, hb'⟩

end Monitor

end FlowVerdict
