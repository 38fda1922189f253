import FlowVerdict.Proofs.Monitor.Assembly
import FlowVerdict.Proofs.Monitor.Filling
import FlowVerdict.Proofs.Monitor.Stay

/-!
The verdicts of a model in closed form.

As long as no connection closes, the packets of a flow are cut into full windows one after the
other, and an oracle has an answer to each of them. The flow is settled by the first answer that
settles anything; before it every packet passes, and from its packet on every packet gets its
verdict.
-/

namespace FlowVerdict

/-- The packets of a window, the windows counted from zero. -/
def WindowShape.block (shape : WindowShape) (packets : List Packet) (j : Nat) : List Packet :=
  (packets.drop (j * shape.size)).take shape.size

lemma WindowShape.block_append {shape : WindowShape} {packets : List Packet} {j : Nat}
    (h : j * shape.size + shape.size ≤ packets.length) (more : List Packet) :
    shape.block (packets ++ more) j = shape.block packets j := by
  unfold block
  rw [List.drop_append_of_le_length (by omega), List.take_append_of_le_length]
  rw [List.length_drop]
  omega

lemma WindowShape.block_of_length_eq {shape : WindowShape} {packets : List Packet} {j : Nat}
    (h : packets.length = j * shape.size + shape.size) :
    shape.block packets j = packets.drop (j * shape.size) := by
  unfold block
  refine List.take_of_length_le ?_
  rw [List.length_drop]
  omega

def ModelClassifier.reply {σ : Type} (m : ModelClassifier σ)
    (oracle : String → List Float32 → Answer) (opener : Endpoint) (packets : List Packet)
    (j : Nat) : Answer :=
  oracle m.name (m.window.spread opener (m.window.block packets j))

/-- What an answer settles a flow to, if it settles it. -/
def Settings.settles? (settings : Settings) (rules : Rules) : Answer → Option Verdict
  | .ok probabilities => some (rules.verdict probabilities)
  | .error _ => if settings.scoring.rescoreOnFailure then none else some .pass

/-- The verdict on an answer. Without an answer a flow passes. -/
def Rules.verdictOn (rules : Rules) : Answer → Verdict
  | .ok probabilities => rules.verdict probabilities
  | .error _ => .pass

/-- The verdicts on hearings and the questions asked in them, in terms of what would be answered
about each full window. -/
structure ClosedForm (settings : Settings) (rules : Rules) (reply : Nat → Answer)
    (hs : List Hearing) : Prop where
  /-- If failures settle flows, the first window settles the flow one way or the other. -/
  single : settings.scoring.rescoreOnFailure = false →
    (∀ i h, hs[i]? = some h →
      h.verdict = if i + 1 < settings.window.size then .pass else rules.verdictOn (reply 0)) ∧
    (hs.flatMap (·.exchanges)).length = if settings.window.size ≤ hs.length then 1 else 0
  /-- Otherwise the first window with an answer settles the flow once it is full. -/
  first : settings.scoring.rescoreOnFailure = true → ∀ s probabilities,
    (∀ j < s, (j + 1) * settings.window.size ≤ hs.length → ∃ cause, reply j = .error cause) →
    ((s + 1) * settings.window.size ≤ hs.length → reply s = .ok probabilities) →
    (∀ i h, hs[i]? = some h → h.verdict =
      if i + 1 < (s + 1) * settings.window.size then .pass else rules.verdict probabilities) ∧
    (hs.flatMap (·.exchanges)).length = min (s + 1) (hs.length / settings.window.size)
  /-- Without any answer all packets pass. -/
  none : settings.scoring.rescoreOnFailure = true →
    (∀ j, (j + 1) * settings.window.size ≤ hs.length → ∃ cause, reply j = .error cause) →
    (∀ h ∈ hs, h.verdict = .pass) ∧
    (hs.flatMap (·.exchanges)).length = hs.length / settings.window.size

lemma settles?_of_ok (settings : Settings) (rules : Rules) (probabilities : List Float32) :
    settings.settles? rules (.ok probabilities) = some (rules.verdict probabilities) :=
  rfl

lemma settles?_of_error {settings : Settings} (h : settings.scoring.rescoreOnFailure = true)
    (rules : Rules) (cause : ScoringError) : settings.settles? rules (.error cause) = none := by
  simp [Settings.settles?, h]

lemma settles?_of_single {settings : Settings} (h : settings.scoring.rescoreOnFailure = false)
    (rules : Rules) (answer : Answer) :
    settings.settles? rules answer = some (rules.verdictOn answer) := by
  cases answer with
  | ok probabilities => rfl
  | error cause => simp [Settings.settles?, h, Rules.verdictOn]

namespace Monitor

variable {σ : Type} {monitor : Monitor σ} {m : ModelClassifier σ}
  {oracle : String → List Float32 → Answer} {flow : FlowId} {hs : List Hearing} {s s' : FlowState}
  {h : Hearing}

/-- What the answer about a window of hearings would settle their flow to, if it settles it. -/
def outcome? (monitor : Monitor σ) (m : ModelClassifier σ)
    (oracle : String → List Float32 → Answer) (opener : Endpoint) (hs : List Hearing) (j : Nat) :
    Option Verdict :=
  monitor.settings.settles? m.rules (m.reply oracle opener (hs.map (·.packet)) j)

/-- A flow that is not settled: `q` windows were scored in vain, and the next one is filling up. -/
structure Undecided (monitor : Monitor σ) (m : ModelClassifier σ)
    (oracle : String → List Float32 → Answer) (q : Nat) (hs : List Hearing) (s : FlowState) :
    Prop where
  latched : s.latched = none
  le : q * m.window.size ≤ hs.length
  verdicts : hs.map (·.verdict) = List.replicate hs.length .pass
  calls : (hs.flatMap (·.exchanges)).length = q
  vain : ∀ j < q, monitor.outcome? m oracle s.opener hs j = none
  holds : m.window.Holds s ((hs.map (·.packet)).drop (q * m.window.size))

/-- A flow that window `c` has settled. -/
structure Decided (monitor : Monitor σ) (m : ModelClassifier σ)
    (oracle : String → List Float32 → Answer) (c : Nat) (v : Verdict) (hs : List Hearing)
    (s : FlowState) : Prop where
  latched : s.latched = some v
  le : c * m.window.size + m.window.size ≤ hs.length
  verdicts : hs.map (·.verdict) =
    List.replicate (c * m.window.size + m.window.size - 1) .pass ++
      List.replicate (hs.length + 1 - (c * m.window.size + m.window.size)) v
  calls : (hs.flatMap (·.exchanges)).length = c + 1
  vain : ∀ j < c, monitor.outcome? m oracle s.opener hs j = none
  settles : monitor.outcome? m oracle s.opener hs c = some v

lemma outcome?_snoc {opener : Endpoint} {j : Nat}
    (hj : j * m.window.size + m.window.size ≤ hs.length) (h : Hearing) :
    monitor.outcome? m oracle opener (hs ++ [h]) j = monitor.outcome? m oracle opener hs j := by
  unfold outcome? ModelClassifier.reply
  rw [List.map_append, WindowShape.block_append]
  rwa [List.length_map]

lemma block_le_of_lt {j q K n : Nat} (hj : j < q) (hq : q * K ≤ n) : j * K + K ≤ n := by
  have hmul : (j + 1) * K ≤ q * K := Nat.mul_le_mul_right K hj
  rw [Nat.succ_mul] at hmul
  omega

lemma vain_snoc {q : Nat} {opener : Endpoint} (hq : q * m.window.size ≤ hs.length)
    (hvain : ∀ j < q, monitor.outcome? m oracle opener hs j = none) (h : Hearing) :
    ∀ j < q, monitor.outcome? m oracle opener (hs ++ [h]) j = none := by
  intro j hj
  rw [outcome?_snoc (block_le_of_lt hj hq)]
  exact hvain j hj

lemma Decided.heard {c : Nat} {v : Verdict} (hd : Decided monitor m oracle c v hs s)
    (hheard : Heard monitor s h s') : Decided monitor m oracle c v (hs ++ [h]) s' := by
  obtain ⟨hverdict, hexch, rfl⟩ := hheard.of_latched hd.latched
  have hle := hd.le
  refine ⟨hd.latched, ?_, ?_, ?_, vain_snoc (by omega) hd.vain h, ?_⟩
  · rw [List.length_append]
    omega
  · have hcount : hs.length + 1 + 1 - (c * m.window.size + m.window.size) =
        hs.length + 1 - (c * m.window.size + m.window.size) + 1 := by omega
    rw [List.map_append, hd.verdicts, List.length_append, List.length_singleton, hcount,
      List.replicate_succ', List.append_assoc, List.map_singleton, hverdict]
  · simp [hd.calls, hexch]
  · rw [outcome?_snoc hle]
    exact hd.settles

namespace Undecided

variable {q : Nat}

lemma record (hu : Undecided monitor m oracle q hs s) (p : Packet) (now : Nat) :
    Undecided monitor m oracle q hs (s.record p now) :=
  ⟨hu.latched, hu.le, hu.verdicts, hu.calls, hu.vain, hu.holds.rows, hu.holds.short⟩

lemma lt (hu : Undecided monitor m oracle q hs s) :
    hs.length < q * m.window.size + m.window.size := by
  have hle := hu.le
  have hshort := hu.holds.short
  rw [List.length_drop, List.length_map] at hshort
  omega

lemma drop_snoc (hu : Undecided monitor m oracle q hs s) (h : Hearing) :
    ((hs ++ [h]).map (·.packet)).drop (q * m.window.size) =
      (hs.map (·.packet)).drop (q * m.window.size) ++ [h.packet] := by
  have hle : q * m.window.size ≤ (hs.map (·.packet)).length := by
    rw [List.length_map]
    exact hu.le
  rw [List.map_append, List.drop_append_of_le_length hle]
  rfl

/-- Unless the connection closes, the model is asked exactly when the window is full. -/
lemma asks_iff (hu : Undecided monitor m oracle q hs s) {p : Packet} (hp : p.isTeardown = false) :
    monitor.settings.asks m.window s p = true ↔
      hs.length + 1 = q * m.window.size + m.window.size := by
  have hle := hu.le
  rw [Settings.asks_of_open hp, hu.holds.fills_iff, List.length_drop, List.length_map]
  omega

lemma outcome?_eq (hu : Undecided monitor m oracle q hs s) (h : Hearing)
    (hfull : hs.length + 1 = q * m.window.size + m.window.size) :
    monitor.outcome? m oracle s.opener (hs ++ [h]) q = monitor.settings.settles? m.rules
      (oracle m.name (m.window.flatten (m.window.collect s h.packet).window)) := by
  have hlength : ((hs ++ [h]).map (·.packet)).length = q * m.window.size + m.window.size := by
    simpa using hfull
  unfold outcome? ModelClassifier.reply
  rw [WindowShape.block_of_length_eq hlength, hu.drop_snoc, hu.holds.flatten_collect]

/-- A full window that settles the flow. -/
lemma decided (hu : Undecided monitor m oracle q hs s) {v : Verdict}
    (hfull : hs.length + 1 = q * m.window.size + m.window.size) (hv : h.verdict = v)
    (hcalls : h.exchanges.length = 1) (hopener : s'.opener = s.opener)
    (hlatch : s'.latched = some v)
    (houtcome : monitor.outcome? m oracle s.opener (hs ++ [h]) q = some v) :
    Decided monitor m oracle q v (hs ++ [h]) s' := by
  refine ⟨hlatch, ?_, ?_, ?_, ?_, ?_⟩
  · rw [List.length_append, List.length_singleton]
    omega
  · have hcount : hs.length + 1 + 1 - (hs.length + 1) = 1 := by omega
    rw [List.map_append, hu.verdicts, List.length_append, List.length_singleton, ← hfull, hcount]
    simp [hv]
  · simp [hu.calls, hcalls]
  · rw [hopener]
    exact vain_snoc hu.le hu.vain h
  · rw [hopener]
    exact houtcome

/-- A full window that leaves the flow unsettled. -/
lemma renewed (hu : Undecided monitor m oracle q hs s) (hsize : m.window.size ≠ 0)
    (hfull : hs.length + 1 = q * m.window.size + m.window.size) (hv : h.verdict = .pass)
    (hcalls : h.exchanges.length = 1) (hopener : s'.opener = s.opener)
    (hlatch : s'.latched = none) (hwindow : s'.window = .empty)
    (houtcome : monitor.outcome? m oracle s.opener (hs ++ [h]) q = none) :
    Undecided monitor m oracle (q + 1) (hs ++ [h]) s' := by
  have hlength : (hs ++ [h]).length = (q + 1) * m.window.size := by
    rw [List.length_append, List.length_singleton, Nat.succ_mul, hfull]
  refine ⟨hlatch, by omega, ?_, ?_, fun j hj => ?_, ?_⟩
  · rw [List.map_append, hu.verdicts, List.length_append, List.length_singleton,
      List.replicate_succ']
    simp [hv]
  · simp [hu.calls, hcalls]
  · rw [hopener]
    rcases Nat.lt_succ_iff_lt_or_eq.mp hj with hj | rfl
    · exact vain_snoc hu.le hu.vain h j hj
    · exact houtcome
  · rw [List.drop_of_length_le (by rw [List.length_map]; omega)]
    exact WindowShape.holds_nil hwindow hsize

theorem heard (hu : Undecided monitor m oracle q hs s) (hc : monitor.classifier = .model m)
    (hsize : m.window.size ≠ 0) (hheard : Heard monitor s h s')
    (hopen : h.packet.isTeardown = false)
    (htrue : ∀ e ∈ h.exchanges, e.answer = oracle e.model e.features) :
    (∃ q, Undecided monitor m oracle q (hs ++ [h]) s') ∨
      ∃ v, Decided monitor m oracle q v (hs ++ [h]) s' := by
  have hle := hu.le
  cases hheard with
  | settled hlatch => simp [hu.latched] at hlatch
  | payload hc' => simp [hc] at hc'
  | @waiting p m' hc' hlatch hask =>
    obtain rfl := Classifier.model.inj (hc.symm.trans hc')
    -- The window goes on filling.
    refine .inl ⟨q, hlatch, ?_, ?_, ?_, vain_snoc hle hu.vain ⟨p, .pass, []⟩, ?_⟩
    · rw [List.length_append]
      omega
    · rw [List.map_append, hu.verdicts, List.length_append, List.length_singleton,
        List.replicate_succ']
      rfl
    · simp [hu.calls]
    · rw [hu.drop_snoc]
      exact hu.holds.collect (Settings.fills_of_not_asks hask)
  | @answered p m' probabilities hc' hlatch hask =>
    obtain rfl := Classifier.model.inj (hc.symm.trans hc')
    have hfull := (hu.asks_iff hopen).mp hask
    refine .inr ⟨m.rules.verdict probabilities, hu.decided hfull rfl rfl rfl rfl ?_⟩
    rw [hu.outcome?_eq _ hfull, ← htrue _ (List.mem_singleton_self _)]
    rfl
  | @failed p m' cause hc' hlatch hask =>
    obtain rfl := Classifier.model.inj (hc.symm.trans hc')
    have hfull := (hu.asks_iff hopen).mp hask
    have houtcome := hu.outcome?_eq ⟨p, .pass, [⟨m.name,
      m.window.flatten (m.window.collect s p).window, .error cause⟩]⟩ hfull
    rw [← htrue _ (List.mem_singleton_self _)] at houtcome
    -- A failure starts window `q + 1` or settles the flow to pass.
    cases hrescore : monitor.settings.scoring.rescoreOnFailure with
    | true =>
      refine .inl ⟨q + 1, hu.renewed hsize hfull rfl rfl rfl hlatch rfl ?_⟩
      rw [houtcome]
      simp [Settings.settles?, hrescore]
    | false =>
      refine .inr ⟨.pass, hu.decided hfull rfl rfl rfl rfl ?_⟩
      rw [houtcome]
      simp [Settings.settles?, hrescore]

end Undecided

lemma Decided.record {c : Nat} {v : Verdict} (hd : Decided monitor m oracle c v hs s) (p : Packet)
    (now : Nat) : Decided monitor m oracle c v hs (s.record p now) :=
  ⟨hd.latched, hd.le, hd.verdicts, hd.calls, hd.vain, hd.settles⟩

/-- **Settled or not**: on every path whose packets close no connection and whose answers are the
oracle's, windows are scored in vain until one settles the flow. -/
theorem Path.undecided_or_decided (hc : monitor.classifier = .model m) (hsize : m.window.size ≠ 0)
    (path : Path monitor flow hs s) (hopen : ∀ h ∈ hs, h.packet.isTeardown = false)
    (htrue : ∀ h ∈ hs, ∀ e ∈ h.exchanges, e.answer = oracle e.model e.features) :
    (∃ q, Undecided monitor m oracle q hs s) ∨ ∃ c v, Decided monitor m oracle c v hs s := by
  induction path with
  | opened opener now =>
    refine .inl ⟨0, rfl, ?_, rfl, rfl, by simp, ?_⟩
    · simp
    · rw [List.map_nil, List.drop_nil]
      exact WindowShape.holds_nil rfl hsize
  | @next hs s h s' path _ _ _ _ now hheard ih =>
    have hlast : h ∈ hs ++ [h] := by simp
    have hearlier : ∀ g ∈ hs, g ∈ hs ++ [h] := fun g hg => List.mem_append_left _ hg
    rcases ih (fun g hg => hopen g (hearlier g hg)) (fun g hg => htrue g (hearlier g hg)) with
      ⟨q, hu⟩ | ⟨c, v, hd⟩
    · rcases (hu.record h.packet now).heard hc hsize hheard (hopen h hlast) (htrue h hlast) with
        hu' | ⟨v, hd'⟩
      · exact .inl hu'
      · exact .inr ⟨q, v, hd'⟩
    · exact .inr ⟨c, v, (hd.record h.packet now).heard hheard⟩

lemma verdict_of_getElem? {a b : Nat} {v : Verdict}
    (hverdicts : hs.map (·.verdict) = List.replicate a .pass ++ List.replicate b v) {i : Nat}
    (hi : hs[i]? = some h) : h.verdict = if i < a then .pass else v := by
  have hplace : (hs.map (·.verdict))[i]? = some h.verdict := by simp [hi]
  rw [hverdicts, List.getElem?_append, List.length_replicate] at hplace
  split at hplace
  · next hlt =>
    rw [if_pos hlt]
    simpa [List.getElem?_replicate, hlt] using hplace.symm
  · next hge =>
    rw [if_neg hge]
    rw [List.getElem?_replicate] at hplace
    split at hplace
    · exact (Option.some.inj hplace).symm
    · cases hplace

lemma Undecided.eq_zero {q : Nat} (hu : Undecided monitor m oracle q hs s)
    (hrescore : monitor.settings.scoring.rescoreOnFailure = false) : q = 0 := by
  by_contra hne
  have hvain := hu.vain 0 (Nat.pos_of_ne_zero hne)
  simp [outcome?, settles?_of_single hrescore] at hvain

lemma Undecided.le_of_answer {q k : Nat} (hu : Undecided monitor m oracle q hs s)
    {probabilities : List Float32} (hanswer : (k + 1) * m.window.size ≤ hs.length →
      m.reply oracle s.opener (hs.map (·.packet)) k = .ok probabilities) : q ≤ k := by
  by_contra hlt
  have hfull := block_le_of_lt (Nat.lt_of_not_le hlt) hu.le
  have hvain := hu.vain k (Nat.lt_of_not_le hlt)
  rw [← Nat.succ_mul] at hfull
  simp [outcome?, hanswer hfull, settles?_of_ok] at hvain

lemma Undecided.closedForm {q : Nat} (hu : Undecided monitor m oracle q hs s)
    (hsize : m.window.size = monitor.settings.window.size) :
    ClosedForm monitor.settings m.rules (m.reply oracle s.opener (hs.map (·.packet))) hs := by
  have hlt := hu.lt
  have hpass : ∀ h ∈ hs, h.verdict = .pass := fun h hmem =>
    List.eq_of_mem_replicate (hu.verdicts ▸ List.mem_map_of_mem hmem)
  have hdiv : hs.length / m.window.size = q :=
    Nat.div_eq_of_lt_le hu.le (by rw [Nat.succ_mul]; exact hlt)
  refine ⟨fun hrescore => ?_, fun hrescore k probabilities _ hanswer => ?_, fun _ _ => ?_⟩
  · obtain rfl := hu.eq_zero hrescore
    rw [Nat.zero_mul, Nat.zero_add] at hlt
    rw [← hsize]
    refine ⟨fun i h hi => ?_, ?_⟩
    · have hil : i < hs.length := (List.getElem?_eq_some_iff.mp hi).1
      rw [if_pos (by omega)]
      exact hpass h (List.mem_of_getElem? hi)
    · rw [hu.calls, if_neg (by omega)]
  · rw [← hsize] at hanswer ⊢
    have hqk := hu.le_of_answer hanswer
    have hmul : q * m.window.size ≤ k * m.window.size := Nat.mul_le_mul_right _ hqk
    refine ⟨fun i h hi => ?_, ?_⟩
    · have hil : i < hs.length := (List.getElem?_eq_some_iff.mp hi).1
      rw [Nat.succ_mul, if_pos (by omega)]
      exact hpass h (List.mem_of_getElem? hi)
    · rw [hu.calls, hdiv, Nat.min_eq_right (by omega)]
  · exact ⟨hpass, by rw [hu.calls, ← hsize, hdiv]⟩

section Decided

variable {c : Nat} {v : Verdict}

lemma Decided.eq_of_single (hd : Decided monitor m oracle c v hs s)
    (hrescore : monitor.settings.scoring.rescoreOnFailure = false) :
    c = 0 ∧ v = m.rules.verdictOn (m.reply oracle s.opener (hs.map (·.packet)) 0) := by
  have hc : c = 0 := by
    by_contra hne
    have hvain := hd.vain 0 (Nat.pos_of_ne_zero hne)
    simp [outcome?, settles?_of_single hrescore] at hvain
  subst hc
  have hsettles := hd.settles
  rw [outcome?, settles?_of_single hrescore] at hsettles
  exact ⟨rfl, (Option.some.inj hsettles).symm⟩

lemma Decided.ne_error (hd : Decided monitor m oracle c v hs s)
    (hrescore : monitor.settings.scoring.rescoreOnFailure = true) :
    ¬∃ cause, m.reply oracle s.opener (hs.map (·.packet)) c = .error cause := by
  rintro ⟨cause, hcause⟩
  have hsettles := hd.settles
  simp [outcome?, hcause, settles?_of_error hrescore] at hsettles

lemma Decided.eq_of_first {k : Nat} (hd : Decided monitor m oracle c v hs s)
    (hrescore : monitor.settings.scoring.rescoreOnFailure = true) {probabilities : List Float32}
    (hfailed : ∀ j < k, (j + 1) * m.window.size ≤ hs.length →
      ∃ cause, m.reply oracle s.opener (hs.map (·.packet)) j = .error cause)
    (hanswer : (k + 1) * m.window.size ≤ hs.length →
      m.reply oracle s.opener (hs.map (·.packet)) k = .ok probabilities) :
    c = k ∧ v = m.rules.verdict probabilities := by
  have hle := hd.le
  have hck : c = k := by
    rcases Nat.lt_trichotomy c k with hlt | heq | hgt
    · exact absurd (hfailed c hlt (by rw [Nat.succ_mul]; exact hle)) (hd.ne_error hrescore)
    · exact heq
    · have hfull := block_le_of_lt hgt (Nat.le_of_add_right_le hle)
      have hvain := hd.vain k hgt
      rw [← Nat.succ_mul] at hfull
      simp [outcome?, hanswer hfull, settles?_of_ok] at hvain
  subst hck
  have hsettles := hd.settles
  rw [outcome?, hanswer (by rw [Nat.succ_mul]; exact hle), settles?_of_ok] at hsettles
  exact ⟨rfl, (Option.some.inj hsettles).symm⟩

lemma Decided.closedForm (hd : Decided monitor m oracle c v hs s)
    (hsize : m.window.size = monitor.settings.window.size) (hpos : 0 < m.window.size) :
    ClosedForm monitor.settings m.rules (m.reply oracle s.opener (hs.map (·.packet))) hs := by
  have hle := hd.le
  have hfull : (c + 1) * m.window.size ≤ hs.length := by
    rw [Nat.succ_mul]
    exact hle
  refine ⟨fun hrescore => ?_, fun hrescore k probabilities hfailed hanswer => ?_,
    fun hrescore hfailed => absurd (hfailed c (hsize ▸ hfull)) (hd.ne_error hrescore)⟩
  · obtain ⟨rfl, rfl⟩ := hd.eq_of_single hrescore
    rw [Nat.zero_mul, Nat.zero_add] at hle
    rw [← hsize]
    refine ⟨fun i h hi => ?_, ?_⟩
    · rw [verdict_of_getElem? hd.verdicts hi]
      exact if_congr (by omega) rfl rfl
    · rw [hd.calls, if_pos hle]
  · rw [← hsize] at hfailed hanswer ⊢
    obtain ⟨rfl, rfl⟩ := hd.eq_of_first hrescore hfailed hanswer
    refine ⟨fun i h hi => ?_, ?_⟩
    · rw [verdict_of_getElem? hd.verdicts hi, Nat.succ_mul]
      exact if_congr (by omega) rfl rfl
    · rw [hd.calls, Nat.min_eq_left ((Nat.le_div_iff_mul_le hpos).mpr hfull)]

end Decided

/-- **The closed form** of a stay whose packets pass the ports and close no connection, over a
source whose answers depend on the question alone. A reset ends the stay at its packet. -/
theorem verdicts_closed_form {settings : Settings} {backend : Backend σ}
    {monitor : Monitor (Pool σ)} (haccepted : withBackend settings backend = .ok monitor)
    {name : String} {model : ModelSettings}
    (hactive : settings.activeModel? = .ok (some (name, model)))
    (hanswers : backend.Answers oracle) (source : σ) (flow : FlowId) (events : List Event)
    (hports : ∀ p ∈ (monitor.stay (.start source) flow events).packets,
      monitor.portVerdict? p = none)
    (hopen : ∀ p ∈ (monitor.stay (.start source) flow events).packets, p.isTeardown = false) :
    let stay := monitor.stay (.start source) flow events
    let shape := settings.window.shape model
    (∃ opener, (∀ h, stay.hearings.head? = some h → h.packet.source = opener) ∧
      ClosedForm settings model.rules
        (fun j => oracle name (shape.spread opener (shape.block stay.packets j))) stay.hearings) ∧
    ∀ before h rest, stay.hearings = before ++ h :: rest → h.verdict = .reset →
      rest = [] ∧ (monitor.after (.start source) events).flows.lookup flow = none := by
  obtain ⟨hset, hc⟩ := classifier_of_assemble haccepted hactive
  have hsize := (eq_of_assemble haccepted hactive).2
  have hfollows := follows_of_withBackend haccepted hanswers
  have htrue : ∀ h ∈ (monitor.stay (.start source) flow events).hearings, ∀ e ∈ h.exchanges,
      e.answer = oracle e.model e.features := fun h hmem e he =>
    log_follows hfollows (Pool.whole_start source) events e
      (mem_log_of_mem_stay (List.mem_append_left _ (List.mem_flatMap.mpr ⟨h, hmem, he⟩)))
  intro stay shape
  obtain ⟨s, path⟩ := (monitor.told (.start source) flow events).path fun g hg _ =>
    hports g.packet (by simp [Stay.packets, hg])
  refine ⟨⟨s.opener, path.source_of_head, ?_⟩, fun before h rest hsplit hreset => ?_⟩
  · have hsize' : (settings.window.shape model).size = monitor.settings.window.size := by
      rw [hset]
      rfl
    have hopen' : ∀ h ∈ stay.hearings, h.packet.isTeardown = false := fun h hmem =>
      hopen h.packet (List.mem_map_of_mem hmem)
    rw [← hset]
    rcases path.undecided_or_decided hc hsize hopen' htrue with ⟨q, hu⟩ | ⟨c, v, hd⟩
    · exact hu.closedForm hsize'
    · exact hd.closedForm hsize' (Nat.pos_of_ne_zero hsize)
  · exact ⟨(hsplit ▸ path).eq_nil_of_reset hreset,
      lookup_of_reset (by rw [hsplit]; simp) hreset⟩

open Sample in
/-- The second of three packets fills the window, and the answer drops it and the third one. -/
theorem verdicts_closed_form_three_packets :
    let events := [.packet (packet 5) 3, .packet (packet 6) 4, .packet (packet 5) 9,
      .packet (packet 5) 12]
    let stay := Sample.monitor.stay (.start ()) (packet 5).flow events
    let shape := Sample.settings.window.shape Sample.model
    stay.hearings.map (·.verdict) = [.pass, .drop, .drop] ∧
    ∃ opener, (∀ h, stay.hearings.head? = some h → h.packet.source = opener) ∧
      ClosedForm Sample.settings Sample.model.rules
        (fun j => Sample.oracle "m" (shape.spread opener (shape.block stay.packets j)))
        stay.hearings := by
  intro events stay shape
  have hpackets : stay.packets = List.replicate 3 (packet 5) := rfl
  have hpacket : ∀ p ∈ stay.packets, p = packet 5 := fun p hp =>
    List.eq_of_mem_replicate (hpackets ▸ hp)
  exact ⟨rfl, (verdicts_closed_form accepted rfl answers () (packet 5).flow events
    (fun p hp => by rw [hpacket p hp]; rfl) (fun p hp => by rw [hpacket p hp]; rfl)).1⟩

end Monitor

end FlowVerdict
