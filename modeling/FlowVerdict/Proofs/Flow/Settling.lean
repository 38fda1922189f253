import FlowVerdict.Flow.State
import FlowVerdict.Proofs.Policy.Rules
import Mathlib.Data.List.Induction

/-!
How the verdict on a flow is settled. An answer of the model, a failure that is not made up for and
a verdict given outright each bring a verdict with them. The first of them settles the flow, and
from then on all of them come to that verdict. A failure after which the flow starts a new window
brings none: it only empties the window.
-/

namespace FlowVerdict.FlowState

inductive Call where
  | decide (probabilities : List Float32)
  | failOpen (rescore : Bool)
  | latch (v : Verdict)
deriving DecidableEq

variable {rules : Rules} {s : FlowState} {call : Call} {calls : List Call} {v : Verdict}

/-- The verdict that a call comes to, and the flow after it. -/
def answer (rules : Rules) (s : FlowState) : Call → Verdict × FlowState
  | .decide probabilities => s.decide rules probabilities
  | .failOpen rescore => s.failOpen rescore
  | .latch v => s.latch v

def afterCalls (rules : Rules) (s : FlowState) (calls : List Call) : FlowState :=
  calls.foldl (fun s call => (s.answer rules call).2) s

/-- A flow before its first packet, with any window. -/
def begun (flow : FlowId) (opener : Endpoint) (window : Window) (now : Nat) : FlowState :=
  { fresh flow opener now with window }

/-- The verdict that a call brings with it. -/
inductive Call.Brings (rules : Rules) : Call → Verdict → Prop
  | decide {probabilities : List Float32} {v : Verdict} (h : rules.Gives probabilities v) :
      Brings rules (.decide probabilities) v
  | giveUp : Brings rules (.failOpen false) .pass
  | latch (v : Verdict) : Brings rules (.latch v) v

/-! ### One call -/

lemma Call.eq_rescore_or (rules : Rules) (call : Call) :
    call = .failOpen true ∨ ∃ v, call.Brings rules v := by
  cases call with
  | decide probabilities => exact .inr ⟨_, .decide (rules.gives_verdict probabilities)⟩
  | failOpen rescore =>
    cases rescore with
    | true => exact .inl rfl
    | false => exact .inr ⟨_, .giveUp⟩
  | latch v => exact .inr ⟨v, .latch v⟩

lemma Call.Brings.ne_rescore (h : call.Brings rules v) : call ≠ .failOpen true := by
  rintro rfl
  cases h

lemma answer_of_rescore (rules : Rules) (s : FlowState) :
    s.answer rules (.failOpen true) = (.pass, { s with window := .empty }) := rfl

lemma answer_of_brings (h : call.Brings rules v) (s : FlowState) :
    s.answer rules call = (s.latched.getD v, { s with latched := some (s.latched.getD v) }) := by
  have hlatch : ∀ v, s.latch v =
      (s.latched.getD v, { s with latched := some (s.latched.getD v) }) := by
    intro v
    obtain ⟨_, _, _, _, _, _, _, _, latched, _⟩ := s
    cases latched <;> rfl
  cases h with
  | decide h => exact h.verdict_eq ▸ hlatch _
  | giveUp => exact hlatch .pass
  | latch v => exact hlatch v

/-! ### All calls -/

lemma afterCalls_append (rules : Rules) (s : FlowState) (calls more : List Call) :
    s.afterCalls rules (calls ++ more) = (s.afterCalls rules calls).afterCalls rules more :=
  List.foldl_append

lemma afterCalls_snoc (rules : Rules) (s : FlowState) (calls : List Call) (call : Call) :
    s.afterCalls rules (calls ++ [call]) = ((s.afterCalls rules calls).answer rules call).2 :=
  afterCalls_append rules s calls [call]

lemma latched_afterCalls (h : s.latched = some v) (rules : Rules) (calls : List Call) :
    (s.afterCalls rules calls).latched = some v := by
  induction calls using List.reverseRecOn with
  | nil => exact h
  | append_singleton calls call ih =>
    rw [afterCalls_snoc]
    rcases call.eq_rescore_or rules with rfl | ⟨w, hw⟩
    · exact ih
    · rw [answer_of_brings hw, ih]
      rfl

/-- The first call with a verdict brings this one. -/
def FirstBrings (rules : Rules) (calls : List Call) (v : Verdict) : Prop :=
  ∃ before call after, calls = before ++ call :: after ∧
    (∀ c ∈ before, c = .failOpen true) ∧ call.Brings rules v

lemma latched_of_rescores (h : ∀ c ∈ calls, c = .failOpen true) (rules : Rules) (s : FlowState) :
    (s.afterCalls rules calls).latched = s.latched := by
  induction calls using List.reverseRecOn with
  | nil => rfl
  | append_singleton calls call ih =>
    obtain ⟨hcalls, hcall⟩ := List.forall_mem_append.mp h
    obtain rfl := hcall call (List.mem_singleton_self _)
    rw [afterCalls_snoc]
    exact ih hcalls

lemma latched_of_first (hopen : s.latched = none) (h : FirstBrings rules calls v) :
    (s.afterCalls rules calls).latched = some v := by
  obtain ⟨before, call, after, rfl, hbefore, hbrings⟩ := h
  -- What comes before the call leaves the flow open, what comes after it changes nothing.
  have hstill : (s.afterCalls rules before).latched = none :=
    (latched_of_rescores hbefore rules s).trans hopen
  rw [List.append_cons, afterCalls_append, afterCalls_snoc, answer_of_brings hbrings, hstill]
  exact latched_afterCalls rfl rules after

lemma rescores_or_first (rules : Rules) (calls : List Call) :
    (∀ c ∈ calls, c = .failOpen true) ∨ ∃ v, FirstBrings rules calls v := by
  induction calls with
  | nil => exact .inl (List.forall_mem_nil _)
  | cons call calls ih =>
    rcases call.eq_rescore_or rules with rfl | ⟨v, hv⟩
    · rcases ih with hall | ⟨v, before, call, after, rfl, hbefore, hbrings⟩
      · exact .inl (List.forall_mem_cons.mpr ⟨rfl, hall⟩)
      · exact .inr ⟨v, .failOpen true :: before, call, after, rfl,
          List.forall_mem_cons.mpr ⟨rfl, hbefore⟩, hbrings⟩
    · exact .inr ⟨v, [], call, calls, rfl, List.forall_mem_nil _, hv⟩

/-- Calls for the verdict change the settled verdict and the window, and nothing else. A failure
that starts a new window empties it. -/
lemma afterCalls_eq (rules : Rules) (s : FlowState) (calls : List Call) :
    s.afterCalls rules calls = { s with
      latched := (s.afterCalls rules calls).latched
      window := if .failOpen true ∈ calls then .empty else s.window } := by
  induction calls using List.reverseRecOn with
  | nil => rfl
  | append_singleton calls call ih =>
    rw [afterCalls_snoc]
    rcases call.eq_rescore_or rules with rfl | ⟨v, hv⟩
    · rw [answer_of_rescore, ih]
      simp
    · have hne : .failOpen true ≠ call := hv.ne_rescore.symm
      rw [answer_of_brings hv, ih]
      simp [hne]

/-- A flow that was open and had the window, after calls: whether and by which call it is settled,
what else has changed, and what it answers to one more call. -/
structure Settles (rules : Rules) (s : FlowState) (calls : List Call) (t : FlowState) : Prop where
  open_iff : t.latched = none ↔ ∀ c ∈ calls, c = .failOpen true
  latched_iff : ∀ v, t.latched = some v ↔ FirstBrings rules calls v
  eq : t = { s with
    latched := t.latched
    window := if .failOpen true ∈ calls then .empty else s.window }
  answer_of_open : ∀ call v, t.latched = none → call.Brings rules v →
    t.answer rules call = (v, { t with latched := some v })
  answer_of_settled : ∀ call v, t.latched = some v → call ≠ .failOpen true →
    t.answer rules call = (v, t)
  answer_of_rescore : t.answer rules (.failOpen true) = (.pass, { t with window := .empty })
  latched_for_good : ∀ more v, t.latched = some v → (t.afterCalls rules more).latched = some v

/-- **A verdict is settled once.** On a new flow, the first call that brings a verdict settles it,
whatever calls come in whatever order; from then on every call but a failure that starts a new
window answers with that verdict, whatever it would bring itself. Such a failure lets pass, empties
the window and leaves the verdict open or settled. Rules compare nothing that is no number. -/
theorem verdict_settles_once (rules : Rules) (flow : FlowId) (opener : Endpoint) (window : Window)
    (now : Nat) (calls : List Call) :
    Settles rules (begun flow opener window now) calls
        ((begun flow opener window now).afterCalls rules calls) ∧
      ∀ (rule : ThresholdRule) (probabilities : List Float32), (rule.threshold.isNaN = true ∨
          ∃ value, probabilities[rule.channel]? = some value ∧ value.isNaN = true) →
        ¬rule.Matches probabilities := by
  have hopen : (begun flow opener window now).latched = none := rfl
  have hcases := rescores_or_first rules calls
  refine ⟨⟨?_, fun v => ?_, afterCalls_eq rules _ calls, fun call v hlatch hbrings => ?_,
    fun call v hlatch hne => ?_, rfl,
    fun more v hlatch => latched_afterCalls hlatch rules more⟩, ?_⟩
  · refine ⟨fun hlatch => hcases.resolve_right fun ⟨v, hfirst⟩ => ?_,
      fun hall => (latched_of_rescores hall rules _).trans hopen⟩
    cases hlatch.symm.trans (latched_of_first hopen hfirst)
  · refine ⟨fun hlatch => ?_, latched_of_first hopen⟩
    rcases hcases with hall | ⟨w, hfirst⟩
    · cases hlatch.symm.trans ((latched_of_rescores hall rules _).trans hopen)
    · obtain rfl := Option.some.inj (hlatch.symm.trans (latched_of_first hopen hfirst))
      exact hfirst
  · rw [answer_of_brings hbrings, hlatch]
    rfl
  · obtain ⟨w, hw⟩ := (call.eq_rescore_or rules).resolve_left hne
    rw [answer_of_brings hw, hlatch]
    exact Prod.ext rfl (by rw [Option.getD_some, ← hlatch])
  · exact fun rule probabilities hnan => ThresholdRule.not_matches_of_isNaN hnan

end FlowVerdict.FlowState
