import FlowVerdict.Flow.Table
import Mathlib.Data.List.Nodup
import Mathlib.Tactic.Lemma

/-!
The table of flows read as a map from flows to states.

In a sound table a flow has one entry and a ticket names one entry, so every operation on a single
flow changes the map at that flow and nowhere else.
-/

namespace FlowVerdict

lemma find?_key_eq_some_iff {α κ : Type} [BEq κ] [LawfulBEq κ] {key : α → κ} {l : List α}
    (hn : (l.map key).Nodup) {k : κ} {a : α} :
    l.find? (fun x => key x == k) = some a ↔ a ∈ l ∧ key a = k := by
  constructor
  · intro h
    exact ⟨List.mem_of_find?_eq_some h, by simpa using List.find?_some h⟩
  · rintro ⟨ha, rfl⟩
    cases h : l.find? fun x => key x == key a with
    | none =>
      have hno := List.find?_eq_none.mp h a ha
      simp at hno
    | some b =>
      have hkey : key b = key a := by simpa using List.find?_some h
      rw [List.inj_on_of_nodup_map hn (List.mem_of_find?_eq_some h) ha hkey]

namespace FlowTable

/-- What the operations keep: one entry for each flow, and tickets that are never handed out
twice. -/
structure Sound (t : FlowTable) : Prop where
  flows_nodup : (t.entries.map (·.flow)).Nodup
  tickets_nodup : (t.entries.map (·.ticket)).Nodup
  ticket_lt : ∀ e ∈ t.entries, e.ticket < t.created

variable {t : FlowTable} {flow k : FlowId} {e : FlowEntry}

lemma sound_empty : empty.Sound := ⟨by simp [empty], by simp [empty], by simp [empty]⟩

lemma mem_of_find? (h : t.find? flow = some e) : e ∈ t.entries ∧ e.flow = flow :=
  ⟨List.mem_of_find?_eq_some h, by simpa using List.find?_some h⟩

lemma Sound.find?_of_mem (hs : t.Sound) (he : e ∈ t.entries) : t.find? e.flow = some e :=
  (find?_key_eq_some_iff hs.flows_nodup).mpr ⟨he, rfl⟩

lemma lookup_of_find? (h : t.find? flow = some e) : t.lookup flow = some e.state := by
  simp [lookup, h]

lemma Sound.lookup_eq_some_iff (hs : t.Sound) {s : FlowState} :
    t.lookup k = some s ↔ ∃ e ∈ t.entries, e.flow = k ∧ e.state = s := by
  constructor
  · intro h
    obtain ⟨e, hfind, rfl⟩ := Option.map_eq_some_iff.mp h
    obtain ⟨he, hf⟩ := mem_of_find? hfind
    exact ⟨e, he, hf, rfl⟩
  · rintro ⟨e, he, rfl, rfl⟩
    exact lookup_of_find? (hs.find?_of_mem he)

lemma lookup_eq_none : t.lookup flow = none ↔ t.find? flow = none := by simp [lookup]

/-! ### Entering -/

lemma getOrCreate_of_some {s : FlowState} (h : t.find? flow = some e) :
    t.getOrCreate flow s = (e, false, t) := by
  simp [getOrCreate, h]

lemma getOrCreate_of_none {s : FlowState} (h : t.find? flow = none) :
    t.getOrCreate flow s = (⟨flow, t.created, s⟩, true,
      { t with entries := t.entries ++ [⟨flow, t.created, s⟩], created := t.created + 1 }) := by
  simp [getOrCreate, h]

/-- What comes of looking a flow up: its entry, and a table that differs at this flow at most. -/
structure Entered (t : FlowTable) (flow : FlowId) (s : FlowState)
    (r : FlowEntry × Bool × FlowTable) : Prop where
  flow_eq : r.1.flow = flow
  state_eq : r.1.state = (t.lookup flow).getD s
  isNew_eq : r.2.1 = (t.lookup flow).isNone
  mem : r.1 ∈ r.2.2.entries
  sound : r.2.2.Sound
  lookup_ne : ∀ k, k ≠ flow → r.2.2.lookup k = t.lookup k

lemma Sound.entered (hs : t.Sound) (flow : FlowId) (s : FlowState) :
    t.Entered flow s (t.getOrCreate flow s) := by
  cases h : t.find? flow with
  | some e =>
    obtain ⟨he, hf⟩ := mem_of_find? h
    rw [getOrCreate_of_some h]
    exact ⟨hf, by simp [lookup, h], by simp [lookup, h], he, hs, fun _ _ => rfl⟩
  | none =>
    have hnew : ∀ e ∈ t.entries, e.flow ≠ flow := by simpa [find?] using h
    rw [getOrCreate_of_none h]
    refine ⟨rfl, by simp [lookup, h], by simp [lookup, h], by simp, ⟨?_, ?_, ?_⟩, ?_⟩
    · simpa [List.nodup_append, hs.flows_nodup] using hnew
    · have hlt : ∀ e ∈ t.entries, e.ticket ≠ t.created := fun e he =>
        Nat.ne_of_lt (hs.ticket_lt e he)
      simpa [List.nodup_append, hs.tickets_nodup] using hlt
    · intro e he
      rcases List.mem_append.mp he with he | he
      · exact Nat.lt_succ_of_lt (hs.ticket_lt e he)
      · rw [List.mem_singleton.mp he]
        exact Nat.lt_succ_self _
    · intro k hk
      have hk' : (flow == k) = false := by simp [Ne.symm hk]
      simp [lookup, find?, List.find?_append, hk']

/-! ### Changing a state -/

lemma find?_modify (t : FlowTable) (ticket : Ticket) (f : FlowState → FlowState) (k : FlowId) :
    (t.modify ticket f).find? k =
      (t.find? k).map fun e => if e.ticket = ticket then { e with state := f e.state } else e := by
  have hp : (fun e : FlowEntry => e.flow == k) ∘
      (fun e => if e.ticket = ticket then { e with state := f e.state } else e) =
        fun e => e.flow == k := by
    funext e
    simp only [Function.comp_apply]
    split <;> rfl
  simp only [find?, modify, List.find?_map, hp]

lemma Sound.lookup_modify (hs : t.Sound) (he : e ∈ t.entries) (f : FlowState → FlowState)
    (k : FlowId) : (t.modify e.ticket f).lookup k =
      if k = e.flow then some (f e.state) else t.lookup k := by
  rw [lookup, find?_modify]
  split
  · next hk =>
    subst hk
    simp [hs.find?_of_mem he]
  · next hk =>
    cases h : t.find? k with
    | none => simp [lookup, h]
    | some e' =>
      obtain ⟨he', hf⟩ := mem_of_find? h
      have hne : e'.ticket ≠ e.ticket := fun ht =>
        hk (by rw [← hf, List.inj_on_of_nodup_map hs.tickets_nodup he' he ht])
      simp [lookup, h, hne]

lemma Sound.map (hs : t.Sound) {f : FlowEntry → FlowEntry} (hflow : ∀ e, (f e).flow = e.flow)
    (hticket : ∀ e, (f e).ticket = e.ticket) :
    Sound { t with entries := t.entries.map f } := by
  have hflows : (t.entries.map f).map (·.flow) = t.entries.map (·.flow) := by
    rw [List.map_map]
    exact List.map_congr_left fun e _ => hflow e
  have htickets : (t.entries.map f).map (·.ticket) = t.entries.map (·.ticket) := by
    rw [List.map_map]
    exact List.map_congr_left fun e _ => hticket e
  refine ⟨hflows ▸ hs.flows_nodup, htickets ▸ hs.tickets_nodup, ?_⟩
  intro e he
  obtain ⟨e', he', rfl⟩ := List.mem_map.mp he
  exact hticket e' ▸ hs.ticket_lt e' he'

lemma Sound.modify (hs : t.Sound) (ticket : Ticket) (f : FlowState → FlowState) :
    (t.modify ticket f).Sound :=
  hs.map (fun e => by split <;> rfl) (fun e => by split <;> rfl)

lemma mem_modify (he : e ∈ t.entries) (f : FlowState → FlowState) :
    { e with state := f e.state } ∈ (t.modify e.ticket f).entries :=
  List.mem_map.mpr ⟨e, he, by simp⟩

/-! ### Leaving -/

lemma Sound.filter (hs : t.Sound) (p : FlowEntry → Bool) (n : Nat) :
    Sound { t with entries := t.entries.filter p, evicted := n } :=
  ⟨hs.flows_nodup.sublist (List.filter_sublist.map _),
   hs.tickets_nodup.sublist (List.filter_sublist.map _),
   fun e he => hs.ticket_lt e (List.mem_filter.mp he).1⟩

lemma removeTicket_of_find? (h : t.find? flow = some e) :
    t.removeTicket flow e.ticket =
      (some e,
        { t with entries := t.entries.filter (·.flow != flow), evicted := t.evicted + 1 }) := by
  simp [removeTicket, h]

lemma Sound.lookup_removeTicket (hs : t.Sound) (he : e ∈ t.entries) (k : FlowId) :
    (t.removeTicket e.flow e.ticket).2.lookup k = if k = e.flow then none else t.lookup k := by
  rw [removeTicket_of_find? (hs.find?_of_mem he)]
  ext s
  rw [(hs.filter _ _).lookup_eq_some_iff]
  split
  · next hk =>
    simp only [List.mem_filter, bne_iff_ne, reduceCtorEq, iff_false]
    rintro ⟨e', ⟨-, hne⟩, hf, -⟩
    exact hne (hf.trans hk)
  · next hk =>
    rw [hs.lookup_eq_some_iff]
    refine exists_congr fun e' => ?_
    simp only [List.mem_filter, bne_iff_ne, ne_eq, and_assoc, and_congr_right_iff]
    intro _
    exact ⟨fun h => h.2, fun h => ⟨by rw [h.1]; exact hk, h⟩⟩

/-- A state that changes just before its flow leaves makes no difference to the table. -/
lemma Sound.removeTicket_modify (hs : t.Sound) (he : e ∈ t.entries) (f : FlowState → FlowState) :
    ((t.modify e.ticket f).removeTicket e.flow e.ticket).2 =
      (t.removeTicket e.flow e.ticket).2 := by
  have hfind := (hs.modify e.ticket f).find?_of_mem (mem_modify he f)
  have hkept : ((t.modify e.ticket f).entries.filter (·.flow != e.flow)) =
      t.entries.filter (·.flow != e.flow) := by
    have hflow : ((fun e' : FlowEntry => e'.flow != e.flow) ∘ fun e' =>
        if e'.ticket = e.ticket then { e' with state := f e'.state } else e') =
          fun e' => e'.flow != e.flow := by
      funext e'
      simp only [Function.comp_apply]
      split <;> rfl
    rw [FlowTable.modify, List.filter_map, hflow]
    refine (List.map_congr_left fun e' he' => ?_).trans (List.map_id _)
    obtain ⟨hmem, hne⟩ := List.mem_filter.mp he'
    -- Tickets are not shared, so no entry that stays has changed.
    refine if_neg fun hticket => ?_
    obtain rfl := List.inj_on_of_nodup_map hs.tickets_nodup hmem he hticket
    simp at hne
  have hafter := removeTicket_of_find? hfind
  dsimp only at hafter
  rw [hafter, removeTicket_of_find? (hs.find?_of_mem he), hkept]
  rfl

lemma isSwept_iff {test : FlowState → Bool} {locked : List Ticket} :
    isSwept test locked e = true ↔ e.ticket ∉ locked ∧ test e.state = true := by
  simp [isSwept]

lemma Sound.sweep (hs : t.Sound) (test : FlowState → Bool) (locked : List Ticket) :
    (t.sweep test locked).2.Sound :=
  hs.filter _ _

lemma Sound.lookup_sweep (hs : t.Sound) (test : FlowState → Bool) (k : FlowId) :
    (t.sweep test []).2.lookup k = (t.lookup k).filter fun s => !test s := by
  ext s
  rw [(hs.sweep test []).lookup_eq_some_iff, Option.filter_eq_some_iff, hs.lookup_eq_some_iff]
  constructor
  · rintro ⟨e, he, hf, rfl⟩
    obtain ⟨he, htest⟩ := List.mem_filter.mp he
    exact ⟨⟨e, he, hf, rfl⟩, by simpa [isSwept] using htest⟩
  · rintro ⟨⟨e, he, hf, rfl⟩, htest⟩
    exact ⟨e, List.mem_filter.mpr ⟨he, by simpa [isSwept] using htest⟩, hf, rfl⟩

/-! ### Marks -/

/-- No flow of the table is marked as leaving it. -/
structure Live (t : FlowTable) : Prop extends t.Sound where
  unmarked : ∀ e ∈ t.entries, e.state.evicted = false

lemma live_empty : empty.Live := ⟨sound_empty, by simp [empty]⟩

namespace Live

lemma evicted_of_lookup (hl : t.Live) {s : FlowState} (h : t.lookup k = some s) :
    s.evicted = false := by
  obtain ⟨e, he, -, rfl⟩ := hl.lookup_eq_some_iff.mp h
  exact hl.unmarked e he

lemma getOrCreate (hl : t.Live) (flow : FlowId) {s : FlowState} (hs : s.evicted = false) :
    (t.getOrCreate flow s).2.2.Live := by
  refine ⟨(hl.entered flow s).sound, ?_⟩
  cases h : t.find? flow with
  | some e =>
    rw [getOrCreate_of_some h]
    exact hl.unmarked
  | none =>
    rw [getOrCreate_of_none h]
    exact List.forall_mem_append.mpr ⟨hl.unmarked, List.forall_mem_singleton.mpr hs⟩

lemma modify (hl : t.Live) (ticket : Ticket) {f : FlowState → FlowState}
    (hf : ∀ s, s.evicted = false → (f s).evicted = false) : (t.modify ticket f).Live := by
  refine ⟨hl.toSound.modify ticket f, fun e' he' => ?_⟩
  obtain ⟨e, he, rfl⟩ := List.mem_map.mp he'
  have hunmarked := hl.unmarked e he
  split
  · exact hf e.state hunmarked
  · exact hunmarked

lemma filter (hl : t.Live) (p : FlowEntry → Bool) (n : Nat) :
    Live { t with entries := t.entries.filter p, evicted := n } :=
  ⟨hl.toSound.filter p n, fun e he => hl.unmarked e (List.mem_filter.mp he).1⟩

lemma removeTicket (hl : t.Live) (he : e ∈ t.entries) :
    (t.removeTicket e.flow e.ticket).2.Live := by
  rw [removeTicket_of_find? (hl.find?_of_mem he)]
  exact hl.filter _ _

lemma sweep (hl : t.Live) (test : FlowState → Bool) (locked : List Ticket) :
    (t.sweep test locked).2.Live :=
  hl.filter _ _

end Live

/-! ### Coming and going -/

/-- Every flow that came into the table is there or has left it. -/
def Balanced (t : FlowTable) : Prop := t.size + t.evicted = t.created

lemma balanced_empty : empty.Balanced := rfl

lemma Balanced.getOrCreate (hb : t.Balanced) (flow : FlowId) (s : FlowState) :
    (t.getOrCreate flow s).2.2.Balanced := by
  cases h : t.find? flow with
  | some e => simpa only [getOrCreate_of_some h] using hb
  | none =>
    have hsize : t.entries.length + t.evicted = t.created := hb
    simp only [getOrCreate_of_none h, Balanced, size, List.length_append, List.length_singleton]
    omega

lemma Balanced.modify (hb : t.Balanced) (ticket : Ticket) (f : FlowState → FlowState) :
    (t.modify ticket f).Balanced := by
  simpa [Balanced, size, FlowTable.modify] using hb

lemma Sound.length_filter_flow (hs : t.Sound) (he : e ∈ t.entries) :
    (t.entries.filter (·.flow != e.flow)).length + 1 = t.entries.length := by
  have hone : t.entries.countP (·.flow == e.flow) = 1 := by
    have hcount := List.count_eq_one_of_mem hs.flows_nodup (List.mem_map_of_mem he)
    rwa [List.count_eq_countP, List.countP_map] at hcount
  have hall := List.length_eq_length_filter_add (l := t.entries) (·.flow == e.flow)
  rw [← List.countP_eq_length_filter, hone] at hall
  rw [hall, Nat.add_comm]
  rfl

lemma Sound.balanced_removeTicket (hs : t.Sound) (hb : t.Balanced) (flow : FlowId)
    (ticket : Ticket) : (t.removeTicket flow ticket).2.Balanced := by
  unfold FlowTable.removeTicket
  split
  · next e hfind =>
    obtain ⟨he, rfl⟩ := mem_of_find? hfind
    have hleft := hs.length_filter_flow he
    have hsize : t.entries.length + t.evicted = t.created := hb
    split
    · simp only [Balanced, size]
      omega
    · exact hb
  · exact hb

lemma removeTicket_counts (t : FlowTable) (flow : FlowId) (ticket : Ticket) :
    (t.removeTicket flow ticket).2.created = t.created ∧
      (t.removeTicket flow ticket).2.evicted =
        t.evicted + if (t.removeTicket flow ticket).1.isSome then 1 else 0 := by
  unfold FlowTable.removeTicket
  split
  · split <;> exact ⟨rfl, rfl⟩
  · exact ⟨rfl, rfl⟩

lemma Balanced.sweep (hb : t.Balanced) (test : FlowState → Bool) (locked : List Ticket) :
    (t.sweep test locked).2.Balanced := by
  have hsize : t.entries.length + t.evicted = t.created := hb
  have hall := List.length_eq_length_filter_add (l := t.entries) (isSwept test locked)
  simp only [FlowTable.sweep, Balanced, size]
  omega

/-! ### All states at once -/

def mapStates (t : FlowTable) (f : FlowState → FlowState) : FlowTable :=
  { t with entries := t.entries.map fun e => { e with state := f e.state } }

@[simp] lemma mapStates_id (t : FlowTable) : t.mapStates id = t := by
  simp [mapStates]

lemma find?_mapStates (t : FlowTable) (f : FlowState → FlowState) (k : FlowId) :
    (t.mapStates f).find? k = (t.find? k).map fun e => { e with state := f e.state } := by
  simp only [find?, mapStates, List.find?_map]
  rfl

lemma lookup_mapStates (t : FlowTable) (f : FlowState → FlowState) (k : FlowId) :
    (t.mapStates f).lookup k = (t.lookup k).map f := by
  rw [lookup, find?_mapStates, lookup, Option.map_map, Option.map_map]
  rfl

lemma getOrCreate_mapStates (t : FlowTable) (f : FlowState → FlowState) (k : FlowId)
    (s : FlowState) : (t.mapStates f).getOrCreate k (f s) =
      ({ (t.getOrCreate k s).1 with state := f (t.getOrCreate k s).1.state },
        (t.getOrCreate k s).2.1, (t.getOrCreate k s).2.2.mapStates f) := by
  cases h : t.find? k with
  | some e =>
    have h' := find?_mapStates t f k
    rw [h] at h'
    rw [getOrCreate_of_some h, getOrCreate_of_some h']
  | none =>
    have h' := find?_mapStates t f k
    rw [h] at h'
    rw [getOrCreate_of_none h, getOrCreate_of_none h']
    simp [mapStates]

lemma modify_mapStates (t : FlowTable) (f change changed : FlowState → FlowState)
    (h : ∀ s, changed (f s) = f (change s)) (ticket : Ticket) :
    (t.mapStates f).modify ticket changed = (t.modify ticket change).mapStates f := by
  simp only [mapStates, modify, List.map_map]
  congr 1
  refine List.map_congr_left fun e _ => ?_
  simp only [Function.comp_apply]
  split
  · rw [h]
  · rfl

lemma removeTicket_mapStates (t : FlowTable) (f : FlowState → FlowState) (k : FlowId)
    (ticket : Ticket) : (t.mapStates f).removeTicket k ticket =
      ((t.removeTicket k ticket).1.map fun e => { e with state := f e.state },
        (t.removeTicket k ticket).2.mapStates f) := by
  unfold removeTicket
  rw [find?_mapStates]
  cases t.find? k with
  | none => rfl
  | some e =>
    simp only [Option.map_some]
    split
    · simp only [mapStates, List.filter_map]
      rfl
    · rfl

lemma sweep_mapStates (t : FlowTable) (f : FlowState → FlowState) (test : FlowState → Bool)
    (htest : ∀ s, test (f s) = test s) (locked : List Ticket) :
    ((t.mapStates f).sweep test locked).1.length = (t.sweep test locked).1.length ∧
      ((t.mapStates f).sweep test locked).2 = (t.sweep test locked).2.mapStates f := by
  simp only [sweep, mapStates, List.filter_map, List.length_map, Function.comp_def, isSwept, htest]
  exact ⟨rfl, rfl⟩

/-! ### Counting -/

/-- The number of flows in the table whose state answers to a test. -/
def count (t : FlowTable) (test : FlowState → Bool) : Nat :=
  t.entries.countP fun e => test e.state

def bindings (t : FlowTable) : List (FlowId × FlowState) :=
  t.entries.map fun e => (e.flow, e.state)

lemma Sound.mem_bindings (hs : t.Sound) {s : FlowState} :
    (k, s) ∈ t.bindings ↔ t.lookup k = some s := by
  simp only [bindings, List.mem_map, Prod.mk.injEq, hs.lookup_eq_some_iff]

lemma Sound.nodup_bindings (hs : t.Sound) : t.bindings.Nodup := by
  refine List.Nodup.of_map Prod.fst ?_
  rw [bindings, List.map_map]
  exact hs.flows_nodup

lemma Sound.count_eq (hs : t.Sound) (flow : FlowId) (test : FlowState → Bool) :
    t.count test = (t.lookup flow).toList.countP test +
      (t.bindings.filter (·.1 != flow)).countP fun b => test b.2 := by
  -- A table in which no flow stands twice is its one entry for the flow and all the others.
  have hperm : t.bindings.Perm
      ((t.lookup flow).toList.map (Prod.mk flow) ++ t.bindings.filter (·.1 != flow)) := by
    refine (List.perm_ext_iff_of_nodup hs.nodup_bindings (List.Nodup.append ?_ ?_ ?_)).mpr ?_
    · cases t.lookup flow <;> simp
    · exact hs.nodup_bindings.filter _
    · intro b hb hb'
      obtain ⟨s, -, rfl⟩ := List.mem_map.mp hb
      simp at hb'
    · rintro ⟨k, s⟩
      by_cases hk : k = flow
      · subst hk
        simp [hs.mem_bindings]
      · simp [hs.mem_bindings, hk, Ne.symm hk]
  have hcount : t.count test = t.bindings.countP fun b => test b.2 := by
    simp only [count, bindings, List.countP_map]
    rfl
  rw [hcount, hperm.countP_eq, List.countP_append, List.countP_map]
  rfl

/-- Two tables that agree on all flows but one have counts that differ by that flow. -/
theorem Sound.count_add {u : FlowTable} (ht : t.Sound) (hu : u.Sound)
    (hne : ∀ k, k ≠ flow → u.lookup k = t.lookup k) (test : FlowState → Bool) :
    u.count test + (t.lookup flow).toList.countP test =
      t.count test + (u.lookup flow).toList.countP test := by
  have hothers : (u.bindings.filter (·.1 != flow)).Perm (t.bindings.filter (·.1 != flow)) := by
    refine (List.perm_ext_iff_of_nodup (hu.nodup_bindings.filter _)
      (ht.nodup_bindings.filter _)).mpr ?_
    rintro ⟨k, s⟩
    simp only [List.mem_filter, hu.mem_bindings, ht.mem_bindings, bne_iff_ne, ne_eq,
      and_congr_left_iff]
    intro hk
    rw [hne k hk]
  rw [ht.count_eq flow, hu.count_eq flow, hothers.countP_eq]
  omega

lemma count_sweep_le (t : FlowTable) (sweeps : FlowState → Bool) (locked : List Ticket)
    (test : FlowState → Bool) : (t.sweep sweeps locked).2.count test ≤ t.count test :=
  List.filter_sublist.countP_le

/-! ### Sweeping again -/

lemma length_sweep (t : FlowTable) (test : FlowState → Bool) :
    (t.sweep test []).1.length = t.count test := by
  simp only [sweep, count, List.length_map, List.countP_eq_length_filter]
  rfl

lemma size_sweep_add (t : FlowTable) (test : FlowState → Bool) :
    (t.sweep test []).2.size + t.count test = t.size := by
  have hall := List.length_eq_length_filter_add (l := t.entries) (isSwept test [])
  have hcount : t.count test = (t.entries.filter (isSwept test [])).length :=
    List.countP_eq_length_filter
  simp only [sweep, size, hcount]
  omega

lemma count_le_count (t : FlowTable) {test wider : FlowState → Bool}
    (h : ∀ s, test s = true → wider s = true) : t.count test ≤ t.count wider :=
  List.countP_mono_left fun e _ => h e.state

/-- What a wider test finds, it finds in the first sweep or in the second. -/
lemma count_add_count_sweep (t : FlowTable) {test wider : FlowState → Bool}
    (h : ∀ s, test s = true → wider s = true) :
    t.count test + (t.sweep test []).2.count wider = t.count wider := by
  have hfirst : (t.entries.filter fun e => test e.state).countP (fun e => wider e.state) =
      t.count test := by
    rw [List.countP_filter]
    refine List.countP_congr fun e _ => ?_
    have himp := h e.state
    cases htest : test e.state with
    | false => simp
    | true => simp [himp htest]
  have hsplit := List.countP_eq_countP_filter_add t.entries (fun e => wider e.state)
    (fun e => test e.state)
  rw [hfirst] at hsplit
  exact hsplit.symm

/-- **A sweep with a wider test makes up for the one before it.** -/
theorem sweep_sweep (t : FlowTable) {test wider : FlowState → Bool}
    (h : ∀ s, test s = true → wider s = true) :
    ((t.sweep test []).2.sweep wider []).2 = (t.sweep wider []).2 := by
  have hentries : (t.entries.filter fun e => !isSwept test [] e).filter
      (fun e => !isSwept wider [] e) = t.entries.filter fun e => !isSwept wider [] e := by
    rw [List.filter_filter]
    refine List.filter_congr fun e _ => ?_
    have himp := h e.state
    cases htest : test e.state with
    | false => simp [isSwept, htest]
    | true => simp [isSwept, himp htest]
  have hevicted : t.evicted + (t.sweep test []).1.length +
      ((t.sweep test []).2.sweep wider []).1.length =
        t.evicted + (t.sweep wider []).1.length := by
    rw [length_sweep, length_sweep, length_sweep, Nat.add_assoc, t.count_add_count_sweep h]
  simp only [sweep, List.length_map] at hevicted ⊢
  rw [hentries, hevicted]

end FlowTable

end FlowVerdict
