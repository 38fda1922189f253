import FlowVerdict.Net.AddressText
import FlowVerdict.Proofs.Text.Numeral

/-!
Addresses written and read again.

A group is never taken for a byte: after its decimal digits comes another digit, a colon or a
bracket, but no point. So a run of groups is read group by group up to the two colons that stand for
zeros or up to the bracket behind the address. The run of zeros that is left out is one of the
address, be it the longest or not, and the reader puts as many zeros in as there are groups missing.
-/

namespace FlowVerdict.AddressText

open Text.Numeral (digits isDigit NoDigitFirst noDigitFirst_cons isDigit_of_mem_digits)

variable {rest cs : List Char} {c : Char}

/-! ### Bytes and groups -/

lemma byteFormat_takes (b : UInt8) : byteFormat.Takes b.toNat where
  one_lt_base := by decide
  base_le := by decide
  lt_bound := b.toNat_lt
  length_le := by
    rintro m ⟨⟩
    exact (Nat.length_toDigits_le_iff (b := 10) (by decide) (by decide)).mpr
      (Nat.lt_of_lt_of_le b.toNat_lt (by decide))

lemma groupFormat_takes (g : UInt16) : groupFormat.Takes g.toNat where
  one_lt_base := by decide
  base_le := by decide
  lt_bound := g.toNat_lt
  length_le := by
    rintro m ⟨⟩
    exact (Nat.length_toDigits_le_iff (b := 16) (by decide) (by decide)).mpr g.toNat_lt

lemma byte_digits (b : UInt8) (h : NoDigitFirst 10 rest) :
    byte (digits 10 b.toNat ++ rest) = some (b, rest) := by
  have hread : byteFormat.read (digits 10 b.toNat ++ rest) = some (b.toNat, rest) :=
    Text.Numeral.Format.read_digits (byteFormat_takes b) h
  simp [byte, hread]

lemma group_digits (g : UInt16) (h : NoDigitFirst 16 rest) :
    group (digits 16 g.toNat ++ rest) = some (g, rest) := by
  have hread : groupFormat.read (digits 16 g.toNat ++ rest) = some (g.toNat, rest) :=
    Text.Numeral.Format.read_digits (groupFormat_takes g) h
  simp [group, hread]

lemma after_cons {α : Type} (c : Char) (read : Reader α) (cs : List Char) :
    after c read (c :: cs) = read cs :=
  if_pos rfl

lemma after_of_ne {α : Type} {x : Char} (h : x ≠ c) (read : Reader α) (cs : List Char) :
    after c read (x :: cs) = none :=
  if_neg h

theorem fourBytes_dotted (a b c d : UInt8) (h : NoDigitFirst 10 rest) :
    fourBytes (dotted [a, b, c, d] ++ rest) = some (Address.quad a b c d, rest) := by
  have hpoint : ∀ cs, NoDigitFirst 10 ('.' :: cs) := noDigitFirst_cons (by decide)
  have htext : dotted [a, b, c, d] ++ rest = digits 10 a.toNat ++ '.' :: (digits 10 b.toNat ++
      '.' :: (digits 10 c.toNat ++ '.' :: (digits 10 d.toNat ++ rest))) := by
    simp [dotted, Text.join]
  rw [htext, fourBytes, byte_digits a (hpoint _)]
  simp only [Option.bind_eq_bind, Option.bind_some, after_cons, byte_digits b (hpoint _),
    byte_digits c (hpoint _), byte_digits d h]
  rfl

lemma rest_of_byte {b : UInt8} (h : byte cs = some (b, rest)) :
    rest = cs.dropWhile (isDigit 10) := by
  obtain ⟨⟨n, more⟩, hread, heq⟩ := Option.map_eq_some_iff.mp h
  obtain ⟨-, rfl⟩ := Prod.mk.inj heq
  exact Text.Numeral.Format.rest_of_read hread

lemma fourBytes_eq_none (h : (cs.dropWhile (isDigit 10)).head? ≠ some '.') :
    fourBytes cs = none := by
  cases hbyte : byte cs with
  | none => rw [fourBytes, hbyte]; rfl
  | some read =>
    obtain ⟨b, more⟩ := read
    have hpoint : after '.' byte more = none := by
      rw [← rest_of_byte hbyte] at h
      cases more with
      | nil => rfl
      | cons c more => exact after_of_ne (fun hc => h (congrArg some hc)) byte more
    rw [fourBytes, hbyte, Option.bind_eq_bind, Option.bind_some]
    dsimp only
    rw [hpoint]
    rfl

/-- What may follow a group: a colon or the bracket behind the address. -/
def EndsGroup (cs : List Char) : Prop := ∃ c more, cs = c :: more ∧ (c = ':' ∨ c = ']')

lemma EndsGroup.noDigitFirst (h : EndsGroup cs) : NoDigitFirst 16 cs := by
  obtain ⟨c, more, rfl, rfl | rfl⟩ := h
  · exact noDigitFirst_cons (by decide) more
  · exact noDigitFirst_cons (by decide) more

/-- A group is never taken for the first of four bytes. -/
lemma fourBytes_group (g : UInt16) (h : EndsGroup rest) :
    fourBytes (digits 16 g.toNat ++ rest) = none := by
  have hdigits : ∀ c ∈ digits 16 g.toNat, c ≠ '.' := by
    rintro _ hc rfl
    cases isDigit_of_mem_digits (by decide) (by decide) hc
  refine fourBytes_eq_none ?_
  -- The first character that is no decimal digit is one of the group or one behind it.
  generalize digits 16 g.toNat = ds at hdigits
  induction ds with
  | nil =>
    obtain ⟨c, more, rfl, rfl | rfl⟩ := h
    · exact fun hpoint => absurd (Option.some.inj hpoint) (by decide)
    · exact fun hpoint => absurd (Option.some.inj hpoint) (by decide)
  | cons d ds ih =>
    obtain ⟨hd, hds⟩ := List.forall_mem_cons.mp hdigits
    rw [List.cons_append, List.dropWhile_cons]
    split
    · exact ih hds
    · exact fun hpoint => hd (Option.some.inj hpoint)

/-! ### Runs of groups -/

def spelled (gs : List UInt16) : List Char := gs.flatMap fun g => ':' :: digits 16 g.toNat

lemma spelled_cons (g : UInt16) (gs : List UInt16) :
    spelled (g :: gs) ++ rest = ':' :: (digits 16 g.toNat ++ (spelled gs ++ rest)) :=
  congrArg (':' :: ·) (List.append_assoc _ _ _)

lemma colons_cons (g : UInt16) (gs : List UInt16) :
    colons (g :: gs) = digits 16 g.toNat ++ spelled gs := by
  induction gs generalizing g with
  | nil => exact (List.append_nil _).symm
  | cons g' gs ih =>
    have hjoin : colons (g :: g' :: gs) = digits 16 g.toNat ++ ':' :: colons (g' :: gs) := rfl
    rw [hjoin, ih g']
    rfl

/-- What ends a run of groups: the bracket behind the address, or two colons. -/
inductive EndsRun : List Char → Prop
  | bracket (more : List Char) : EndsRun (']' :: more)
  | gap (more : List Char) : EndsRun (':' :: ':' :: more)

lemma EndsRun.endsGroup (h : EndsRun rest) (gs : List UInt16) : EndsGroup (spelled gs ++ rest) := by
  cases gs with
  | nil =>
    cases h with
    | bracket more => exact ⟨_, _, rfl, .inr rfl⟩
    | gap more => exact ⟨_, _, rfl, .inl rfl⟩
  | cons g gs => exact ⟨_, _, rfl, .inl rfl⟩

/-- A reader of the first of several things, or of one that stands behind a colon. -/
def separated {α : Type} (first : Bool) (read : Reader α) : Reader α :=
  if first then read else after ':' read

lemma separated_colon {α : Type} (read : Reader α) (cs : List Char) :
    separated false read (':' :: cs) = read cs :=
  after_cons ':' read cs

lemma groupRun_of_none {first : Bool} (hbytes : separated first fourBytes cs = none)
    (hgroup : separated first group cs = none) (limit : Nat) :
    groupRun first limit cs = ⟨[], false, cs⟩ := by
  unfold separated at hbytes hgroup
  cases limit with
  | zero => rfl
  | succ limit => simp [groupRun, hbytes, hgroup]

lemma groupRun_of_group {first : Bool} {g : UInt16}
    (hbytes : separated first fourBytes cs = none)
    (hgroup : separated first group cs = some (g, rest)) (limit : Nat) :
    groupRun first (limit + 1) cs =
      { groupRun false limit rest with groups := g :: (groupRun false limit rest).groups } := by
  unfold separated at hbytes hgroup
  simp [groupRun, hbytes, hgroup]

lemma groupRun_of_bytes {first : Bool} {bytes : Vector UInt8 4}
    (hbytes : separated first fourBytes cs = some (bytes, rest)) {limit : Nat}
    (hlimit : limit ≠ 0) :
    groupRun first (limit + 1) cs = ⟨groupsOfBytes bytes, true, rest⟩ := by
  unfold separated at hbytes
  simp [groupRun, hbytes, hlimit]

lemma groupRun_of_endsRun (h : EndsRun rest) (first : Bool) (limit : Nat) :
    groupRun first limit rest = ⟨[], false, rest⟩ := by
  refine groupRun_of_none ?_ ?_ limit
  · cases h <;> cases first <;> rfl
  · cases h <;> cases first <;> rfl

lemma groupRun_digits (g : UInt16) (h : EndsGroup rest) (limit : Nat) :
    groupRun true (limit + 1) (digits 16 g.toNat ++ rest) =
      { groupRun false limit rest with groups := g :: (groupRun false limit rest).groups } := by
  refine groupRun_of_group ?_ ?_ limit
  · exact fourBytes_group g h
  · exact group_digits g h.noDigitFirst

lemma groupRun_colon_digits (g : UInt16) (h : EndsGroup rest) (limit : Nat) :
    groupRun false (limit + 1) (':' :: (digits 16 g.toNat ++ rest)) =
      { groupRun false limit rest with groups := g :: (groupRun false limit rest).groups } := by
  refine groupRun_of_group ?_ ?_ limit
  · exact (separated_colon _ _).trans (fourBytes_group g h)
  · exact (separated_colon _ _).trans (group_digits g h.noDigitFirst)

lemma groupRun_spelled (h : EndsRun rest) {gs : List UInt16} {limit : Nat}
    (hlimit : gs.length ≤ limit) :
    groupRun false limit (spelled gs ++ rest) = ⟨gs, false, rest⟩ := by
  induction gs generalizing limit with
  | nil => exact groupRun_of_endsRun h false limit
  | cons g gs ih =>
    cases limit with
    | zero => exact absurd hlimit (Nat.not_succ_le_zero gs.length)
    | succ limit =>
      have hmore := ih (Nat.le_of_succ_le_succ hlimit)
      rw [spelled_cons, groupRun_colon_digits g (h.endsGroup gs), hmore]

/-- **Groups between colons are read back** up to the end of the run. -/
theorem groupRun_colons (h : EndsRun rest) {gs : List UInt16} {limit : Nat}
    (hlimit : gs.length ≤ limit) :
    groupRun true limit (colons gs ++ rest) = ⟨gs, false, rest⟩ := by
  cases gs with
  | nil => exact groupRun_of_endsRun h true limit
  | cons g gs =>
    cases limit with
    | zero => exact absurd hlimit (Nat.not_succ_le_zero gs.length)
    | succ limit =>
      have hmore := groupRun_spelled h (Nat.le_of_succ_le_succ hlimit)
      rw [colons_cons, List.append_assoc, groupRun_digits g (h.endsGroup gs), hmore]

/-! ### Runs of zeros -/

/-- The run is one of zeros among the groups. -/
def ZeroRun.Within (groups : List UInt16) (run : ZeroRun) : Prop :=
  ∃ before after, groups = before ++ List.replicate run.length 0 ++ after ∧
    before.length = run.start

/-- The run is one of zeros at the end of the groups. -/
def ZeroRun.Ends (groups : List UInt16) (run : ZeroRun) : Prop :=
  ∃ before, groups = before ++ List.replicate run.length 0 ∧ before.length = run.start

lemma ZeroRun.within_zero (groups : List UInt16) : Within groups ⟨0, 0⟩ := ⟨[], groups, rfl, rfl⟩

lemma ZeroRun.Within.append {groups : List UInt16} {run : ZeroRun} (h : Within groups run)
    (more : List UInt16) : Within (groups ++ more) run := by
  obtain ⟨before, after, rfl, hstart⟩ := h
  exact ⟨before, after ++ more, List.append_assoc _ _ _, hstart⟩

lemma ZeroRun.Ends.within {groups : List UInt16} {run : ZeroRun} (h : Ends groups run) :
    Within groups run := by
  obtain ⟨before, rfl, hstart⟩ := h
  exact ⟨before, [], (List.append_nil _).symm, hstart⟩

lemma ZeroRun.ends_snoc {groups : List UInt16} {run : ZeroRun}
    (h : run.length = 0 ∨ Ends groups run) :
    Ends (groups ++ [0]) ⟨if run.length = 0 then groups.length else run.start, run.length + 1⟩ := by
  by_cases hzero : run.length = 0
  · refine ⟨groups, ?_, (if_pos hzero).symm⟩
    rw [hzero]
    rfl
  · obtain ⟨before, rfl, hstart⟩ := h.resolve_left hzero
    refine ⟨before, ?_, hstart.trans (if_neg hzero).symm⟩
    rw [List.replicate_succ', List.append_assoc]

/-- Whatever run is the longest so far, the result is a run of the groups. -/
lemma within_longestZeroRun {read : List UInt16} {current longest : ZeroRun}
    (hcurrent : current.length = 0 ∨ current.Ends read) (hlongest : longest.Within read)
    (gs : List UInt16) :
    (longestZeroRun read.length current longest gs).Within (read ++ gs) := by
  induction gs generalizing read current longest with
  | nil => rwa [List.append_nil]
  | cons g gs ih =>
    have hread : read ++ g :: gs = read ++ [g] ++ gs := by simp
    have hlength : read.length + 1 = (read ++ [g]).length := by simp
    rw [hread, longestZeroRun, hlength]
    split
    · next hzero =>
      subst hzero
      have hends := ZeroRun.ends_snoc hcurrent
      generalize (⟨if current.length = 0 then read.length else current.start,
        current.length + 1⟩ : ZeroRun) = next at hends ⊢
      refine ih (.inr hends) ?_
      split
      · exact hends.within
      · exact hlongest.append [0]
    · exact ih (.inl rfl) (hlongest.append [g])

/-! ### Addresses -/

/-- Two colons stand for as many zero groups as there are groups missing. -/
lemma eightGroups_of_gap {head : List UInt16} {tail : GroupRun}
    (hhead : groupRun true 8 cs = ⟨head, false, ':' :: ':' :: rest⟩) (hlt : head.length ≠ 8)
    (htail : groupRun true (7 - head.length) rest = tail) :
    eightGroups cs =
      some (head ++ List.replicate (8 - head.length - tail.groups.length) 0 ++ tail.groups,
        tail.rest) := by
  subst htail
  rw [eightGroups, hhead, if_neg hlt, if_neg Bool.false_ne_true]
  rfl

/-- **Eight groups are read back**, whatever run of zeros is left out. -/
theorem eightGroups_compressed {gs : List UInt16} (hgs : gs.length = 8) (more : List Char) :
    eightGroups (compressed gs ++ ']' :: more) = some (gs, ']' :: more) := by
  have hwithin : (longestZeroRun 0 ⟨0, 0⟩ ⟨0, 0⟩ gs).Within gs :=
    @within_longestZeroRun [] ⟨0, 0⟩ ⟨0, 0⟩ (.inl rfl) (ZeroRun.within_zero []) gs
  rw [compressed]
  generalize longestZeroRun 0 ⟨0, 0⟩ ⟨0, 0⟩ gs = run at hwithin
  split
  · next hlong =>
    -- The groups before the run are not all eight, so two colons are looked for behind them.
    obtain ⟨before, after, hsplit, hstart⟩ := hwithin
    have hbefore : gs.take run.start = before := by simp [hsplit, ← hstart]
    have hafter : gs.drop (run.start + run.length) = after := by simp [hsplit, ← hstart]
    have hlength : before.length + run.length + after.length = 8 := by
      rw [← hgs, hsplit, List.length_append, List.length_append, List.length_replicate]
    have htext : colons before ++ [':', ':'] ++ colons after ++ ']' :: more =
        colons before ++ ':' :: ':' :: (colons after ++ ']' :: more) := by simp
    have hzeros : 8 - before.length - after.length = run.length := by omega
    rw [hbefore, hafter, htext, eightGroups_of_gap (groupRun_colons (.gap _) (by omega)) (by omega)
      (groupRun_colons (.bracket more) (by omega)), hzeros, ← hsplit]
  · rw [eightGroups, groupRun_colons (.bracket more) hgs.le]
    exact if_pos hgs

lemma groupOfBytes (g : UInt16) :
    UInt16.ofNat ((g >>> 8).toUInt8.toNat * 256 + g.toUInt8.toNat) = g := by
  have hlt : g.toNat < 65536 := g.toNat_lt
  have hvalue : (g >>> 8).toUInt8.toNat * 256 + g.toUInt8.toNat = g.toNat := by
    simp [Nat.shiftRight_eq_div_pow]
    omega
  rw [hvalue, UInt16.ofNat_toNat]

lemma groupsOfBytes_bytesOfGroup (g h : UInt16) :
    groupsOfBytes (Address.quad (g >>> 8).toUInt8 g.toUInt8 (h >>> 8).toUInt8 h.toUInt8) =
      [g, h] :=
  congrArg₂ (fun a b => [a, b]) (groupOfBytes g) (groupOfBytes h)

lemma eightGroups_mapped (g h : UInt16) (more : List Char) :
    eightGroups ("::ffff:".toList ++ dotted (bytesOfGroup g ++ bytesOfGroup h) ++ ']' :: more) =
      some ([0, 0, 0, 0, 0, 0xffff, g, h], ']' :: more) := by
  have hbytes : fourBytes (dotted (bytesOfGroup g ++ bytesOfGroup h) ++ ']' :: more) =
      some (Address.quad (g >>> 8).toUInt8 g.toUInt8 (h >>> 8).toUInt8 h.toUInt8, ']' :: more) :=
    fourBytes_dotted _ _ _ _ (noDigitFirst_cons (by decide) more)
  have hlast := groupRun_of_bytes ((separated_colon _ _).trans hbytes) (Nat.succ_ne_zero 4)
  have hmark : groupRun true 7 (digits 16 (0xffff : UInt16).toNat ++
      ':' :: (dotted (bytesOfGroup g ++ bytesOfGroup h) ++ ']' :: more)) =
      ⟨[0xffff, g, h], true, ']' :: more⟩ := by
    rw [groupRun_digits 0xffff ⟨_, _, rfl, .inl rfl⟩, hlast, groupsOfBytes_bytesOfGroup]
  exact eightGroups_of_gap (groupRun_of_endsRun (.gap _) true 8) (by decide) hmark

theorem sixteenBytes_write (groups : Vector UInt16 8) (more : List Char) :
    sixteenBytes (write (.v6 groups) ++ ']' :: more) = some (.v6 groups, ']' :: more) := by
  have hgroups : eightGroups (write (.v6 groups) ++ ']' :: more) =
      some (groups.toList, ']' :: more) := by
    rw [write]
    split
    · next g h heq => rw [heq, eightGroups_mapped]
    · exact eightGroups_compressed groups.length_toList more
  have hsize : groups.toList.toArray = groups.toArray := rfl
  rw [sixteenBytes, hgroups]
  simp [Address.ofGroups?, hsize]

end FlowVerdict.AddressText
