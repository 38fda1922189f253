import FlowVerdict.Json.Reader
import FlowVerdict.Proofs.Json.Writer
import FlowVerdict.Proofs.Text.Numeral
import FlowVerdict.Text.Split
import Mathlib.Data.List.DropRight

/-!
Texts of values, as a reader takes them. A text in quotes comes back whatever it holds, as every
character is read back from its escape. A number comes back as it is spelled: what it stands for is
no matter of the reader. Lists and tables come back if what they hold does, wherever blanks stand in
them.
-/

namespace FlowVerdict.Json.Reader

open Writer (escape quote)

variable {rest : List Char}

lemma skipBlanks_cons {c : Char} (hc : c ∉ [' ', '\n', '\t', '\r']) (cs : List Char) :
    skipBlanks (c :: cs) = c :: cs := by
  refine List.dropWhile_cons_of_neg ?_
  simpa [or_assoc] using hc

/-! ### Texts -/

lemma string_of_plain {c : Char} (hquote : c ≠ '"') (hslash : c ≠ '\\') (hc : ¬c.toNat < 0x20)
    (read : List Char) : string read none true (c :: rest) = string (c :: read) none true rest := by
  rw [string]
  · simp [hc]
  · exact hquote
  · rintro _ _ _ _ _ rfl
    exact absurd rfl hslash
  · rintro _ _ rfl
    exact absurd rfl hslash

/-- No control character is half of a surrogate pair. -/
lemma string_of_control {c : Char} (hc : c.toNat < 0x20) (read : List Char) :
    string read none true ('\\' :: 'u' :: '0' :: '0' :: Nat.digitChar (c.toNat / 16) ::
      Nat.digitChar (c.toNat % 16) :: rest) = string (c :: read) none true rest := by
  have hzero : Text.Numeral.digitValue? 16 '0' = some 0 := rfl
  have hhigh : Text.Numeral.digitValue? 16 (Nat.digitChar (c.toNat / 16)) = some (c.toNat / 16) :=
    Text.Numeral.digitValue?_digitChar (by decide) (by omega)
  have hlow : Text.Numeral.digitValue? 16 (Nat.digitChar (c.toNat % 16)) = some (c.toNat % 16) :=
    Text.Numeral.digitValue?_digitChar (by decide) (by omega)
  have hunit : unit? '0' '0' (Nat.digitChar (c.toNat / 16)) (Nat.digitChar (c.toNat % 16)) =
      some c.toNat := by
    simp [unit?, hzero, hhigh, hlow]
    omega
  have hleading : isLeading c.toNat = false := by
    simp [isLeading]
    omega
  have htrailing : isTrailing c.toNat = false := by
    simp [isTrailing]
    omega
  simp [string, hunit, hleading, htrailing]

lemma string_escape (c : Char) (read : List Char) :
    string read none true (escape c ++ rest) = string (c :: read) none true rest := by
  unfold escape
  split
  case h_8 _ hquote hslash _ _ _ _ _ =>
    split
    · next hcontrol => exact string_of_control hcontrol read
    · next hplain => exact string_of_plain hquote hslash hplain read
  all_goals rfl

/-- **A text is read back** up to its closing quote. -/
theorem string_flatMap_escape (cs read : List Char) :
    string read none true (cs.flatMap escape ++ '"' :: rest) =
      some (some (String.ofList (read.reverse ++ cs)), rest) := by
  induction cs generalizing read with
  | nil => rw [List.append_nil]; rfl
  | cons c cs ih =>
    rw [List.flatMap_cons, List.append_assoc, string_escape, ih, List.reverse_cons,
      List.append_assoc, List.singleton_append]

lemma string_text (s : String) :
    string [] none true (s.toList.flatMap escape ++ '"' :: rest) = some (some s, rest) := by
  rw [string_flatMap_escape]
  exact congrArg (fun s => some (some s, rest)) String.ofList_toList

lemma toList_quote (s : String) :
    (quote s).toList ++ rest = '"' :: (s.toList.flatMap escape ++ '"' :: rest) := by
  rw [quote, String.toList_ofList, List.append_assoc]
  rfl

/-! ### Numbers -/

def natural (n : Nat) : Number :=
  ⟨false, (Nat.toDigits 10 n).map fun c => c.toNat - '0'.toNat, [], none⟩

/-- The text does not go on with a number. -/
def EndsNumber (rest : List Char) : Prop :=
  ∀ c more, rest = c :: more → c.isDigit = false ∧ c ≠ '.' ∧ c ≠ 'e' ∧ c ≠ 'E'

lemma endsNumber_cons {c : Char} (h : c.isDigit = false ∧ c ≠ '.' ∧ c ≠ 'e' ∧ c ≠ 'E')
    (more : List Char) : EndsNumber (c :: more) := by
  rintro _ _ ⟨⟩
  exact h

lemma isDigit_toDigits {n : Nat} {c : Char} (h : c ∈ Nat.toDigits 10 n) : c.isDigit = true :=
  Nat.isDigit_of_mem_toDigits (by decide) (by decide) h

lemma toNat_of_isDigit {c : Char} (h : c.isDigit = true) : 48 ≤ c.toNat ∧ c.toNat ≤ 57 := by
  simp only [Char.isDigit, Bool.and_eq_true, decide_eq_true_eq] at h
  exact ⟨UInt32.le_iff_toNat_le.mp h.1, UInt32.le_iff_toNat_le.mp h.2⟩

lemma digits_toDigits (n : Nat) (h : EndsNumber rest) :
    digits (Nat.toDigits 10 n ++ rest) = ((natural n).whole, rest) := by
  have hdigits : ∀ c ∈ Nat.toDigits 10 n, c.isDigit = true := fun _ => isDigit_toDigits
  have hstop : ∀ c more, rest = c :: more → c.isDigit = false := fun c more hrest =>
    (h c more hrest).1
  rw [digits, Text.takeWhile_append_of_stop hdigits hstop,
    Text.dropWhile_append_of_stop hdigits hstop]
  rfl

lemma exponent?_of_endsNumber (h : EndsNumber rest) : exponent? rest = some (none, rest) := by
  cases rest with
  | nil => rfl
  | cons c more =>
    obtain ⟨-, -, he, hE⟩ := h c more rfl
    simp [exponent?, he, hE]

/-- Zero is the only number whose digits start with a zero, and has one digit. -/
lemma first_of_natural (n : Nat) : (!((natural n).whole.isEmpty ||
    (natural n).whole.length > 1 && (natural n).whole.head? == some 0)) = true := by
  have hne : (natural n).whole.isEmpty = false := by simp [natural]
  have hfirst : (decide ((natural n).whole.length > 1) && (natural n).whole.head? == some 0) =
      false := by
    by_cases hn : n = 0
    · subst hn
      decide
    · refine Bool.and_eq_false_imp.mpr fun _ => beq_false_of_ne fun hzero => ?_
      obtain ⟨c, hc, hvalue⟩ := Option.map_eq_some_iff.mp (List.head?_map.symm.trans hzero)
      have hge := (toNat_of_isDigit (isDigit_toDigits (List.mem_of_mem_head? hc))).1
      have hle : c.toNat ≤ 48 := Nat.le_of_sub_eq_zero hvalue
      have hc0 : c = '0' := Char.ext (UInt32.toNat_inj.mp (Nat.le_antisymm hle hge))
      exact Text.Numeral.head?_digits (by decide) (by decide) hn (hc0 ▸ hc)
  rw [hne, hfirst]
  rfl

/-- **A number is read back** as it is spelled. -/
theorem number?_toDigits (n : Nat) (h : EndsNumber rest) :
    number? (Nat.toDigits 10 n ++ rest) = some (natural n, rest) := by
  have hexponent := exponent?_of_endsNumber h
  unfold number?
  split
  next heq =>
    split at heq
    · next hminus =>
      -- A number without a sign does not start with one.
      obtain ⟨d, ds, hcons⟩ := List.exists_cons_of_ne_nil (Nat.toDigits_ne_nil (b := 10) (n := n))
      have hd : d.isDigit = true := isDigit_toDigits (hcons ▸ List.mem_cons_self)
      rw [hcons] at hminus
      rw [(List.cons.inj hminus).1] at hd
      cases hd
    · obtain ⟨rfl, rfl⟩ := Prod.mk.inj heq
      rw [digits_toDigits n h]
      simp only [first_of_natural, guard, if_true]
      split
      · exact absurd rfl (h '.' _ rfl).2.1
      · simp [hexponent, natural]

/-! ### Values -/

/-- The text may open a value: it starts neither with a blank nor with the end of a list. -/
def Opens (cs : List Char) : Prop :=
  ∃ c more, cs = c :: more ∧ c ∉ [' ', '\n', '\t', '\r', ']']

/-- The text is read as the document, whatever comes after it. -/
structure Spells (text : List Char) (j : Json) : Prop where
  opens : Opens text
  value_eq : ∀ fuel rest, text.length ≤ fuel → EndsNumber rest →
    value (fuel + 1) (text ++ rest) = some (j, rest)

lemma spells_null : Spells "null".toList .null where
  opens := ⟨'n', _, rfl, by decide⟩
  value_eq fuel rest _ _ := by
    have htext : "null".toList = ['n', 'u', 'l', 'l'] := rfl
    rw [htext, value]
    rfl

lemma spells_boolean (b : Bool) : Spells (if b then "true" else "false").toList (.boolean b) := by
  have htrue : "true".toList = ['t', 'r', 'u', 'e'] := rfl
  have hfalse : "false".toList = ['f', 'a', 'l', 's', 'e'] := rfl
  cases b with
  | true =>
    refine ⟨⟨'t', _, htrue, by decide⟩, fun fuel rest _ _ => ?_⟩
    rw [if_pos rfl, htrue, value]
    rfl
  | false =>
    refine ⟨⟨'f', _, hfalse, by decide⟩, fun fuel rest _ _ => ?_⟩
    rw [if_neg Bool.false_ne_true, hfalse, value]
    rfl

lemma spells_quote (s : String) : Spells (quote s).toList (.string (some s)) := by
  constructor
  · refine ⟨'"', s.toList.flatMap escape ++ ['"'], ?_, by decide⟩
    rw [← List.append_nil (quote s).toList, toList_quote]
  · intro fuel rest _ _
    rw [toList_quote, value, skipBlanks_cons (by decide)]
    simp [string_text]

lemma ne_of_isDigit {d : Char} (hd : d.isDigit = true) : d ∉ [' ', '\n', '\t', '\r', ']'] := by
  intro h
  simp only [List.mem_cons, List.not_mem_nil, or_false] at h
  rcases h with rfl | rfl | rfl | rfl | rfl <;> cases hd

lemma value_digit {d : Char} (hd : d.isDigit = true) (fuel : Nat) (cs : List Char) :
    value (fuel + 1) (d :: cs) = (number? (d :: cs)).map fun (n, rest) => (.number n, rest) := by
  rw [value, skipBlanks_cons (mt (List.mem_append_left [']']) (ne_of_isDigit hd))]
  split
  case h_7 => rfl
  all_goals
    next heq =>
      rw [(List.cons.inj heq).1] at hd
      cases hd

lemma spells_natural (n : Nat) : Spells (Nat.toDigits 10 n) (.number (natural n)) := by
  obtain ⟨d, ds, hcons⟩ := List.exists_cons_of_ne_nil (Nat.toDigits_ne_nil (b := 10) (n := n))
  have hd : d.isDigit = true := isDigit_toDigits (hcons ▸ List.mem_cons_self)
  constructor
  · exact ⟨d, ds, hcons, ne_of_isDigit hd⟩
  · intro fuel rest _ h
    have hread := number?_toDigits n h
    rw [hcons, List.cons_append] at hread ⊢
    rw [value_digit hd, hread]
    rfl

/-! ### Blanks -/

def IsBlank (cs : List Char) : Prop := ∀ c ∈ cs, c ∈ [' ', '\n', '\t', '\r']

variable {blanks : List Char}

lemma skipBlanks_append (h : IsBlank blanks) (cs : List Char) :
    skipBlanks (blanks ++ cs) = skipBlanks cs := by
  refine List.dropWhile_append_of_pos fun c hc => ?_
  simpa [or_assoc] using h c hc

lemma skipBlanks_skipBlanks (cs : List Char) : skipBlanks (skipBlanks cs) = skipBlanks cs :=
  List.dropWhile_idempotent _ _

lemma value_skipBlanks (fuel : Nat) (cs : List Char) :
    value fuel (skipBlanks cs) = value fuel cs := by
  cases fuel <;> simp only [value, skipBlanks_skipBlanks]

lemma value_append (h : IsBlank blanks) (fuel : Nat) (cs : List Char) :
    value fuel (blanks ++ cs) = value fuel cs := by
  rw [← value_skipBlanks, skipBlanks_append h, value_skipBlanks]

lemma items_skipBlanks (fuel : Nat) (cs : List Char) :
    items fuel (skipBlanks cs) = items fuel cs := by
  cases fuel <;> simp only [items, value_skipBlanks]

lemma members_skipBlanks (fuel : Nat) (cs : List Char) :
    members fuel (skipBlanks cs) = members fuel cs := by
  cases fuel <;> simp only [members, skipBlanks_skipBlanks]

lemma members_append (h : IsBlank blanks) (fuel : Nat) (cs : List Char) :
    members fuel (blanks ++ cs) = members fuel cs := by
  rw [← members_skipBlanks, skipBlanks_append h, members_skipBlanks]

lemma endsNumber_append (h : IsBlank blanks) (hrest : EndsNumber rest) :
    EndsNumber (blanks ++ rest) := by
  cases blanks with
  | nil => exact hrest
  | cons c blanks =>
    refine endsNumber_cons ?_ _
    have hc := h c List.mem_cons_self
    simp only [List.mem_cons, List.not_mem_nil, or_false] at hc
    rcases hc with rfl | rfl | rfl | rfl <;> decide

/-! ### Lists and tables -/

/-- Where blanks stand in a list or table: before every item, behind the colon of a member, and
before the closing bracket. -/
structure Spacing where
  front : List Char
  colon : List Char
  back : List Char
  front_blank : IsBlank front
  colon_blank : IsBlank colon
  back_blank : IsBlank back

namespace Spacing

def tight : Spacing where
  front := []
  colon := []
  back := []
  front_blank := by rintro _ ⟨⟩
  colon_blank := by rintro _ ⟨⟩
  back_blank := by rintro _ ⟨⟩

lemma isBlank_margin (n : Nat) : IsBlank ('\n' :: List.replicate n ' ') := by
  refine List.forall_mem_cons.mpr ⟨by decide, fun c hc => ?_⟩
  rw [List.eq_of_mem_replicate hc]
  decide

/-- The items stand on lines of their own. -/
def block (indent : Nat) : Spacing where
  front := '\n' :: List.replicate (indent + 2) ' '
  colon := [' ']
  back := '\n' :: List.replicate indent ' '
  front_blank := isBlank_margin _
  colon_blank := by simp [IsBlank]
  back_blank := isBlank_margin _

variable (spacing : Spacing)

def spaced (items : List (List Char)) : List Char := Text.join ',' (items.map (spacing.front ++ ·))

def enclosed (left right : Char) (items : List (List Char)) : List Char :=
  left :: (spacing.spaced items ++ (spacing.back ++ [right]))

@[simp] lemma spaced_nil : spacing.spaced [] = [] := rfl

lemma spaced_cons_cons (item item' : List Char) (items : List (List Char)) :
    spacing.spaced (item :: item' :: items) =
      spacing.front ++ item ++ ',' :: spacing.spaced (item' :: items) := rfl

end Spacing

structure Piece where
  text : List Char
  json : Json
  spells : Spells text json

variable {spacing : Spacing}

lemma Piece.value_eq (p : Piece) {fuel : Nat} (hfuel : (blanks ++ p.text).length ≤ fuel)
    (hblanks : IsBlank blanks) (hrest : EndsNumber rest) :
    value (fuel + 1) (blanks ++ (p.text ++ rest)) = some (p.json, rest) := by
  rw [List.length_append] at hfuel
  rw [value_append hblanks, p.spells.value_eq fuel rest (by omega) hrest]

lemma skipBlanks_back {c : Char} (hc : c ∉ [' ', '\n', '\t', '\r']) (rest : List Char) :
    skipBlanks (spacing.back ++ c :: rest) = c :: rest := by
  rw [skipBlanks_append spacing.back_blank, skipBlanks_cons hc]

lemma endsNumber_comma (more : List Char) : EndsNumber (',' :: more) :=
  endsNumber_cons (by decide) more

/-- Items with commas between them are read back up to the end of the list. -/
lemma items_spaced (spacing : Spacing) (p : Piece) (ps : List Piece) {fuel : Nat}
    (hfuel : (spacing.spaced ((p :: ps).map Piece.text)).length ≤ fuel) (rest : List Char) :
    items (fuel + 2) (spacing.spaced ((p :: ps).map Piece.text) ++ (spacing.back ++ ']' :: rest)) =
      some ((p :: ps).map Piece.json, rest) := by
  induction ps generalizing p fuel with
  | nil =>
    have hends : EndsNumber (spacing.back ++ ']' :: rest) :=
      endsNumber_append spacing.back_blank (endsNumber_cons (by decide) rest)
    have hvalue := p.value_eq hfuel spacing.front_blank hends
    have htext : spacing.spaced ([p].map Piece.text) = spacing.front ++ p.text := rfl
    rw [htext, List.append_assoc, items, hvalue]
    simp [skipBlanks_back]
  | cons p' ps ih =>
    -- One item takes one unit of fuel and at least the comma behind it.
    have htext := spacing.spaced_cons_cons p.text p'.text (ps.map Piece.text)
    simp only [List.map_cons] at hfuel ⊢
    rw [htext] at hfuel ⊢
    rw [List.length_append, List.length_cons] at hfuel
    obtain ⟨fuel, rfl⟩ := Nat.exists_eq_add_one_of_ne_zero (show fuel ≠ 0 by omega)
    have hvalue := p.value_eq (show _ ≤ fuel + 1 by omega) spacing.front_blank
      (endsNumber_comma (spacing.spaced ((p' :: ps).map Piece.text) ++
        (spacing.back ++ ']' :: rest)))
    have hmore := ih p' (show _ ≤ fuel by simp only [List.map_cons]; omega)
    simp only [List.map_cons] at hvalue hmore
    rw [List.append_assoc, List.append_assoc, List.cons_append, items, hvalue]
    simp [skipBlanks_cons, hmore]

def Spacing.member (spacing : Spacing) (m : String × Piece) : List Char :=
  '"' :: (m.1.toList.flatMap escape ++ '"' :: ':' :: (spacing.colon ++ m.2.text))

lemma length_member (spacing : Spacing) (m : String × Piece) :
    (spacing.colon ++ m.2.text).length + 2 ≤ (spacing.member m).length := by
  simp only [Spacing.member, List.length_cons, List.length_append]
  omega

/-- Members with commas between them are read back up to the end of the table. -/
lemma members_spaced (spacing : Spacing) (m : String × Piece) (ms : List (String × Piece))
    {fuel : Nat}
    (hfuel : (spacing.spaced ((m :: ms).map spacing.member)).length ≤ fuel) (rest : List Char) :
    members (fuel + 2)
        (spacing.spaced ((m :: ms).map spacing.member) ++ (spacing.back ++ '\x7d' :: rest)) =
      some ((m :: ms).map fun m => (some m.1, m.2.json), rest) := by
  have hlength := length_member spacing m
  induction ms generalizing m fuel with
  | nil =>
    have htext : spacing.spaced ([m].map spacing.member) = spacing.front ++ spacing.member m := rfl
    rw [htext] at hfuel ⊢
    rw [List.length_append] at hfuel
    have hends : EndsNumber (spacing.back ++ '\x7d' :: rest) :=
      endsNumber_append spacing.back_blank (endsNumber_cons (by decide) rest)
    have hvalue := m.2.value_eq (show _ ≤ fuel by omega) spacing.colon_blank hends
    rw [List.append_assoc, members_append spacing.front_blank, Spacing.member, List.cons_append,
      List.append_assoc, List.cons_append, List.cons_append, List.append_assoc, members]
    simp [skipBlanks_cons, string_text, hvalue, skipBlanks_back]
  | cons m' ms ih =>
    have htext := spacing.spaced_cons_cons (spacing.member m) (spacing.member m')
      (ms.map spacing.member)
    simp only [List.map_cons] at hfuel ⊢
    rw [htext] at hfuel ⊢
    rw [List.length_append, List.length_append, List.length_cons] at hfuel
    obtain ⟨fuel, rfl⟩ := Nat.exists_eq_add_one_of_ne_zero (show fuel ≠ 0 by omega)
    have hvalue := m.2.value_eq (show _ ≤ fuel + 1 by omega) spacing.colon_blank
      (endsNumber_comma (spacing.spaced ((m' :: ms).map spacing.member) ++
        (spacing.back ++ '\x7d' :: rest)))
    have hless : (spacing.spaced ((m' :: ms).map spacing.member)).length ≤ fuel := by
      simp only [List.map_cons]
      omega
    have hmore := ih m' hless (length_member spacing m')
    simp only [List.map_cons] at hvalue hmore
    rw [List.append_assoc, List.append_assoc, members_append spacing.front_blank]
    simp only [Spacing.member, List.cons_append, List.append_assoc] at hvalue hmore ⊢
    rw [members]
    simp [skipBlanks_cons, string_text, hvalue, hmore]

/-- The text after the bracket that opens a list or table, without the blanks there. -/
lemma exists_skipBlanks_spaced (spacing : Spacing) {item more : List Char} {c : Char}
    (hitem : item = c :: more) (hc : c ∉ [' ', '\n', '\t', '\r']) (items : List (List Char))
    (rest : List Char) :
    ∃ tail, skipBlanks (spacing.spaced (item :: items) ++ rest) = c :: tail := by
  subst hitem
  cases items with
  | nil =>
    have htext : spacing.spaced [c :: more] = spacing.front ++ c :: more := rfl
    rw [htext, List.append_assoc, skipBlanks_append spacing.front_blank]
    exact ⟨_, skipBlanks_cons hc _⟩
  | cons item' items =>
    rw [Spacing.spaced_cons_cons, List.append_assoc, List.append_assoc,
      skipBlanks_append spacing.front_blank]
    exact ⟨_, skipBlanks_cons hc _⟩

/-- **A list is read back** if its items are, wherever blanks stand in it. -/
theorem spells_array (spacing : Spacing) (ps : List Piece) :
    Spells (spacing.enclosed '[' ']' (ps.map Piece.text)) (.array (ps.map Piece.json)) := by
  refine ⟨⟨'[', _, rfl, by decide⟩, fun fuel rest hfuel _ => ?_⟩
  rw [Spacing.enclosed] at hfuel ⊢
  rw [List.length_cons, List.length_append, List.length_append, List.length_singleton] at hfuel
  rw [List.cons_append, List.append_assoc, List.append_assoc, List.singleton_append, value,
    skipBlanks_cons (by decide)]
  cases ps with
  | nil =>
    simp [skipBlanks_back]
  | cons p ps =>
    obtain ⟨fuel, rfl⟩ : ∃ n, fuel = n + 2 := ⟨fuel - 2, by omega⟩
    have hread := items_spaced spacing p ps (show _ ≤ fuel by omega) rest
    obtain ⟨c, more, htext, hc⟩ := p.spells.opens
    obtain ⟨hblank, hend⟩ : c ∉ [' ', '\n', '\t', '\r'] ∧ c ≠ ']' := by
      simpa [and_assoc] using hc
    obtain ⟨tail, htail⟩ := exists_skipBlanks_spaced spacing htext hblank
      (ps.map Piece.text) (spacing.back ++ ']' :: rest)
    rw [← items_skipBlanks, List.map_cons, htail] at hread
    simp [htail, hend, hread]

/-- **A table is read back** if its values are, wherever blanks stand in it. -/
theorem spells_object (spacing : Spacing) (ms : List (String × Piece)) :
    Spells (spacing.enclosed '\x7b' '\x7d' (ms.map spacing.member))
      (.object (ms.map fun m => (some m.1, m.2.json))) := by
  refine ⟨⟨'\x7b', _, rfl, by decide⟩, fun fuel rest hfuel _ => ?_⟩
  rw [Spacing.enclosed] at hfuel ⊢
  rw [List.length_cons, List.length_append, List.length_append, List.length_singleton] at hfuel
  rw [List.cons_append, List.append_assoc, List.append_assoc, List.singleton_append, value,
    skipBlanks_cons (by decide)]
  cases ms with
  | nil =>
    simp [skipBlanks_back]
  | cons m ms =>
    obtain ⟨fuel, rfl⟩ : ∃ n, fuel = n + 2 := ⟨fuel - 2, by omega⟩
    have hread := members_spaced spacing m ms (show _ ≤ fuel by omega) rest
    -- A member opens with a quote, so the table does not end at once.
    obtain ⟨tail, htail⟩ := exists_skipBlanks_spaced spacing
      (show spacing.member m = '"' :: _ from rfl) (by decide) (ms.map spacing.member)
      (spacing.back ++ '\x7d' :: rest)
    rw [← members_skipBlanks, List.map_cons, htail] at hread
    simp [htail, hread]

end FlowVerdict.Json.Reader
