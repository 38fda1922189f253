import FlowVerdict.Proofs.Text.Split
import FlowVerdict.Text.Blank
import Mathlib.Data.List.DropRight
import Mathlib.Data.List.Forall2
import Mathlib.Tactic.Lemma
import Mathlib.Tactic.SplitIfs

/-!
What a reader of texts may overlook: blanks around a text, and the case of its letters. A text is
trimmed to what stands between its first and its last character that is not blank, and a word is
known by its letters, each in the one case or the other.
-/

namespace FlowVerdict.Text

/-! ### Blanks -/

def Blank (cs : List Char) : Prop := ∀ c ∈ cs, isBlank c = true

/-- The text neither starts nor ends with a blank. -/
structure Tight (cs : List Char) : Prop where
  head : ∀ c, cs.head? = some c → isBlank c = false
  last : ∀ c, cs.getLast? = some c → isBlank c = false

/-- The text without the blanks at either end. -/
structure Trimmed (s text : String) : Prop where
  around : ∃ before after, Blank before ∧ Blank after ∧ s.toList = before ++ text.toList ++ after
  tight : Tight text.toList

lemma tight_of_forall {cs : List Char} (h : ∀ c ∈ cs, isBlank c = false) : Tight cs where
  head c hc := h c (List.mem_of_mem_head? hc)
  last c hc := h c (List.mem_of_mem_getLast? hc)

lemma blank_reverse {cs : List Char} (h : Blank cs) : Blank cs.reverse := fun c hc =>
  h c (List.mem_reverse.mp hc)

lemma head?_dropWhile_isBlank (cs : List Char) :
    ∀ c, (cs.dropWhile isBlank).head? = some c → isBlank c = false := by
  intro c hc
  have hnot := List.head?_dropWhile_not isBlank cs
  rwa [hc] at hnot

lemma trimChars_around {before cs after : List Char} (hbefore : Blank before) (hafter : Blank after)
    (hcs : Tight cs) : trimChars (before ++ cs ++ after) = cs := by
  rw [trimChars, List.append_assoc]
  by_cases hnil : cs = []
  · -- All of it is blank, and the first pass leaves nothing.
    subst hnil
    have hall : Blank (before ++ ([] ++ after)) := List.forall_mem_append.mpr ⟨hbefore, hafter⟩
    rw [List.dropWhile_eq_nil_iff.mpr hall]
    rfl
  · have hhead : ∀ c more, cs ++ after = c :: more → isBlank c = false := by
      intro c more h
      refine hcs.head c ?_
      rw [← List.head?_append_of_ne_nil cs hnil, h]
      rfl
    have hlast : ∀ c more, cs.reverse = c :: more → isBlank c = false := by
      intro c more h
      refine hcs.last c ?_
      rw [← List.head?_reverse, h]
      rfl
    rw [dropWhile_append_of_stop hbefore hhead, List.reverse_append,
      dropWhile_append_of_stop (blank_reverse hafter) hlast, List.reverse_reverse]

lemma trim_around {before after : List Char} {text : String} (hbefore : Blank before)
    (hafter : Blank after) (htext : Tight text.toList) :
    trim (String.ofList (before ++ text.toList ++ after)) = text := by
  rw [trim, String.toList_ofList, trimChars_around hbefore hafter htext, String.ofList_toList]

lemma trimChars_append_blank (cs : List Char) :
    ∃ after, Blank after ∧ cs.dropWhile isBlank = trimChars cs ++ after :=
  ⟨(cs.dropWhile isBlank).rtakeWhile isBlank, fun _ hc => List.mem_rtakeWhile_imp hc,
    List.rdropWhile_append_rtakeWhile.symm⟩

lemma tight_trimChars (cs : List Char) : Tight (trimChars cs) where
  head := by
    intro c hc
    obtain ⟨after, -, hafter⟩ := trimChars_append_blank cs
    refine head?_dropWhile_isBlank cs c ?_
    rw [hafter, List.head?_append, hc, Option.some_or]
  last := by
    intro c hc
    rw [trimChars, List.getLast?_reverse] at hc
    exact head?_dropWhile_isBlank _ c hc

/-- **Trimming** takes away the blanks at either end of a text and nothing else. -/
theorem trimmed_trim (s : String) : Trimmed s (trim s) := by
  rw [trim]
  constructor
  · obtain ⟨after, hafter, hrest⟩ := trimChars_append_blank s.toList
    refine ⟨s.toList.takeWhile isBlank, after, fun _ hc => List.mem_takeWhile_imp hc, hafter, ?_⟩
    rw [String.toList_ofList, List.append_assoc, ← hrest, List.takeWhile_append_dropWhile]
  · rw [String.toList_ofList]
    exact tight_trimChars s.toList

/-! ### Cases -/

/-- The character is the given one or its capital. -/
def InEitherCase (c letter : Char) : Prop := c = letter ∨ c = letter.toUpper

/-- The text is the word, each letter in either case. -/
def Respells (s word : String) : Prop := List.Forall₂ InEitherCase s.toList word.toList

lemma respells_self (word : String) : Respells word word :=
  List.forall₂_same.mpr fun _ _ => .inl rfl

lemma toNat_toLower (c : Char) :
    c.toLower.toNat = if 65 ≤ c.toNat ∧ c.toNat ≤ 90 then c.toNat + 32 else c.toNat := by
  split
  · next hc =>
    have hle : c.val.toNat ≤ 90 := hc.2
    have hcapital : 'A'.val ≤ c.val ∧ c.val ≤ 'Z'.val := hc
    have hsmall : c.toLower = _ := dif_pos hcapital
    have hshift : ('a'.val - 'A'.val).toNat = 32 := rfl
    rw [hsmall, ← Char.toNat_val, UInt32.toNat_add, hshift, ← Char.toNat_val]
    omega
  · next hc => exact congrArg Char.toNat (dif_neg hc)

lemma toNat_toUpper (c : Char) :
    c.toUpper.toNat = if 97 ≤ c.toNat ∧ c.toNat ≤ 122 then c.toNat - 32 else c.toNat := by
  split
  · next hc =>
    have hle : 97 ≤ c.val.toNat ∧ c.val.toNat ≤ 122 := hc
    have hsmall : 'a'.val ≤ c.val ∧ c.val ≤ 'z'.val := hc
    have hcapital : c.toUpper = _ := dif_pos hsmall
    -- The shift is downwards: the difference of the two letters wraps around.
    have hshift : ('A'.val - 'a'.val).toNat = 4294967264 := rfl
    rw [hcapital, ← Char.toNat_val, UInt32.toNat_add, hshift, ← Char.toNat_val]
    omega
  · next hc => exact congrArg Char.toNat (dif_neg hc)

lemma toLower_eq_iff {c letter : Char} (hletter : letter.isUpper = false) :
    c.toLower = letter ↔ InEitherCase c letter := by
  have hcapital : ¬(65 ≤ letter.toNat ∧ letter.toNat ≤ 90) := of_decide_eq_false hletter
  have hlower := toNat_toLower c
  have hupper := toNat_toUpper letter
  simp only [InEitherCase, ← Char.toNat_inj, hlower, hupper]
  split_ifs <;> omega

/-- **A word in lower case** is what a text is turned into if it spells the word in any case. -/
theorem lowerAscii_eq_iff {s word : String} (hword : ∀ c ∈ word.toList, c.isUpper = false) :
    lowerAscii s = word ↔ Respells s word := by
  rw [lowerAscii, ← String.toList_inj, String.toList_ofList, Respells]
  generalize s.toList = cs
  generalize word.toList = letters at hword ⊢
  induction letters generalizing cs with
  | nil => simp
  | cons letter letters ih =>
    obtain ⟨hletter, hletters⟩ := List.forall_mem_cons.mp hword
    cases cs with
    | nil => simp
    | cons c cs =>
      rw [List.map_cons, List.cons.injEq, List.forall₂_cons, toLower_eq_iff hletter, ih cs hletters]

end FlowVerdict.Text
