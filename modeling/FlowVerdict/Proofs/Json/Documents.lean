import FlowVerdict.Proofs.Json.Reader

/-!
Documents written in either form and read again.

On one line there is no blank; in lines that are set in there are blanks, but only where a reader
skips them. Both are spacings of the same lists and tables, so what holds of a list or table with any
spacing gives both, and a value carries the document that either is read as.
-/

namespace FlowVerdict.Json.Reader

open Writer (quote scalar compact compactItems compactMembers compactMembers_eq_map block spread
  spreadItems spreadMembers)

variable {rest : List Char}

/-! ### Values -/

/-- What the writer puts down for the value is read as the document in either form. -/
structure Reads (d : Datum) (j : Json) : Prop where
  compact : Spells (compact d).toList j
  spread : ∀ indent, Spells (spread indent d).toList j

/-- A value with the document that it is read as. -/
structure Value where
  datum : Datum
  json : Json
  reads : Reads datum json

lemma reads_of_scalar {d : Datum} {s : String} {j : Json} (h : scalar d = some s)
    (hs : Spells s.toList j) : Reads d j := by
  have hlist : ∀ items, d ≠ .list items := by rintro _ rfl; cases h
  have htable : ∀ members, d ≠ .table members := by rintro _ rfl; cases h
  have hcompact : compact d = s := by
    rw [Writer.compact, h]
    · rfl
    · exact hlist
    · exact htable
  have hspread : ∀ indent, spread indent d = s := by
    intro indent
    rw [Writer.spread, h]
    · rfl
    · exact hlist
    · exact htable
  exact ⟨hcompact ▸ hs, fun indent => (hspread indent) ▸ hs⟩

lemma reads_null : Reads .null .null := reads_of_scalar rfl spells_null

lemma reads_boolean (b : Bool) : Reads (.boolean b) (.boolean b) :=
  reads_of_scalar rfl (spells_boolean b)

lemma reads_text (s : String) : Reads (.text s) (.string (some s)) :=
  reads_of_scalar rfl (spells_quote s)

lemma reads_natural (n : Nat) : Reads (.integer n) (.number (natural n)) := by
  have hdigits : (toString (n : Int)).toList = Nat.toDigits 10 n := String.toList_ofList
  exact reads_of_scalar rfl (hdigits ▸ spells_natural n)

/-! ### Lists and tables -/

lemma spaced_map (spacing : Spacing) (piece : String) (pieces : List String) :
    spacing.spaced ((piece :: pieces).map String.toList) = spacing.front ++
      (String.intercalate ("," ++ String.ofList spacing.front) (piece :: pieces)).toList := by
  have hcomma : ",".toList = [','] := rfl
  induction pieces generalizing piece with
  | nil => rw [String.intercalate_singleton]; rfl
  | cons piece' pieces ih =>
    rw [String.intercalate_cons_cons]
    simp only [String.toList_append, String.toList_ofList, hcomma, List.append_assoc,
      List.cons_append, List.nil_append]
    rw [← ih piece', ← List.append_assoc]
    rfl

lemma toList_tight (left right : Char) (pieces : List String) :
    (String.singleton left ++ String.intercalate "," pieces ++ String.singleton right).toList =
      Spacing.tight.enclosed left right (pieces.map String.toList) := by
  have hcomma : "," ++ String.ofList Spacing.tight.front = "," := rfl
  rw [String.toList_append, String.toList_append, String.toList_singleton,
    String.toList_singleton]
  cases pieces with
  | nil => rfl
  | cons piece pieces =>
    rw [Spacing.enclosed, spaced_map, hcomma]
    rfl

lemma toList_block_nil (indent : Nat) (left right : Char) :
    (block indent (String.singleton left) (String.singleton right) []).toList =
      Spacing.tight.enclosed left right [] := by
  rw [block, if_pos List.isEmpty_nil, String.toList_append, String.toList_singleton,
    String.toList_singleton]
  rfl

lemma toList_block (indent : Nat) (left right : Char) (piece : String) (pieces : List String) :
    (block indent (String.singleton left) (String.singleton right) (piece :: pieces)).toList =
      (Spacing.block indent).enclosed left right ((piece :: pieces).map String.toList) := by
  rw [block, if_neg (by simp), Spacing.enclosed, spaced_map]
  simp only [String.toList_append, String.toList_singleton, String.toList_ofList,
    List.append_assoc, List.singleton_append]
  rfl

lemma compactItems_eq_map (items : List Datum) : compactItems items = items.map compact := by
  induction items with
  | nil => rw [compactItems, List.map_nil]
  | cons item items ih => rw [compactItems, ih, List.map_cons]

lemma spreadItems_eq_map (indent : Nat) (items : List Datum) :
    spreadItems indent items = items.map (spread (indent + 2)) := by
  induction items with
  | nil => rw [spreadItems, List.map_nil]
  | cons item items ih => rw [spreadItems, ih, List.map_cons]

lemma spreadMembers_eq_map (indent : Nat) (members : List (String × Datum)) :
    spreadMembers indent members =
      members.map fun m => quote m.1 ++ ": " ++ spread (indent + 2) m.2 := by
  induction members with
  | nil => rw [spreadMembers, List.map_nil]
  | cons m members ih => rw [spreadMembers, ih, List.map_cons]

def Value.compactPiece (v : Value) : Piece := ⟨(compact v.datum).toList, v.json, v.reads.compact⟩

def Value.spreadPiece (indent : Nat) (v : Value) : Piece :=
  ⟨(spread indent v.datum).toList, v.json, v.reads.spread indent⟩

theorem reads_list (vs : List Value) :
    Reads (.list (vs.map Value.datum)) (.array (vs.map Value.json)) := by
  constructor
  · have hread := spells_array .tight (vs.map Value.compactPiece)
    have htext := toList_tight '[' ']' ((vs.map Value.datum).map compact)
    rw [compact, compactItems_eq_map]
    simp only [List.map_map] at hread htext ⊢
    exact htext ▸ hread
  · intro indent
    rw [spread, spreadItems_eq_map]
    cases vs with
    | nil =>
      have hread := spells_array .tight []
      exact toList_block_nil indent '[' ']' ▸ hread
    | cons v vs =>
      have hread := spells_array (.block indent) ((v :: vs).map (Value.spreadPiece (indent + 2)))
      have htext := toList_block indent '[' ']' (spread (indent + 2) v.datum)
        ((vs.map Value.datum).map (spread (indent + 2)))
      simp only [List.map_map, List.map_cons] at hread htext ⊢
      exact htext ▸ hread

abbrev Member := String × Value

def readMember (m : Member) : Option String × Json := (some m.1, m.2.json)

lemma tight_member (m : Member) : Spacing.tight.member (m.1, m.2.compactPiece) =
    (quote m.1 ++ ":" ++ compact m.2.datum).toList := by
  have hcolon : ":".toList = [':'] := rfl
  rw [String.toList_append, String.toList_append, List.append_assoc, toList_quote, hcolon]
  rfl

lemma block_member (indent : Nat) (m : Member) :
    (Spacing.block indent).member (m.1, m.2.spreadPiece (indent + 2)) =
      (quote m.1 ++ ": " ++ spread (indent + 2) m.2.datum).toList := by
  have hcolon : ": ".toList = [':', ' '] := rfl
  rw [String.toList_append, String.toList_append, List.append_assoc, toList_quote, hcolon]
  rfl

theorem reads_table (ms : List Member) :
    Reads (.table (ms.map fun m => (m.1, m.2.datum))) (.object (ms.map readMember)) := by
  constructor
  · have hread := spells_object .tight (ms.map fun m => (m.1, m.2.compactPiece))
    have htext := toList_tight '\x7b' '\x7d'
      (ms.map fun m => quote m.1 ++ ":" ++ compact m.2.datum)
    rw [compact, compactMembers_eq_map]
    simp only [List.map_map, Function.comp_def, tight_member] at hread htext ⊢
    exact htext ▸ hread
  · intro indent
    rw [spread, spreadMembers_eq_map]
    cases ms with
    | nil =>
      have hread := spells_object .tight []
      exact toList_block_nil indent '\x7b' '\x7d' ▸ hread
    | cons m ms =>
      have hread := spells_object (.block indent)
        ((m :: ms).map fun m => (m.1, m.2.spreadPiece (indent + 2)))
      have htext := toList_block indent '\x7b' '\x7d'
        (quote m.1 ++ ": " ++ spread (indent + 2) m.2.datum)
        (ms.map fun m => quote m.1 ++ ": " ++ spread (indent + 2) m.2.datum)
      simp only [List.map_map, List.map_cons, Function.comp_def, block_member] at hread htext ⊢
      exact htext ▸ hread

/-! ### Documents -/

namespace Value

def ofNull : Value := ⟨.null, .null, reads_null⟩

def ofText (s : String) : Value := ⟨.text s, .string (some s), reads_text s⟩

def ofNatural (n : Nat) : Value := ⟨.integer n, .number (natural n), reads_natural n⟩

def ofBoolean (b : Bool) : Value := ⟨.boolean b, .boolean b, reads_boolean b⟩

def ofList (vs : List Value) : Value :=
  ⟨.list (vs.map datum), .array (vs.map json), reads_list vs⟩

def ofTable (ms : List Member) : Value :=
  ⟨.table (ms.map fun m => (m.1, m.2.datum)), .object (ms.map readMember), reads_table ms⟩

end Value

lemma endsNumber_of_blanks (h : skipBlanks rest = []) : EndsNumber rest := by
  rintro c more rfl
  have hblank : c ∈ [' ', '\n', '\t', '\r'] := by
    by_contra hc
    cases (skipBlanks_cons hc more).symm.trans h
  simp only [List.mem_cons, List.not_mem_nil, or_false] at hblank
  rcases hblank with rfl | rfl | rfl | rfl <;> decide

lemma document?_of_spells {text : String} {j : Json} (hspells : Spells text.toList j)
    {blanks : String} (h : skipBlanks blanks.toList = []) :
    document? (text ++ blanks) = some j := by
  have hfuel : text.toList.length ≤ 2 * (text.toList ++ blanks.toList).length + 1 := by
    rw [List.length_append]
    omega
  have hvalue := hspells.value_eq _ blanks.toList hfuel (endsNumber_of_blanks h)
  rw [document?, String.toList_append]
  simp only [hvalue, h, List.isEmpty_nil, if_true]

/-- **A document is read back** from its line. -/
theorem document?_compact (v : Value) (blanks : String) (h : skipBlanks blanks.toList = []) :
    document? (compact v.datum ++ blanks) = some v.json :=
  document?_of_spells v.reads.compact h

theorem document?_spread (v : Value) (blanks : String) (h : skipBlanks blanks.toList = []) :
    document? (spread 0 v.datum ++ blanks) = some v.json :=
  document?_of_spells (v.reads.spread 0) h

/-! ### What documents stand for -/

lemma digitValue?_of_isDigit {c : Char} (h : c.isDigit = true) :
    Text.Numeral.digitValue? 10 c = some (c.toNat - '0'.toNat) := by
  obtain ⟨hge, hle⟩ := toNat_of_isDigit h
  have hrange : '0' ≤ c ∧ c ≤ '9' :=
    ⟨UInt32.le_iff_toNat_le.mpr hge, UInt32.le_iff_toNat_le.mpr hle⟩
  have hlt : c.toNat - '0'.toNat < 10 := Nat.lt_succ_of_le (Nat.sub_le_sub_right hle 48)
  rw [Text.Numeral.digitValue?, if_pos hrange, if_pos hlt]

lemma value_natural (n : Nat) : Number.value (natural n).whole = n := by
  have hdigits : ∀ m, ∀ c ∈ Nat.toDigits 10 n,
      m * 10 + (c.toNat - '0'.toNat) = m * 10 + (Text.Numeral.digitValue? 10 c).getD 0 := by
    intro m c hc
    rw [digitValue?_of_isDigit (isDigit_toDigits hc), Option.getD_some]
  calc Number.value (natural n).whole
      = Text.Numeral.value 10 (Nat.toDigits 10 n) := by
        rw [Number.value, natural, List.foldl_map]
        exact List.foldl_ext _ _ 0 hdigits
    _ = n := Text.Numeral.value_digits (by decide) (by decide) n

/-- The document that the value is read as stands for the value. -/
def Value.Stands (v : Value) : Prop := v.json.datum? = some v.datum

namespace Value

lemma stands_ofText (s : String) : (ofText s).Stands := rfl

lemma stands_ofBoolean (b : Bool) : (ofBoolean b).Stands := rfl

lemma stands_ofNatural {n : Nat} (h : n < UInt64.size) : (ofNatural n).Stands := by
  have hvalue := value_natural n
  change (natural n).datum? = some (.integer n)
  rw [Number.datum?, hvalue]
  simp [natural, h]

lemma stands_ofList {vs : List Value} (h : ∀ v ∈ vs, v.Stands) : (ofList vs).Stands := by
  have hitems : itemData? (vs.map json) = some (vs.map datum) := by
    induction vs with
    | nil => rfl
    | cons v vs ih =>
      obtain ⟨hv, hvs⟩ := List.forall_mem_cons.mp h
      have hv' : v.json.datum? = some v.datum := hv
      rw [List.map_cons, itemData?, hv', ih hvs]
      rfl
  exact congrArg (Option.map Datum.list) hitems

lemma stands_ofTable {ms : List Member} (h : ∀ m ∈ ms, m.2.Stands) : (ofTable ms).Stands := by
  have hmembers : memberData? (ms.map readMember) = some (ms.map fun m => (m.1, m.2.datum)) := by
    induction ms with
    | nil => rfl
    | cons m ms ih =>
      obtain ⟨hm, hms⟩ := List.forall_mem_cons.mp h
      have hm' : m.2.json.datum? = some m.2.datum := hm
      rw [List.map_cons, readMember, memberData?, hm', ih hms]
      rfl
  exact congrArg (Option.map Datum.table) hmembers

end Value

end FlowVerdict.Json.Reader

namespace FlowVerdict.Json

/-! ### Looking into documents -/

/-- The value of the first member with a name. -/
def member? (name : String) : Json → Option Json
  | .object members => (members.find? (·.1 == some name)).map Prod.snd
  | _ => none

def text? : Json → Option String
  | .string s => s
  | _ => none

/-- A number without sign, point and exponent, however large. -/
def natural? : Json → Option Nat
  | .number ⟨false, whole, [], none⟩ => some (Number.value whole)
  | _ => none

lemma member?_ofTable (name : String) (ms : List Reader.Member) :
    (Reader.Value.ofTable ms).json.member? name =
      (ms.find? (·.1 == name)).map fun m => m.2.json := by
  have hkeys : ((·.1 == some name) ∘ Reader.readMember) = fun m => m.1 == name := by
    funext m
    simp [Reader.readMember]
  rw [Reader.Value.ofTable, member?, List.find?_map, hkeys, Option.map_map]
  rfl

lemma text?_ofText (s : String) : (Reader.Value.ofText s).json.text? = some s := rfl

lemma natural?_ofNatural (n : Nat) : (Reader.Value.ofNatural n).json.natural? = some n :=
  congrArg some (Reader.value_natural n)

end FlowVerdict.Json
