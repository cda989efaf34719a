import DeclGen.Dump.Basic
import DeclGen.Proofs.Dump.References
import Mathlib

/-!
# Every value that represents a dump is decoded to it

`DeclGen.Dump.Represents` says which values stand for a dump: what the fields of its objects are,
and that nothing else matters, neither the order of the fields nor other fields, nor whether what is
taken anyway is written or left out. Such a value is decoded to the dump, and it is decoded to it
alone (`DeclGen.Dump.decoded_of_represents`).

The proof goes from the inside to the outside, with one lemma for each sort of thing that is written
(`DeclGen.Json.Reads`), and all records in the same way (`DeclGen.Json.Record.decode_of_isStruct`).
A declaration is different, since it is decoded twice: for its keyword, which may stand anywhere in
it, and then without it (`DeclGen.Dump.declaration_eq`).
-/

namespace DeclGen

open Json (FieldSlot IsStruct IsText IsList IsListOf Reads Whole slot slot_self slot_other)

/-! ### Values that stand for parts of dumps -/

/-- A value is a signed 64-bit integer. -/
inductive Json.IsInt64 (i : Int64) : Json → Prop
  | natural {n : Nat} : (n : Int) = i.toInt → IsInt64 i (.number (.natural n))
  | negative {n : Nat} : -(n : Int) = i.toInt → IsInt64 i (.number (.negative n))

/-- A value **represents** a constant. Only texts, truth values, integers and the absent value are
written in a way of their own. -/
def AttributeValue.Represents : AttributeValue → Json → Prop
  | .string s => IsText s
  | .int i => Json.IsInt64 i
  | .bool b => (· = .bool b)
  | .null => (· = .null)
  | .other => fun _ => False

/-- A value is an object whose fields are the given ones, in this order and each once. -/
def Attribute.IsNamed (named : List (String × AttributeValue)) (v : Json) : Prop :=
  (named.map Prod.fst).Nodup ∧ ∃ fields, v = .object fields none ∧
    List.Forall₂ (fun e f => e.1 = f.1 ∧ e.2.Represents f.2) named fields

/-- A value **represents** an attribute. -/
def Attribute.Represents (a : Attribute) : Json → Prop :=
  IsStruct
    [("name", .required (IsText a.name)),
     ("args", .defaulted a.positional [] (IsListOf AttributeValue.Represents a.positional)),
     ("named", .defaulted a.named [] (Attribute.IsNamed a.named))]

namespace Dump

/-- A value **represents** a member. -/
def Member.Represents (m : Member) : Json → Prop :=
  IsStruct
    [("name", .required (IsText m.name)), ("type", .required m.type.Represents),
     ("attributes", .defaulted m.attributes [] (IsListOf Attribute.Represents m.attributes))]

/-- What stands in the fields of a type declaration, beside its keyword. -/
def TypeDecl.slots (d : TypeDecl) : List (String × FieldSlot) :=
  [("name", .required (IsText d.name)),
   ("type_parameters", .defaulted d.parameters [] (IsListOf IsText d.parameters)),
   ("base", .optional Reference.Represents d.base),
   ("interfaces", .defaulted d.interfaces [] (IsListOf Reference.Represents d.interfaces)),
   ("members", .defaulted d.members [] (IsListOf Member.Represents d.members))]

end Dump

/-- A value **represents** a member of an enum. -/
def EnumMember.Represents (m : EnumMember) : Json → Prop :=
  IsStruct [("name", .required (IsText m.name)), ("value", .optional Json.IsInt64 m.value)]

/-- What stands in the fields of an enum, beside its keyword. -/
def EnumDecl.slots (d : EnumDecl) : List (String × FieldSlot) :=
  [("name", .required (IsText d.name)),
   ("members", .defaulted d.members [] (IsListOf EnumMember.Represents d.members))]

namespace Dump

/-- A value **represents** a declaration. -/
def Declaration.Represents : Declaration → Json → Prop
  | .type kind d => fun v =>
    kind ≠ .enumType ∧ IsStruct (("kind", .required kind.IsWord) :: d.slots) v
  | .enum d => IsStruct (("kind", .required DeclKind.enumType.IsWord) :: d.slots)

/-- A value **represents** a dump. -/
def Represents (u : Dump) : Json → Prop :=
  IsStruct
    [("declarations", .defaulted u.declarations []
        (IsListOf Declaration.Represents u.declarations))]

/-! ### Attributes -/

/-- A natural number that is a signed integer is below the bound of these. -/
theorem lt_signedBound {n : Nat} {i : Int64} (h : (n : Int) = i.toInt) : n < Json.signedBound := by
  have hlt := i.toInt_lt
  rw [← h] at hlt
  unfold Json.signedBound
  omega

theorem ofNat_eq {n : Nat} {i : Int64} (h : (n : Int) = i.toInt) : Int64.ofNat n = i := by
  rw [← Int64.ofInt_eq_ofNat, h, Int64.ofInt_toInt]

theorem reads_int64 : Reads Json.IsInt64 Json.int64 := by
  rintro i _ (h | h) -
  · rw [Json.int64, if_pos (lt_signedBound h), ofNat_eq h]
  · rw [Json.int64, h, Int64.ofInt_toInt]

theorem not_isInt64_null (i : Int64) : ¬ Json.IsInt64 i .null := by
  intro h
  cases h

theorem attributeValue_of_represents {a : AttributeValue} {v : Json} (h : a.Represents v) :
    attributeValue v = a := by
  cases a with
  | string s => rw [show v = .string s from h, attributeValue]
  | bool b => rw [show v = .bool b from h, attributeValue]
  | null => rw [show v = .null from h, attributeValue]
  | other => exact h.elim
  | int i =>
    rcases h with h | h
    · rw [attributeValue, if_pos (lt_signedBound h), ofNat_eq h]
    · rw [attributeValue, h, Int64.ofInt_toInt]

theorem reads_attributeValue :
    Reads AttributeValue.Represents fun v => .ok (attributeValue v) := by
  intro a v h _
  exact congrArg Except.ok (attributeValue_of_represents h)

/-- Settings of different names are kept as they are. -/
theorem collectNamed_of_nodup {settings : List (String × AttributeValue)}
    (h : (settings.map Prod.fst).Nodup) : Attribute.collectNamed settings = settings := by
  have hfold : ∀ later named : List (String × AttributeValue),
      ((named ++ later).map Prod.fst).Nodup →
        later.foldl (fun named e => Attribute.setNamed named e.1 e.2) named = named ++ later := by
    intro later
    induction later with
    | nil => simp
    | cons e later ih =>
      intro named hnodup
      have hnew : named.any (·.1 == e.1) = false := by
        rw [List.map_append, List.nodup_append] at hnodup
        refine List.any_eq_false.mpr fun other hother heq => ?_
        exact hnodup.2.2 other.1 (List.mem_map_of_mem hother) e.1 (.head _) (eq_of_beq heq)
      rw [List.foldl_cons, Attribute.setNamed, hnew, if_neg Bool.false_ne_true, ih]
      · simp
      · simpa using hnodup
  exact hfold settings [] h

theorem reads_namedArguments : Reads Attribute.IsNamed namedArguments := by
  rintro named _ ⟨hnodup, fields, rfl, hfields⟩ -
  have hsettings : fields.map (fun f => (f.1, attributeValue f.2)) = named := by
    induction hfields with
    | nil => rfl
    | cons hf _ ih =>
      obtain ⟨hkey, hvalue⟩ := hf
      rw [List.map_cons, ih hnodup.of_cons, ← hkey, attributeValue_of_represents hvalue]
  rw [namedArguments, hsettings, collectNamed_of_nodup hnodup]

/-- What the fields of an attribute leave in the state. -/
def attributeState (fields : List (String × Json)) : AttributeState where
  name := slot Json.text "name" fields
  positional := slot (Json.listOf fun v => .ok (attributeValue v)) "args" fields
  named := slot namedArguments "named" fields

theorem reads_attribute : Reads Attribute.Represents attributeRecord.decodeWhole := by
  intro a v h hwhole
  refine Json.Record.decode_of_isStruct attributeState h hwhole rfl rfl ?_ ?_ _
  · intro done key v hkey
    simp only [attributeRecord, List.map_cons, List.mem_cons, not_or] at hkey
    simp only [attributeState, slot_other hkey.1, slot_other hkey.2.1, slot_other hkey.2.2.1]
  · intro fields hwholes hslots
    simp only [List.forall_mem_cons] at hslots
    obtain ⟨hname, hargs, hnamed, -⟩ := hslots
    obtain ⟨hname, hname'⟩ := Json.reads_text.required hwholes hname
    obtain ⟨hargs, hargs'⟩ := reads_attributeValue.list.defaulted hwholes hargs
    obtain ⟨hnamed, hnamed'⟩ := reads_namedArguments.defaulted hwholes hnamed
    constructor
    · simp only [attributeRecord, List.forall_mem_cons]
      refine ⟨.of_readable hname (fun _ => rfl) ?_,
        .of_readable hargs (fun _ => rfl) ?_,
        .of_readable hnamed (fun _ => rfl) ?_,
        List.forall_mem_nil _⟩
      all_goals
        intro done v a hfresh ha
        simp (disch := decide) only [attributeState, slot_self hfresh ha, slot_other]
    · simp only [attributeRecord, attributeState, hname', hargs', hnamed']

/-! ### Members -/

/-- What the fields of a member leave in the state. -/
def memberState (fields : List (String × Json)) : MemberState where
  name := slot Json.text "name" fields
  type := slot Reference.decode "type" fields
  attributes := slot (Json.listOf attributeRecord.decodeWhole) "attributes" fields

theorem reads_member : Reads Member.Represents memberRecord.decodeWhole := by
  intro m v h hwhole
  refine Json.Record.decode_of_isStruct memberState h hwhole rfl rfl ?_ ?_ _
  · intro done key v hkey
    simp only [memberRecord, List.map_cons, List.mem_cons, not_or] at hkey
    simp only [memberState, slot_other hkey.1, slot_other hkey.2.1, slot_other hkey.2.2.1]
  · intro fields hwholes hslots
    simp only [List.forall_mem_cons] at hslots
    obtain ⟨hname, htype, hattributes, -⟩ := hslots
    obtain ⟨hname, hname'⟩ := Json.reads_text.required hwholes hname
    obtain ⟨htype, htype'⟩ := Reference.reads_decode.required hwholes htype
    obtain ⟨hattributes, hattributes'⟩ := reads_attribute.list.defaulted hwholes hattributes
    constructor
    · simp only [memberRecord, List.forall_mem_cons]
      refine ⟨.of_readable hname (fun _ => rfl) ?_,
        .of_readable htype (fun _ => rfl) ?_,
        .of_readable hattributes (fun _ => rfl) ?_,
        List.forall_mem_nil _⟩
      all_goals
        intro done v a hfresh ha
        simp (disch := decide) only [memberState, slot_self hfresh ha, slot_other]
    · simp only [memberRecord, memberState, hname', htype', hattributes']

/-! ### Types -/

/-- What the fields of a type declaration leave in the state. -/
def typeState (fields : List (String × Json)) : TypeState where
  name := slot Json.text "name" fields
  parameters := slot (Json.listOf Json.text) "type_parameters" fields
  base := slot (Json.optional Reference.decode) "base" fields
  interfaces := slot (Json.listOf Reference.decode) "interfaces" fields
  members := slot (Json.listOf memberRecord.decodeWhole) "members" fields

theorem reads_type : Reads (fun d => IsStruct d.slots) typeRecord.decodeWhole := by
  intro d v h hwhole
  refine Json.Record.decode_of_isStruct typeState h hwhole rfl rfl ?_ ?_ _
  · intro done key v hkey
    simp only [typeRecord, List.map_cons, List.mem_cons, not_or] at hkey
    simp only [typeState, slot_other hkey.1, slot_other hkey.2.1, slot_other hkey.2.2.1,
      slot_other hkey.2.2.2.1, slot_other hkey.2.2.2.2.1]
  · intro fields hwholes hslots
    simp only [TypeDecl.slots, List.forall_mem_cons] at hslots
    obtain ⟨hname, hparameters, hbase, hinterfaces, hmembers, -⟩ := hslots
    obtain ⟨hname, hname'⟩ := Json.reads_text.required hwholes hname
    obtain ⟨hparameters, hparameters'⟩ := Json.reads_text.list.defaulted hwholes hparameters
    obtain ⟨hbase, hbase'⟩ :=
      Reference.reads_decode.optional hwholes Reference.not_represents_null hbase
    obtain ⟨hinterfaces, hinterfaces'⟩ :=
      Reference.reads_decode.list.defaulted hwholes hinterfaces
    obtain ⟨hmembers, hmembers'⟩ := reads_member.list.defaulted hwholes hmembers
    constructor
    · simp only [typeRecord, List.forall_mem_cons]
      refine ⟨.of_readable hname (fun _ => rfl) ?_,
        .of_readable hparameters (fun _ => rfl) ?_,
        .of_readable hbase (fun _ => rfl) ?_,
        .of_readable hinterfaces (fun _ => rfl) ?_,
        .of_readable hmembers (fun _ => rfl) ?_,
        List.forall_mem_nil _⟩
      all_goals
        intro done v a hfresh ha
        simp (disch := decide) only [typeState, slot_self hfresh ha, slot_other]
    · simp only [typeRecord, typeState, hname', hparameters', hbase', hinterfaces', hmembers']

/-! ### Enums -/

/-- What the fields of an enum member leave in the state. -/
def enumMemberState (fields : List (String × Json)) : EnumMemberState where
  name := slot Json.text "name" fields
  value := slot (Json.optional Json.int64) "value" fields

theorem reads_enumMember : Reads EnumMember.Represents enumMemberRecord.decodeWhole := by
  intro m v h hwhole
  refine Json.Record.decode_of_isStruct enumMemberState h hwhole rfl rfl ?_ ?_ _
  · intro done key v hkey
    simp only [enumMemberRecord, List.map_cons, List.mem_cons, not_or] at hkey
    simp only [enumMemberState, slot_other hkey.1, slot_other hkey.2.1]
  · intro fields hwholes hslots
    simp only [List.forall_mem_cons] at hslots
    obtain ⟨hname, hvalue, -⟩ := hslots
    obtain ⟨hname, hname'⟩ := Json.reads_text.required hwholes hname
    obtain ⟨hvalue, hvalue'⟩ := reads_int64.optional hwholes not_isInt64_null hvalue
    constructor
    · simp only [enumMemberRecord, List.forall_mem_cons]
      refine ⟨.of_readable hname (fun _ => rfl) ?_,
        .of_readable hvalue (fun _ => rfl) ?_,
        List.forall_mem_nil _⟩
      all_goals
        intro done v a hfresh ha
        simp (disch := decide) only [enumMemberState, slot_self hfresh ha, slot_other]
    · simp only [enumMemberRecord, enumMemberState, hname', hvalue']

/-- What the fields of an enum leave in the state. -/
def enumState (fields : List (String × Json)) : EnumState where
  name := slot Json.text "name" fields
  members := slot (Json.listOf enumMemberRecord.decodeWhole) "members" fields

theorem reads_enum : Reads (fun d => IsStruct d.slots) enumRecord.decodeWhole := by
  intro d v h hwhole
  refine Json.Record.decode_of_isStruct enumState h hwhole rfl rfl ?_ ?_ _
  · intro done key v hkey
    simp only [enumRecord, List.map_cons, List.mem_cons, not_or] at hkey
    simp only [enumState, slot_other hkey.1, slot_other hkey.2.1]
  · intro fields hwholes hslots
    simp only [EnumDecl.slots, List.forall_mem_cons] at hslots
    obtain ⟨hname, hmembers, -⟩ := hslots
    obtain ⟨hname, hname'⟩ := Json.reads_text.required hwholes hname
    obtain ⟨hmembers, hmembers'⟩ := reads_enumMember.list.defaulted hwholes hmembers
    constructor
    · simp only [enumRecord, List.forall_mem_cons]
      refine ⟨.of_readable hname (fun _ => rfl) ?_,
        .of_readable hmembers (fun _ => rfl) ?_,
        List.forall_mem_nil _⟩
      all_goals
        intro done v a hfresh ha
        simp (disch := decide) only [enumState, slot_self hfresh ha, slot_other]
    · simp only [enumRecord, enumState, hname', hmembers']

/-! ### Declarations -/

theorem keyword_of_isWord {kind : DeclKind} {v : Json} (h : kind.IsWord v) :
    keyword v = .ok kind := by
  obtain ⟨word, rfl, hword⟩ := h
  rw [keyword, hword]

/-- Fields that are whole and have no keyword among them do not matter for the keyword. -/
theorem keywordOfFields_append {before : List (String × Json)}
    (hwhole : ∀ f ∈ before, f.2.Whole) (hkey : "kind" ∉ before.map Prod.fst)
    (kind? : Option DeclKind) (later : List (String × Json)) :
    keywordOfFields kind? (before ++ later) = keywordOfFields kind? later := by
  induction before with
  | nil => rfl
  | cons f before ih =>
    obtain ⟨hf, hbefore⟩ := List.forall_mem_cons.mp hwhole
    obtain ⟨hne, hrest⟩ := not_or.mp (mt List.mem_cons.mpr hkey)
    rw [List.cons_append, keywordOfFields.eq_def]
    simp only [if_neg (Ne.symm hne), Whole.settle hf, ok_bind]
    exact ih hbefore hrest

/-- **The keyword is found wherever it stands.** -/
theorem keywordOfFields_of_required {fields : List (String × Json)} {kind : DeclKind}
    (hwhole : ∀ f ∈ fields, f.2.Whole) (honce : (fields.map Prod.fst).count "kind" ≤ 1)
    (hkind : FieldSlot.required kind.IsWord (fields.lookup "kind")) :
    keywordOfFields none fields = .ok (some kind) := by
  cases hv : fields.lookup "kind" with
  | none =>
    rw [hv] at hkind
    exact hkind.elim
  | some v =>
    rw [hv] at hkind
    obtain ⟨before, later, rfl, -⟩ := List.lookup_eq_some_iff.mp hv
    obtain ⟨hbefore, hlater⟩ := List.forall_mem_append.mp hwhole
    obtain ⟨-, hlater⟩ := List.forall_mem_cons.mp hlater
    rw [List.map_append, List.map_cons, List.count_append, List.count_cons_self] at honce
    have hfirst : "kind" ∉ before.map Prod.fst := List.count_eq_zero.mp (by omega)
    have hlast : "kind" ∉ later.map Prod.fst := List.count_eq_zero.mp (by omega)
    have hend := keywordOfFields_append hlater hlast (some kind) []
    rw [List.append_nil] at hend
    rw [keywordOfFields_append hbefore hfirst, keywordOfFields, if_pos rfl]
    simp only [keyword_of_isWord hkind, ok_bind, hend]
    rfl

/-- The other fields of a declaration are what they are without its keyword. -/
theorem isStruct_filter {fields : List (String × Json)} {slots : List (String × FieldSlot)}
    (hslots : ∀ s ∈ slots, (fields.map Prod.fst).count s.1 ≤ 1 ∧ s.2 (fields.lookup s.1))
    (hkind : "kind" ∉ slots.map Prod.fst) :
    IsStruct slots (.object (fields.filter (·.1 ≠ "kind")) none) := by
  refine ⟨_, rfl, fun s hs => ?_⟩
  obtain ⟨honce, hslot⟩ := hslots s hs
  have hne : s.1 ≠ "kind" := fun h => hkind (h ▸ List.mem_map_of_mem hs)
  rw [Json.lookup_filter hne]
  exact ⟨(List.Sublist.count_le _ (List.filter_sublist.map _)).trans honce, hslot⟩

/-- A declaration is decoded by its keyword, from its other fields. -/
theorem declaration_eq {kind : DeclKind} {slots : List (String × FieldSlot)} {v : Json}
    (h : IsStruct (("kind", .required kind.IsWord) :: slots) v) (hwhole : v.Whole)
    (hkind : "kind" ∉ slots.map Prod.fst) :
    ∃ body, declaration v = declarationBody kind body ∧ IsStruct slots body ∧ body.Whole := by
  obtain ⟨fields, rfl, hfields⟩ := h
  obtain ⟨hkeyword, hslots⟩ := List.forall_mem_cons.mp hfields
  have hwholes := Json.whole_object.mp hwhole
  refine ⟨_, ?_, isStruct_filter hslots hkind, ?_⟩
  · simp only [declaration, keywordOfFields_of_required hwholes hkeyword.1 hkeyword.2, ok_bind]
    rfl
  · exact Json.whole_object.mpr fun f hf => hwholes f (List.mem_of_mem_filter hf)

theorem reads_declaration : Reads Declaration.Represents declaration := by
  intro d v h hwhole
  cases d with
  | type kind d =>
    obtain ⟨hkind, hstruct⟩ := h
    obtain ⟨body, hbody, hslots, hwhole⟩ := declaration_eq hstruct hwhole (by simp [TypeDecl.slots])
    have htype : declarationBody kind body = (typeRecord.decodeWhole body).map (.type kind) := by
      cases kind with
      | enumType => exact absurd rfl hkind
      | classType | structType | interfaceType => rfl
    rw [hbody, htype, reads_type hslots hwhole]
    rfl
  | enum d =>
    obtain ⟨body, hbody, hslots, hwhole⟩ := declaration_eq h hwhole (by simp [EnumDecl.slots])
    rw [hbody, declarationBody, reads_enum hslots hwhole]
    rfl

/-! ### Dumps -/

/-- A value is decoded to the dump that it represents. -/
theorem reads_dump : Reads Represents ofJson := by
  intro u v h hwhole
  rw [ofJson, Json.Record.decodeStreamed]
  refine Json.Record.decode_of_isStruct (r := record)
    (slot (Json.listOf declaration) "declarations") h hwhole rfl rfl ?_ ?_ _
  · intro done key v hkey
    simp only [record, List.map_cons, List.mem_cons, not_or] at hkey
    exact slot_other hkey.1 v
  · intro fields hwholes hslots
    simp only [List.forall_mem_cons] at hslots
    obtain ⟨hdeclarations, -⟩ := hslots
    obtain ⟨hdeclarations, hdeclarations'⟩ :=
      reads_declaration.list.defaulted hwholes hdeclarations
    constructor
    · simp only [record, List.forall_mem_cons]
      refine ⟨.of_readable hdeclarations (fun _ => rfl) ?_,
        List.forall_mem_nil _⟩
      intro done v a hfresh ha
      exact (slot_self hfresh ha).symm
    · simp only [record, hdeclarations']

/-- A text **is read as** a value, with nothing but blanks behind it. Of the fields of a dump, those
that are not wanted do not show in the value. -/
def IsReadAs (text : String) (v : Json) : Prop :=
  let reading := Json.read outline Json.maxDepth text.toList
  reading.result = v ∧ reading.rest?.map (fun rest => Json.skipBlanks rest.text) = some []

example : IsReadAs "\x7b \x7d " (.object [] none) := by constructor <;> cbv

theorem ofText_of_isReadAs {text : String} {v : Json} {u : Dump} (h : IsReadAs text v)
    (hv : ofJson v = .ok u) : ofText text = .ok u := by
  obtain ⟨hresult, hrest⟩ := h
  obtain ⟨rest, hrest, hblank⟩ := Option.map_eq_some_iff.mp hrest
  simp only [ofText, Json.decodeText, hresult, hv, ok_bind, hrest, hblank]
  rfl

/-- **Every value that represents a dump is decoded to it**, and to no other dump, since it
represents no other. So is every text that is read as the value. -/
theorem decoded_of_represents {u : Dump} {v : Json} (h : u.Represents v) (hwhole : v.Whole) :
    ofJson v = .ok u ∧ (∀ u' : Dump, u'.Represents v → u' = u) ∧
      ∀ text, IsReadAs text v → ofText text = .ok u := by
  have hv := reads_dump h hwhole
  refine ⟨hv, fun u' h' => ?_, fun text htext => ofText_of_isReadAs htext hv⟩
  exact Except.ok.inj ((reads_dump h' hwhole).symm.trans hv)

/-- The type of a stock of things. -/
def stock : Reference :=
  .named "Bag" [.array (.param "T"), .simple "Item"] (some .classType) none
    (some [.named "IBag" [] none none none])

/-- The type of the stock as a value. Its fields stand in another order, and there is a field of no
reference in it. -/
def stockValue : Json :=
  .object
    [("args", .array
        [.object [("members", .null), ("array", .object [("param", .string "T")] none)] none,
         .string "Item"] none),
     ("interfaces", .array [.object [("name", .string "IBag"), ("kind", .null)] none] none),
     ("name", .string "Bag"), ("kind", .string "class")] none

theorem represents_stock : stock.Represents stockValue := by
  simp [stock, stockValue, Reference.Represents, Reference.RepresentAll, IsStruct, IsList, IsText,
    FieldSlot.required, FieldSlot.defaulted, FieldSlot.optional, FieldSlot.absent,
    FieldSlot.forbidden, DeclKind.IsWord,
    DeclKind.ofKeyword?, DeclKind.keywords, List.lookup, -List.lookup_eq_none_iff]

/-- A shop with a stock of things, and the sizes that there are. -/
def shops : Dump where
  declarations :=
    [.type .classType
      { name := "Shop", parameters := ["T"]
        members :=
          [{ name := "Stock", type := stock
             attributes :=
               [{ name := "Counted", positional := [.int (-1), .null]
                  named := [("Name", .string "n")] }] }] },
     .enum { name := "Size", members := [{ name := "Small", value := some 1 }, { name := "Big" }] }]

/-- The shops as a value. The keyword of the shop stands behind its members. -/
def shopsValue : Json :=
  .object
    [("declarations", .array
        [.object
          [("name", .string "Shop"), ("base", .null),
           ("members", .array
              [.object
                [("type", stockValue), ("name", .string "Stock"),
                 ("attributes", .array
                    [.object
                      [("named", .object [("Name", .string "n")] none),
                       ("name", .string "Counted"),
                       ("args", .array [.number (.negative 1), .null] none)] none] none)] none]
              none),
           ("kind", .string "class"), ("note", .bool true), ("note", .null),
           ("type_parameters", .array [.string "T"] none)] none,
         .object
          [("members", .array
              [.object [("value", .number (.natural 1)), ("name", .string "Small")] none,
               .object [("name", .string "Big")] none] none),
           ("kind", .string "enum"), ("name", .string "Size")] none] none)] none

theorem represents_shops : shops.Represents shopsValue := by
  have hone : Json.IsInt64 1 (.number (.natural 1)) := .natural rfl
  have hminus : Json.IsInt64 (-1) (.number (.negative 1)) := .negative rfl
  simp [shops, shopsValue, Represents, Declaration.Represents, TypeDecl.slots, Member.Represents,
    Attribute.Represents, AttributeValue.Represents, Attribute.IsNamed, EnumDecl.slots,
    EnumMember.Represents, IsStruct, IsListOf, IsList, IsText, FieldSlot.required,
    FieldSlot.defaulted, FieldSlot.optional, FieldSlot.absent, DeclKind.IsWord,
    DeclKind.ofKeyword?, DeclKind.keywords, List.lookup,
    -List.lookup_eq_none_iff, represents_stock, hone, hminus]

theorem decoded_of_represents_shops :
    shops.Represents shopsValue ∧ shopsValue.Whole ∧ ofJson shopsValue = .ok shops ∧
      ∀ text, IsReadAs text shopsValue → ofText text = .ok shops := by
  have hwhole : shopsValue.Whole := by cbv
  obtain ⟨hvalue, -, htext⟩ := decoded_of_represents represents_shops hwhole
  exact ⟨represents_shops, hwhole, hvalue, htext⟩

end Dump

end DeclGen
