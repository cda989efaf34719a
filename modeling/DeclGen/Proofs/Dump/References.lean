import DeclGen.Dump.Reference
import DeclGen.Proofs.Dump.Struct

/-!
# Values that stand for references

A reference has four forms, and `DeclGen.Reference.Represents` says of each which values stand for
it: a text, or an object with the fields of the form and none of another form. What else the object
holds does not matter.

The forms are tried one after the other when a value is decoded, and it is decoded to what it stands
for (`DeclGen.Reference.ofJson?_of_represents`): an earlier form does not fit what is written in a
later one, since it requires a field that is not there. So no value stands for two references. The
proof follows the reference. It looks at the parts of an object one by one, each gathered from the
fields of one name (`DeclGen.Reference.partsOf_eq`).
-/

namespace DeclGen

open Json (FieldSlot IsStruct IsText IsList Whole)

/-- A value is the word for a kind. -/
def DeclKind.IsWord (kind : DeclKind) (v : Json) : Prop :=
  ∃ word, v = .string word ∧ ofKeyword? word = some kind

namespace Reference

mutual

/-- A value **represents** a reference. -/
def Represents : Reference → Json → Prop
  | .simple name, v => IsText name v
  | .array element, v =>
    IsStruct
      [("array", .required (Represents element)), ("param", .forbidden), ("name", .forbidden),
       ("args", .forbidden), ("kind", .forbidden), ("special", .forbidden),
       ("interfaces", .forbidden)] v
  | .param name, v =>
    IsStruct
      [("array", .forbidden), ("param", .required (IsText name)), ("name", .forbidden),
       ("args", .forbidden), ("kind", .forbidden), ("special", .forbidden),
       ("interfaces", .forbidden)] v
  | .named name args kind special interfaces, v =>
    IsStruct
      [("array", .forbidden), ("param", .forbidden), ("name", .required (IsText name)),
       ("args", .defaulted args [] (IsList (RepresentAll args))),
       ("kind", .optional DeclKind.IsWord kind),
       ("special", .optional IsText special),
       ("interfaces", match interfaces with
        | none => .absent
        | some written => .required (IsList (RepresentAll written)))] v
termination_by structural r => r

/-- Values represent references, one by one. -/
def RepresentAll : List Reference → List Json → Prop
  | [], vs => vs = []
  | r :: rs, vs => ∃ w ws, vs = w :: ws ∧ Represents r w ∧ RepresentAll rs ws
termination_by structural rs => rs

end

/-! ### The parts of an object -/

section Parts

variable {α : Type} {value? : Json → Option α} {key : String} {fields : List (String × Json)}

/-- Adds the fields of one name to a part. -/
def gather (value? : Json → Option α) (key : String) (p : Part α) (fields : List (String × Json)) :
    Part α :=
  (fields.filter (·.1 == key)).foldl (fun p f => p.add (value? f.2)) p

theorem gather_self (p : Part α) (v : Json) :
    gather value? key p ((key, v) :: fields) = gather value? key (p.add (value? v)) fields := by
  simp [gather]

theorem gather_other {other : String} (h : other ≠ key) (p : Part α) (v : Json) :
    gather value? key p ((other, v) :: fields) = gather value? key p fields := by
  simp [gather, h]

/-- **Each part of a reference is gathered from the fields of its name.** -/
theorem partsOf_eq (p : Parts) (fields : List (String × Json)) :
    partsOf p fields =
      { array := gather ofJson? "array" p.array fields
        param := gather text? "param" p.param fields
        name := gather text? "name" p.name fields
        args := gather listOfJson? "args" p.args fields
        kind := gather optionalKind? "kind" p.kind fields
        special := gather optionalText? "special" p.special fields
        interfaces := gather optionalListOfJson? "interfaces" p.interfaces fields } := by
  induction fields generalizing p with
  | nil => rfl
  | cons f fields ih =>
    obtain ⟨key, v⟩ := f
    rw [partsOf.eq_def]
    dsimp only
    split
    case h_8 =>
      -- A field of no part.
      rw [ih]
      simp (disch := assumption) only [gather_other]
    all_goals
      rw [ih]
      simp (disch := decide) only [gather_self, gather_other]

theorem gather_of_not_mem (h : key ∉ fields.map Prod.fst) (p : Part α) :
    gather value? key p fields = p := by
  induction fields with
  | nil => rfl
  | cons f fields ih =>
    obtain ⟨other, v⟩ := f
    obtain ⟨hne, hrest⟩ := not_or.mp (mt List.mem_cons.mpr h)
    rw [gather_other (Ne.symm hne), ih hrest]

/-- What is gathered from an object where the field stands at most once. -/
theorem gather_of_once (honce : (fields.map Prod.fst).count key ≤ 1) :
    gather value? key .absent fields =
      (fields.lookup key).elim .absent fun v => Part.absent.add (value? v) := by
  induction fields with
  | nil => rfl
  | cons f fields ih =>
    obtain ⟨other, v⟩ := f
    by_cases h : other = key
    · subst h
      rw [List.map_cons, List.count_cons_self] at honce
      have hrest : other ∉ fields.map Prod.fst := List.count_eq_zero.mp (by omega)
      rw [gather_self, gather_of_not_mem hrest, List.lookup_cons_self, Option.elim_some]
    · rw [List.map_cons, List.count_cons_of_ne h] at honce
      rw [gather_other h, ih honce, List.lookup_cons, beq_false_of_ne (Ne.symm h)]

theorem gather_forbidden (honce : (fields.map Prod.fst).count key ≤ 1)
    (h : FieldSlot.forbidden (fields.lookup key)) : gather value? key .absent fields = .absent := by
  rw [gather_of_once honce, h]
  rfl

variable {P : Json → Prop} {a : α}

theorem required?_gather (hread : ∀ v, P v → value? v = some a)
    (honce : (fields.map Prod.fst).count key ≤ 1) (ha : FieldSlot.required P (fields.lookup key)) :
    (gather value? key .absent fields).required? = some a := by
  rw [gather_of_once honce]
  cases hv : fields.lookup key with
  | none =>
    rw [hv] at ha
    exact ha.elim
  | some v =>
    rw [hv] at ha
    rw [Option.elim_some, hread v ha]
    rfl

theorem getD?_gather_defaulted (hread : ∀ v, P v → value? v = some a)
    (honce : (fields.map Prod.fst).count key ≤ 1) {default : α}
    (ha : FieldSlot.defaulted a default P (fields.lookup key)) :
    (gather value? key .absent fields).getD? default = some a := by
  rw [gather_of_once honce]
  cases hv : fields.lookup key with
  | none =>
    rw [hv] at ha
    exact congrArg some (Eq.symm ha)
  | some v =>
    rw [hv] at ha
    rw [Option.elim_some, hread v ha]
    rfl

theorem getD?_gather_absent {β : Type} {value? : Json → Option (Option β)}
    (hnull : value? .null = some none) (honce : (fields.map Prod.fst).count key ≤ 1)
    (h : FieldSlot.absent (fields.lookup key)) :
    (gather value? key .absent fields).getD? none = some none := by
  refine getD?_gather_defaulted (P := (· = .null)) (fun v hv => hv ▸ hnull) honce ?_
  cases hv : fields.lookup key with
  | none => rfl
  | some v =>
    rw [hv] at h
    exact h

theorem getD?_gather_required {default : α} (hread : ∀ v, P v → value? v = some a)
    (honce : (fields.map Prod.fst).count key ≤ 1) (ha : FieldSlot.required P (fields.lookup key)) :
    (gather value? key .absent fields).getD? default = some a := by
  refine getD?_gather_defaulted hread honce ?_
  cases hv : fields.lookup key with
  | none =>
    rw [hv] at ha
    exact ha.elim
  | some v =>
    rw [hv] at ha
    exact ha

theorem getD?_gather_optional {β : Type} {P : β → Json → Prop} {value? : Json → Option (Option β)}
    (hnull : value? .null = some none) (hread : ∀ b v, P b v → value? v = some (some b))
    (honce : (fields.map Prod.fst).count key ≤ 1) {b? : Option β}
    (h : FieldSlot.optional P b? (fields.lookup key)) :
    (gather value? key .absent fields).getD? none = some b? := by
  cases b? with
  | none => exact getD?_gather_absent hnull honce h
  | some b => exact getD?_gather_required (hread b) honce h

end Parts

/-! ### Decoding a reference -/

theorem text?_of_isText {s : String} (v : Json) (h : IsText s v) : text? v = some s := by
  rw [h]
  rfl

theorem optionalText?_of_isText (s : String) (v : Json) (h : IsText s v) :
    optionalText? v = some (some s) := by
  rw [h]
  rfl

theorem optionalKind?_of_isWord (kind : DeclKind) (v : Json) (h : kind.IsWord v) :
    optionalKind? v = some (some kind) := by
  obtain ⟨word, rfl, hword⟩ := h
  exact congrArg (Option.map some) hword

theorem listOfJson?_of_isList {Q : List Json → Prop} {rs : List Reference}
    (h : ∀ {vs}, Q vs → ofElements? vs = some rs) (v : Json) (hv : IsList Q v) :
    listOfJson? v = some rs := by
  obtain ⟨vs, rfl, hvs⟩ := hv
  rw [listOfJson?, h hvs]

theorem optionalListOfJson?_of_isList {Q : List Json → Prop} {rs : List Reference}
    (h : ∀ {vs}, Q vs → ofElements? vs = some rs) (v : Json) (hv : IsList Q v) :
    optionalListOfJson? v = some (some rs) := by
  obtain ⟨vs, rfl, hvs⟩ := hv
  rw [optionalListOfJson?, h hvs]
  rfl

mutual

/-- **A value is decoded to the reference that it represents.** -/
theorem ofJson?_of_represents : ∀ (r : Reference) {v : Json}, Represents r v → ofJson? v = some r
  | .simple name, v, h => by
    rw [Represents] at h
    rw [h, ofJson?]
  | .array element, v, h => by
    rw [Represents] at h
    obtain ⟨fields, rfl, hfields⟩ := h
    obtain ⟨harray, -⟩ := List.forall_mem_cons.mp hfields
    have helement := required?_gather (fun _ hw => ofJson?_of_represents element hw) harray.1
      harray.2
    rw [ofJson?, partsOf_eq, Parts.reference?, helement]
    rfl
  | .param name, v, h => by
    rw [Represents] at h
    obtain ⟨fields, rfl, hfields⟩ := h
    simp only [List.forall_mem_cons] at hfields
    obtain ⟨harray, hparam, -⟩ := hfields
    have hname := required?_gather (a := name) text?_of_isText hparam.1 hparam.2
    rw [ofJson?, partsOf_eq, Parts.reference?, gather_forbidden harray.1 harray.2, hname]
    rfl
  | .named name args kind special interfaces, v, h => by
    rw [Represents.eq_def] at h
    obtain ⟨fields, rfl, hfields⟩ := h
    simp only [List.forall_mem_cons] at hfields
    obtain ⟨harray, hparam, hname, hargs, hkind, hspecial, hinterfaces, -⟩ := hfields
    have hname := required?_gather (a := name) text?_of_isText hname.1 hname.2
    have hargs := getD?_gather_defaulted
      (listOfJson?_of_isList fun hvs => ofElements?_of_representAll args hvs) hargs.1 hargs.2
    have hkind := getD?_gather_optional rfl optionalKind?_of_isWord hkind.1 hkind.2
    have hspecial := getD?_gather_optional rfl optionalText?_of_isText hspecial.1 hspecial.2
    have hinterfaces : (gather optionalListOfJson? "interfaces" .absent fields).getD? none =
        some interfaces := by
      cases interfaces with
      | none => exact getD?_gather_absent rfl hinterfaces.1 hinterfaces.2
      | some written =>
        exact getD?_gather_required
          (optionalListOfJson?_of_isList fun hvs => ofElements?_of_representAll written hvs)
          hinterfaces.1 hinterfaces.2
    rw [ofJson?, partsOf_eq, Parts.reference?, gather_forbidden harray.1 harray.2,
      gather_forbidden hparam.1 hparam.2, Parts.named?, hname, hargs, hkind, hspecial, hinterfaces]
    rfl

theorem ofElements?_of_representAll :
    ∀ (rs : List Reference) {vs : List Json}, RepresentAll rs vs → ofElements? vs = some rs
  | [], vs, h => by
    rw [RepresentAll] at h
    rw [h, ofElements?]
  | r :: rs, vs, h => by
    rw [RepresentAll] at h
    obtain ⟨w, ws, rfl, hw, hws⟩ := h
    rw [ofElements?, ofJson?_of_represents r hw, ofElements?_of_representAll rs hws]

end

theorem not_represents_null (r : Reference) : ¬ Represents r .null := by
  intro h
  cases ofJson?_of_represents r h

/-- **A reference is decoded from what represents it.** -/
theorem reads_decode : Json.Reads Represents decode := by
  intro r v h hwhole
  rw [decode, Whole.settle hwhole, ok_bind, ofJson?_of_represents r h]

end Reference

end DeclGen
