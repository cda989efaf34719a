import DeclGen.Json.Decode
import DeclGen.Proofs.Outcome

/-!
# Objects that stand for records

A record can be written as an object in many ways. Its fields may stand in any order, other fields
may stand between them, and a field may be left out if its value is the one that is taken then
anyway, or is absent. `DeclGen.Json.IsStruct` says of a value that it is such an object, given what
may stand in the place of each field (`DeclGen.Json.FieldSlot`).

A record is decoded field by field, in the order of the text, into a state that keeps what has been
decoded. What the fields up to some place have left there does not depend on their order: each known
field has left what its value is decoded to, and other fields have left nothing. Decoding such an
object is therefore an induction over its fields (`DeclGen.Json.Record.decodeFields_eq_ok`), with
one step for each field of the record (`DeclGen.Json.Field.Fills`).
-/

namespace DeclGen.Json

/-! ### Slots -/

/-- What may stand in the place of a field, which may be left out. -/
abbrev FieldSlot := Option Json → Prop

namespace FieldSlot

variable {α : Type}

/-- The slot of a field that must be there. -/
def required (P : Json → Prop) : FieldSlot
  | none => False
  | some v => P v

/-- The slot of a field with the value `a`, which is `default` where the field is left out. -/
def defaulted (a default : α) (P : Json → Prop) : FieldSlot
  | none => a = default
  | some v => P v

/-- The slot of a field whose value is absent: it is left out, or `null`. -/
def absent : FieldSlot
  | none => True
  | some v => v = .null

/-- The slot of a field whose value may be absent. -/
def optional (P : α → Json → Prop) : Option α → FieldSlot
  | none => absent
  | some a => required (P a)

/-- The slot of a field that must not be there. -/
def forbidden : FieldSlot :=
  (· = none)

end FieldSlot

/-- An object is a **struct** with some slots: each field that has a slot stands there at most once
and as the slot asks for. The order of the fields does not matter, and nothing is asked of other
fields. -/
def IsStruct (slots : List (String × FieldSlot)) (v : Json) : Prop :=
  ∃ fields, v = .object fields none ∧
    ∀ s ∈ slots, (fields.map Prod.fst).count s.1 ≤ 1 ∧ s.2 (fields.lookup s.1)

/-- A value is a text. -/
def IsText (s : String) (v : Json) : Prop :=
  v = .string s

/-- A value is a list whose elements have some property together. -/
def IsList (Q : List Json → Prop) (v : Json) : Prop :=
  ∃ vs, v = .array vs none ∧ Q vs

/-- A value is a list of what stands for the given things, in this order. -/
def IsListOf {α : Type} (P : α → Json → Prop) (as : List α) : Json → Prop :=
  IsList (List.Forall₂ P as)

/-! ### Whole values -/

/-- A value is **whole** if it has no flaw anywhere. -/
def Whole (v : Json) : Prop :=
  v.flaw? = none

theorem whole_array {vs : List Json} : (array vs none).Whole ↔ ∀ v ∈ vs, v.Whole := by
  have hlist : flawOfList? vs = none ↔ ∀ v ∈ vs, v.Whole := by
    induction vs with
    | nil => simp [flawOfList?]
    | cons v vs ih => simp [flawOfList?, ih, Whole]
  rw [Whole, flaw?, Option.orElse_eq_orElse, Option.orElse_eq_or, Option.or_none, hlist]

theorem whole_object {fields : List (String × Json)} :
    (object fields none).Whole ↔ ∀ f ∈ fields, f.2.Whole := by
  have hfields : flawOfFields? fields = none ↔ ∀ f ∈ fields, f.2.Whole := by
    induction fields with
    | nil => simp [flawOfFields?]
    | cons f fields ih => simp [flawOfFields?, ih, Whole]
  rw [Whole, flaw?, Option.orElse_eq_orElse, Option.orElse_eq_or, Option.or_none, hfields]

theorem Whole.settle {v : Json} (h : v.Whole) : v.settle = .ok () := by
  rw [Json.settle, h]
  rfl

/-! ### Decoders that know what values stand for -/

/-- A decoder **reads** what values stand for: a whole value that stands for something is decoded to
that. -/
def Reads {α : Type} (P : α → Json → Prop) (decode : Json → Decoded α) : Prop :=
  ∀ ⦃a v⦄, P a v → v.Whole → decode v = .ok a

section Reads

variable {α : Type} {P : α → Json → Prop} {decode : Json → Decoded α}

theorem reads_text : Reads IsText text := by
  rintro s _ rfl -
  rfl

theorem Reads.list (h : Reads P decode) : Reads (IsListOf P) (listOf decode) := by
  rintro as _ ⟨vs, rfl, hvs⟩ hwhole
  have hall : List.Forall₂ (fun v a => decode v = .ok a) vs as := by
    have hmem := whole_array.mp hwhole
    clear hwhole
    induction hvs with
    | nil => exact .nil
    | cons hv _ ih =>
      obtain ⟨hfirst, hrest⟩ := List.forall_mem_cons.mp hmem
      exact .cons (h hv hfirst) (ih hrest)
  rw [listOf, mapM_eq_ok.mpr hall]
  rfl

end Reads

/-! ### What a field leaves in the state -/

section Slots

variable {α : Type} {P : α → Json → Prop} {decode : Json → Decoded α} {key : String}
  {fields done : List (String × Json)}

/-- What the value of a field is decoded to, if the field is there. -/
def slot (decode : Json → Decoded α) (key : String) (fields : List (String × Json)) : Option α :=
  (fields.lookup key).bind fun v => (decode v).toOption

theorem lookup_of_not_mem (h : key ∉ done.map Prod.fst) : done.lookup key = none :=
  List.lookup_eq_none_iff.mpr fun _ hp =>
    bne_iff_ne.mpr fun heq => h (heq ▸ List.mem_map_of_mem hp)

theorem lookup_filter {other : String} (h : key ≠ other) :
    (fields.filter (·.1 ≠ other)).lookup key = fields.lookup key := by
  induction fields with
  | nil => rfl
  | cons f fields ih =>
    obtain ⟨name, v⟩ := f
    by_cases hname : name = other
    · subst hname
      rw [List.filter_cons_of_neg (by simp), ih, List.lookup_cons, beq_false_of_ne h]
    · rw [List.filter_cons_of_pos (by simpa using hname), List.lookup_cons, List.lookup_cons, ih]

theorem slot_fresh (h : key ∉ done.map Prod.fst) : slot decode key done = none := by
  rw [slot, lookup_of_not_mem h]
  rfl

theorem slot_other {other : String} (h : other ≠ key) (v : Json) :
    slot decode key (done ++ [(other, v)]) = slot decode key done := by
  have hlast : [(other, v)].lookup key = none :=
    lookup_of_not_mem (by simpa using h.symm)
  rw [slot, List.lookup_append, hlast, Option.or_none, slot]

theorem slot_self (h : key ∉ done.map Prod.fst) {v : Json} {a : α} (hv : decode v = .ok a) :
    slot decode key (done ++ [(key, v)]) = some a := by
  rw [slot, List.lookup_append, lookup_of_not_mem h, List.lookup_cons_self, Option.none_or,
    Option.bind_some, hv]
  rfl

/-- A field is **readable** if its value is decoded, where it is there. -/
def Readable (decode : Json → Decoded α) (key : String) (fields : List (String × Json)) : Prop :=
  ∀ v, fields.lookup key = some v → ∃ a, decode v = .ok a

theorem slot_of_none (decode : Json → Decoded α) (hnone : fields.lookup key = none) :
    Readable decode key fields ∧ slot decode key fields = none := by
  refine ⟨fun v hv => ?_, by rw [slot, hnone]; rfl⟩
  cases hnone.symm.trans hv

theorem slot_of_some {v : Json} {a : α} (hv : fields.lookup key = some v)
    (hok : decode v = .ok a) :
    Readable decode key fields ∧ slot decode key fields = some a := by
  refine ⟨fun w hw => ?_, by rw [slot, hv, Option.bind_some, hok]; rfl⟩
  cases hv.symm.trans hw
  exact ⟨a, hok⟩

theorem whole_of_lookup (hwhole : ∀ f ∈ fields, f.2.Whole) {v : Json}
    (hv : fields.lookup key = some v) : v.Whole := by
  obtain ⟨before, later, rfl, -⟩ := List.lookup_eq_some_iff.mp hv
  exact hwhole (key, v) (by simp)

variable (h : Reads P decode) (hwhole : ∀ f ∈ fields, f.2.Whole)
include h hwhole

theorem Reads.required {a : α} (ha : FieldSlot.required (P a) (fields.lookup key)) :
    Readable decode key fields ∧ slot decode key fields = some a := by
  cases hv : fields.lookup key with
  | none =>
    rw [hv] at ha
    exact ha.elim
  | some v =>
    rw [hv] at ha
    exact slot_of_some hv (h ha (whole_of_lookup hwhole hv))

theorem Reads.defaulted {a default : α}
    (ha : FieldSlot.defaulted a default (P a) (fields.lookup key)) :
    Readable decode key fields ∧ (slot decode key fields).getD default = a := by
  cases hv : fields.lookup key with
  | none =>
    rw [hv] at ha
    obtain ⟨hreadable, hslot⟩ := slot_of_none decode hv
    exact ⟨hreadable, by rw [hslot]; exact Eq.symm ha⟩
  | some v =>
    rw [hv] at ha
    obtain ⟨hreadable, hslot⟩ := slot_of_some hv (h ha (whole_of_lookup hwhole hv))
    exact ⟨hreadable, by rw [hslot]; rfl⟩

theorem Reads.optional (hnull : ∀ a, ¬ P a .null) {a? : Option α}
    (ha : FieldSlot.optional P a? (fields.lookup key)) :
    Readable (Json.optional decode) key fields ∧
      (slot (Json.optional decode) key fields).join = a? := by
  cases hv : fields.lookup key with
  | none =>
    rw [hv] at ha
    obtain ⟨hreadable, hslot⟩ := slot_of_none (Json.optional decode) hv
    refine ⟨hreadable, ?_⟩
    cases a? with
    | none => rw [hslot]; rfl
    | some a => exact ha.elim
  | some v =>
    rw [hv] at ha
    have hok : Json.optional decode v = .ok a? := by
      cases a? with
      | none =>
        cases ha
        rfl
      | some a =>
        have hmap : Json.optional decode v = (decode v).map some := by
          cases v with
          | null => exact absurd ha (hnull a)
          | _ => rfl
        rw [hmap, h ha (whole_of_lookup hwhole hv)]
        rfl
    obtain ⟨hreadable, hslot⟩ := slot_of_some hv hok
    exact ⟨hreadable, by rw [hslot]; rfl⟩

end Slots

/-! ### Decoding the fields of a record -/

section Records

variable {σ α : Type} {fields : List (String × Json)}

/-- A field that stands in an object once does not stand before the place where it stands, and that
is where it is found. -/
theorem fresh_of_once {key : String} {v : Json} {done rest : List (String × Json)}
    (hfields : fields = done ++ (key, v) :: rest) (honce : (fields.map Prod.fst).count key ≤ 1) :
    key ∉ done.map Prod.fst ∧ fields.lookup key = some v := by
  rw [hfields, List.map_append, List.map_cons, List.count_append, List.count_cons_self] at honce
  have hfresh : key ∉ done.map Prod.fst := List.count_eq_zero.mp (by omega)
  refine ⟨hfresh, ?_⟩
  rw [hfields, List.lookup_append, lookup_of_not_mem hfresh, List.lookup_cons_self, Option.none_or]

/-- A field of a record **fills** its place in the state: it leaves there what its value is decoded
to, whatever fields came before it. -/
structure Field.Fills (field : Field σ) (fields : List (String × Json))
    (state : List (String × Json) → σ) : Prop where
  /-- The place is free before the field comes. -/
  free : ∀ done, field.name ∉ done.map Prod.fst → field.isPresent (state done) = false
  step : ∀ done v, field.name ∉ done.map Prod.fst → fields.lookup field.name = some v →
    field.decode v (state done) = .ok (state (done ++ [(field.name, v)]))

/-- A field fills its place if its value can be decoded, and what it is decoded to is put there. -/
theorem Field.Fills.of_readable {γ : Type} {state : List (String × Json) → σ}
    {decode : Json → Decoded γ} {name : String} {get : σ → Option γ} {put : σ → γ → σ}
    (hreadable : Readable decode name fields)
    (hget : ∀ done, get (state done) = slot decode name done)
    (hput : ∀ done v a, name ∉ done.map Prod.fst → decode v = .ok a →
      put (state done) a = state (done ++ [(name, v)])) :
    Field.Fills ⟨name, fun s => (get s).isSome, fun v s => do .ok (put s (← decode v))⟩ fields
      state where
  free done hfresh := by
    simp only [hget, slot_fresh hfresh, Option.isSome_none]
  step done v hfresh hv := by
    obtain ⟨a, ha⟩ := hreadable v hv
    simp only [ha, ok_bind, hput done v a hfresh ha]

/-- **The fields of an object are decoded to a state** that does not depend on their order, if each
known field stands there at most once and fills its place, and other fields leave nothing. -/
theorem Record.decodeFields_eq_ok {r : Record σ α} {state : List (String × Json) → σ}
    (hwhole : ∀ f ∈ fields, f.2.Whole)
    (honce : ∀ field ∈ r.fields, (fields.map Prod.fst).count field.name ≤ 1)
    (hfills : ∀ field ∈ r.fields, field.Fills fields state)
    (hother : ∀ done key v, key ∉ r.fields.map Field.name →
      state (done ++ [(key, v)]) = state done) :
    r.decodeFields (state []) fields = .ok (state fields) := by
  have hrest : ∀ rest done, fields = done ++ rest →
      r.decodeFields (state done) rest = .ok (state fields) := by
    intro rest
    induction rest with
    | nil =>
      intro done hfields
      rw [hfields, List.append_nil]
      rfl
    | cons f rest ih =>
      intro done hfields
      obtain ⟨key, v⟩ := f
      have hnext : fields = (done ++ [(key, v)]) ++ rest := by
        rw [hfields, List.append_assoc]
        rfl
      rw [Record.decodeFields]
      cases hfind : r.fields.find? (·.name == key) with
      | none =>
        have hunknown : key ∉ r.fields.map Field.name := by
          intro hmem
          obtain ⟨field, hfield, rfl⟩ := List.mem_map.mp hmem
          exact List.find?_eq_none.mp hfind field hfield (beq_self_eq_true _)
        have hsettle : v.settle = .ok () := (hwhole (key, v) (by simp [hfields])).settle
        simp only [hsettle, ok_bind]
        rw [← hother done key v hunknown]
        exact ih _ hnext
      | some field =>
        have hname := List.find?_some hfind
        obtain rfl : field.name = key := eq_of_beq hname
        have hfield := List.mem_of_find?_eq_some hfind
        obtain ⟨hfresh, hlookup⟩ := fresh_of_once hfields (honce field hfield)
        simp only [(hfills field hfield).free done hfresh,
          (hfills field hfield).step done v hfresh hlookup, ok_bind]
        exact ih _ hnext
  exact hrest fields [] rfl

/-- **A struct is decoded**, given that its slots let the fields fill their places, and that the
state which they leave is finished. -/
theorem Record.decode_of_isStruct {r : Record σ α} (state : List (String × Json) → σ)
    {slots : List (String × FieldSlot)} {v : Json} {a : α} (hv : IsStruct slots v)
    (hwhole : v.Whole) (hnames : slots.map Prod.fst = r.fields.map Field.name)
    (hstart : state [] = r.start)
    (hother : ∀ done key v, key ∉ r.fields.map Field.name →
      state (done ++ [(key, v)]) = state done)
    (hslots : ∀ fields : List (String × Json), (∀ f ∈ fields, f.2.Whole) →
      (∀ s ∈ slots, s.2 (fields.lookup s.1)) →
        (∀ field ∈ r.fields, field.Fills fields state) ∧ r.finish (state fields) = .ok a)
    (excess : Nat → Fault) : r.decode excess v = .ok a := by
  obtain ⟨fields, rfl, hfields⟩ := hv
  have hwholes := whole_object.mp hwhole
  obtain ⟨hfills, hfinish⟩ := hslots fields hwholes fun s hs => (hfields s hs).2
  have honce : ∀ field ∈ r.fields, (fields.map Prod.fst).count field.name ≤ 1 := by
    intro field hfield
    have hname : field.name ∈ slots.map Prod.fst := hnames ▸ List.mem_map_of_mem hfield
    obtain ⟨s, hs, hkey⟩ := List.mem_map.mp hname
    exact hkey ▸ (hfields s hs).1
  have hdecoded := decodeFields_eq_ok hwholes honce hfills hother
  rw [hstart] at hdecoded
  simp only [Record.decode, hdecoded, ok_bind, hfinish]
  rfl

end Records

end DeclGen.Json
