import DeclGen.Inheritance
import DeclGen.Proofs.Outcome
import Mathlib.Data.List.Basic

/-!
# Linking in place

`DeclGen.Inheritance.link` gives new units. This file links units that are *state*: what is found
for the declarations is written to them one after the other, each list to the place of its
declaration. An error comes from the finding, so it leaves the state as it was.

The two are one (`DeclGen.Inheritance.run_linkInPlace`): the units after a success are those that
`link` gives, and the units after an error are those before it. The writing has to be followed for
this, since a list that is found for one place must not end at another. The invariant is that what
stands before the place of the next write has its lists already and what stands after it has not.
-/

namespace DeclGen

namespace Inheritance

/-- A list of transitive interfaces, and the place that it is for. -/
structure Update where
  unit : Nat
  index : Nat
  types : List NamedType

/-- Writes the list to its place. -/
def Update.write (update : Update) (units : List SourceUnit) : List SourceUnit :=
  units.modify update.unit fun u =>
    { u with declarations := u.declarations.modify update.index (·.withInterfaces update.types) }

/-- The updates with what has been found for the declarations of one unit, the first of which stands
at position `index`. -/
def updatesInUnit (unit index : Nat) : List (List NamedType) → List Update
  | [] => []
  | types :: rest => ⟨unit, index, types⟩ :: updatesInUnit unit (index + 1) rest

/-- The updates with what has been found for units, the first of which has position `unit`. -/
def updatesFrom (unit : Nat) : List (List (List NamedType)) → List Update
  | [] => []
  | found :: rest => updatesInUnit unit 0 found ++ updatesFrom (unit + 1) rest

/-- Links the units that are the state. -/
def linkInPlace (r : Registry) : ExceptT LoadError (StateM (List SourceUnit)) Unit := do
  let units ← get
  let found ← ExceptT.mk (pure (findFrom r units 0 units []))
  (updatesFrom 0 found).forM fun update => modify update.write

/-! ### Writing to a place -/

theorem modify_append_cons {α : Type} (f : α → α) (front : List α) (x : α) (back : List α) :
    (front ++ x :: back).modify front.length f = front ++ f x :: back := by
  induction front with
  | nil => rfl
  | cons y front ih => simpa using ih

/-- A write to a declaration after some units and after some declarations. -/
theorem write_append (front back : List SourceUnit) (u : SourceUnit) (done rest : List Declaration)
    (d : Declaration) (types : List NamedType) :
    (Update.mk front.length done.length types).write
        (front ++ { u with declarations := done ++ d :: rest } :: back) =
      front ++ { u with declarations := done ++ d.withInterfaces types :: rest } :: back := by
  unfold Update.write
  rw [modify_append_cons]
  simp only [modify_append_cons]

/-- Writes one after the other. -/
def writeAll (updates : List Update) (units : List SourceUnit) : List SourceUnit :=
  updates.foldl (fun units update => update.write units) units

theorem writeAll_append (updates later : List Update) (units : List SourceUnit) :
    writeAll (updates ++ later) units = writeAll later (writeAll updates units) :=
  List.foldl_append

/-! ### Writing everywhere -/

/-- A list has been found for every declaration of a unit. -/
def Fits (u : SourceUnit) (found : List (List NamedType)) : Prop :=
  found.length = u.declarations.length

theorem length_findDeclarations (r : Registry) (units : List SourceUnit) (u : Nat)
    (ds : List Declaration) :
    ∀ {i : Nat} {memo memo' : Memo} {found : List (List NamedType)},
      findDeclarations r units u i ds memo = .ok (found, memo') → found.length = ds.length := by
  induction ds with
  | nil =>
    intro i memo memo' found h
    cases h
    rfl
  | cons d ds ih =>
    intro i memo memo' found h
    obtain ⟨_, -, h⟩ := bind_eq_ok.mp h
    obtain ⟨_, hrest, h⟩ := bind_eq_ok.mp h
    cases h
    rw [List.length_cons, List.length_cons, ih hrest]

/-- **Every declaration has its list** after the finding. -/
theorem fits_of_findFrom (r : Registry) (units rest : List SourceUnit) :
    ∀ {u : Nat} {memo : Memo} {found : List (List (List NamedType))},
      findFrom r units u rest memo = .ok found → List.Forall₂ Fits rest found := by
  induction rest with
  | nil =>
    intro u memo found h
    cases h
    exact .nil
  | cons unit rest ih =>
    intro u memo found h
    obtain ⟨_, hunit, h⟩ := bind_eq_ok.mp h
    obtain ⟨_, hrest, h⟩ := bind_eq_ok.mp h
    cases h
    exact .cons (length_findDeclarations r units u _ hunit) (ih hrest)

/-- The writes to one unit. The declarations `done` before `ds` in it have been written to. -/
theorem writeAll_updatesInUnit (front back : List SourceUnit) (u : SourceUnit)
    (ds : List Declaration) :
    ∀ (done : List Declaration) {found : List (List NamedType)}, found.length = ds.length →
      writeAll (updatesInUnit front.length done.length found)
          (front ++ { u with declarations := done ++ ds } :: back) =
        front ++ { u with
          declarations := done ++ List.zipWith Declaration.withInterfaces ds found } :: back := by
  induction ds with
  | nil =>
    intro done found hlength
    obtain rfl := List.eq_nil_of_length_eq_zero hlength
    rfl
  | cons d ds ih =>
    intro done found hlength
    obtain ⟨types, rest, rfl⟩ := List.exists_cons_of_length_eq_add_one hlength
    -- The first write is to `d`; the others find it among the declarations that are done.
    have hrest := ih (done ++ [d.withInterfaces types]) (Nat.succ.inj hlength)
    rw [updatesInUnit, writeAll, List.foldl_cons, write_append, List.zipWith_cons_cons]
    simpa [writeAll] using hrest

/-- The writes to units. The units `front` before them have been written to. -/
theorem writeAll_updatesFrom {rest : List SourceUnit} {found : List (List (List NamedType))}
    (h : List.Forall₂ Fits rest found) (front : List SourceUnit) :
    writeAll (updatesFrom front.length found) (front ++ rest) =
      front ++ List.zipWith SourceUnit.withInterfaces rest found := by
  induction h generalizing front with
  | nil => rfl
  | @cons unit types rest found hunit _ ih =>
    have hfirst : writeAll (updatesInUnit front.length 0 types) (front ++ unit :: rest) =
        front ++ unit.withInterfaces types :: rest :=
      writeAll_updatesInUnit front rest unit unit.declarations [] hunit
    have hrest := ih (front ++ [unit.withInterfaces types])
    rw [updatesFrom, writeAll_append, hfirst, List.zipWith_cons_cons]
    simpa using hrest

/-- Writing to the state is writing to the units that it is. -/
theorem run_forM_write (updates : List Update) (units : List SourceUnit) :
    (updates.forM fun update => modify update.write :
      ExceptT LoadError (StateM (List SourceUnit)) Unit).run.run units =
      (.ok (), writeAll updates units) := by
  induction updates generalizing units with
  | nil => rfl
  | cons update updates ih => exact ih _

/-- **Linking in place is linking**: on success the state is the linked units, and on an error it is
what it was. -/
theorem run_linkInPlace (r : Registry) (units : List SourceUnit) :
    (linkInPlace r).run.run units =
      match link r units with
      | .ok linked => (.ok (), linked)
      | .error e => (.error e, units) := by
  change (ExceptT.bindCont
    (fun found : List (List (List NamedType)) =>
      (updatesFrom 0 found).forM fun update => modify update.write)
    (findFrom r units 0 units []) : StateM (List SourceUnit) (Except LoadError Unit)) units = _
  unfold link
  cases hfound : findFrom r units 0 units [] with
  | error e => rfl
  | ok found =>
    have hwritten := writeAll_updatesFrom (fits_of_findFrom r units units hfound) []
    exact (run_forM_write _ units).trans (congrArg (Prod.mk (Except.ok ())) hwritten)

end Inheritance

end DeclGen
