import DeclGen.Proofs.Emission.Mirror
import DeclGen.Proofs.IndexSignature
import DeclGen.Proofs.Shape
import DeclGen.Proofs.WellFormed
import Mathlib

/-!
# The output is closed

Whatever a project is loaded from, and whatever the catalog knows, the output refers to nothing but
itself: each name that stands in the place of a type, in a member, in an index signature or as a
parent, is the name of a block (`DeclGen.Emission.output_closed`).

Two things meet here. A shape shows only names of declared parts of the type that it is the shape of
(`DeclGen.SourceType.hasDeclared_of_mem_names`), and a part that is marked as declared is declared
(`DeclGen.Project.WellFormed`). A run that comes to its end has made a block for every declaration.
-/

namespace DeclGen

/-- The name in the header of a block. -/
def Block.name : Block → String
  | .interface b => b.name
  | .enum b => b.name

@[simp]
theorem Declaration.name_block (d : Declaration) : d.block.name = d.name := by
  cases d <;> rfl

namespace Emission

open Project (WellFormed)
open SourceType (HasDeclared)

/-- A name that units **emit**: there is a block of that name. -/
def Emits (units : List SourceUnit) (name : String) : Prop :=
  ∃ d ∈ declarationsOf units, d.block.name = name

/-- What is shown of a type **is closed**. -/
structure Closed (units : List SourceUnit) (t : SourceType) : Prop where
  /-- A name that is shown is that of a declared part of the type, and of a block. -/
  names : ∀ name ∈ t.shape.names, HasDeclared name t ∧ Emits units name
  /-- What is shown is a type expression over such names. -/
  text : Shape.Expression (fun name => HasDeclared name t ∧ Emits units name) t.shape.text

variable {units : List SourceUnit}

theorem emits_of_wellFormed {q : NamedType} (h : WellFormed units q) (hq : q.declared = true) :
    Emits units q.name := by
  obtain ⟨⟨D, hD, _⟩, -⟩ := h.declared hq
  refine ⟨D, List.mem_of_find?_eq_some hD, ?_⟩
  have hname := List.find?_some hD
  rw [Declaration.name_block]
  exact eq_of_beq hname

/-- **What is shown of a well-formed type is closed.** -/
theorem closed_of_wellFormed {t : SourceType} (h : t.Everywhere (WellFormed units)) :
    Closed units t := by
  have hnames : ∀ name ∈ t.shape.names, HasDeclared name t ∧ Emits units name := by
    intro name hname
    have ht := SourceType.hasDeclared_of_mem_names t hname
    refine ⟨ht, ?_⟩
    obtain ⟨q, hq, hdecl, rfl⟩ := ht
    exact emits_of_wellFormed (h q hq) hdecl
  exact ⟨hnames, Shape.expression_text _ hnames⟩

/-- **The output is closed**, for every project and every configuration under which a run comes to
its end.

The output has a block for every declaration. What is shown of a member's type is closed. An index
signature shows a type argument of an inherited interface, and what it shows is closed. A parent is
a declared base, and has a block. -/
theorem output_closed {catalog : Catalog} {dumps : List (String × Dump)} {p : Project}
    (h : Project.ofDumps catalog dumps = .ok p) {c : Config}
    (hc : (emitUnits c p.units).outcome = .ok ()) :
    (emitUnits c p.units).text =
        String.join ((declarationsOf p.units).map fun d => d.block.text c.keyword) ∧
      ∀ D, .type D ∈ declarationsOf p.units →
        (∀ m ∈ D.members, Closed p.units m.type) ∧
        (∀ sig, D.indexSignature? = some sig → ∃ j ∈ D.allInterfaces, ∃ s ∈ j.args,
          sig.value = s.shape ∧ Closed p.units s) ∧
        ∀ name, D.parent? = some name →
          Emits p.units name ∧ ∃ t, D.base = some t ∧ t.declared = true ∧ t.name = name := by
  refine ⟨?_, fun D hD => ?_⟩
  · rw [text_eq_blocks hc, Emitter.blocks]
    simp only [Declaration.text_block]
  have hwell := Project.everywhere_wellFormed h hD
  refine ⟨fun m hm => ?_, fun sig hsig => ?_, fun name hname => ?_⟩
  · refine closed_of_wellFormed (hwell _ (List.mem_append_left _ ?_))
    exact List.mem_append_right _ (List.mem_map_of_mem hm)
  · obtain ⟨units, _, hlink⟩ := Project.ofDumps_ok h
    obtain ⟨j, hj, hone⟩ := IndexSignature.exists_of_ofInterfaces? hsig
    obtain ⟨s, hs, hvalue⟩ := IndexSignature.value_of_ofInterfaces? hone
    have hj' := Inheritance.mem_allInterfaces_of_mem_signatureInterfaces hlink hD hj
    have harg := List.mem_of_getLast? hs
    refine ⟨j, hj', s, harg, hvalue, closed_of_wellFormed ?_⟩
    exact (hwell _ (List.mem_append_right _ (List.mem_map_of_mem hj'))).of_mem_args harg
  · obtain ⟨t, ht, rfl⟩ := Option.map_eq_some_iff.mp hname
    obtain ⟨hbase, hdecl⟩ := Option.filter_eq_some_iff.mp ht
    refine ⟨emits_of_wellFormed (hwell (.named t) ?_ t .self) hdecl, t, hbase, hdecl, rfl⟩
    refine List.mem_append_left _ (List.mem_append_left _ (List.mem_map_of_mem ?_))
    exact List.mem_append_left _ (by simp [hbase])

/-- One unit: a shop sells items and is one, and has a bag of them in stock. -/
def shops : List (String × Dump) :=
  [("shops",
    ⟨[.type .classType { name := "Item" },
      .type .classType
        { name := "Shop", base := some (.simple "Item")
          interfaces := [.named "IEnumerable" [.simple "Item"] none none none]
          members :=
            [{ name := "Stock", type := .named "Bag" [.simple "Item"] none none none }] }]⟩)]

/-- An item, resolved. -/
def item : SourceType := .named (.ofDeclared "Item" .classType [])

/-- The enumerable of some elements, resolved. -/
def enumerable (element : SourceType) : NamedType :=
  { name := "IEnumerable", kind := .interfaceType, special := .genericEnumerable
    args := [element] }

/-- The type of the stock, which is no declared type. -/
def stockType : SourceType :=
  .named { name := "Bag", kind := .classType, args := [item]
           interfaces := [.named (enumerable (.array item))] }

/-- The shop, loaded. -/
def loadedShop : TypeDecl :=
  { name := "Shop", kind := .classType, base := some (.ofDeclared "Item" .classType [])
    interfaces := [enumerable item], allInterfaces := [enumerable item]
    members := [{ name := "Stock", type := stockType }] }

/-- The shops, loaded. -/
def loadedShops : Project :=
  { units := [{ name := "shops", declarations :=
      [.type { name := "Item", kind := .classType }, .type loadedShop] }]
    registry := Project.registryOf shops }

theorem ofDumps_shops : Project.ofDumps Project.bagCatalog shops = .ok loadedShops := by cbv

theorem output_closed_shops :
    Project.ofDumps Project.bagCatalog shops = .ok loadedShops ∧
      (emitUnits {} loadedShops.units).outcome = .ok () ∧
      stockType.shape.text = "Item[][]" ∧ stockType.shape.names = ["Item"] ∧
      Closed loadedShops.units stockType ∧
      loadedShop.indexSignature? = some (.indexed (.declared "Item")) ∧
      loadedShop.parent? = some "Item" ∧ Emits loadedShops.units "Item" := by
  have hc : (emitUnits {} loadedShops.units).outcome = .ok () :=
    congrArg Written.outcome (emitUnits_of_accepted fun _ _ =>
      Declaration.refusal?_eq_none fun hc => absurd hc (by decide))
  obtain ⟨-, hclosed⟩ := output_closed ofDumps_shops hc
  obtain ⟨hmembers, -, hparent⟩ := hclosed loadedShop (.tail _ (.head _))
  have hstock : Closed loadedShops.units stockType :=
    hmembers { name := "Stock", type := stockType } (.head _)
  have hitem : loadedShop.parent? = some "Item" := by cbv
  exact ⟨ofDumps_shops, hc, by cbv, by cbv, hstock, by cbv, hitem, (hparent "Item" hitem).1⟩

end Emission

end DeclGen
