import DeclGen.Proofs.Emission.Mirror
import DeclGen.Proofs.ReadableBlock
import Mathlib

/-!
# The output determines what was emitted

Under one configuration, two lists of units have the same output exactly if they have the same
blocks: the same sorts and names, the same parents, the same index signatures, the same members and
the same values, in the same order (`DeclGen.Emission.output_eq_iff`). Types are the same here up to
what is written alike anyway, and names have to be words, as identifiers are.

That blocks can be read back is shown in `DeclGen.Proofs.ReadableBlock`. What is shown of a
declaration can be, since a shape shows only names of declared parts of its type
(`DeclGen.SourceType.hasDeclared_of_mem_names`).
-/

namespace DeclGen

open Text

/-! ### Declarations -/

/-- The types that the block of a declaration may show. -/
def TypeDecl.shownTypes (d : TypeDecl) : List SourceType :=
  d.members.map (·.type) ++ d.signatureInterfaces.map .named

/-- A declared type has a name that can stand for it in the output. -/
def NamedTypeOf.HasTypeName (t : NamedType) : Prop :=
  t.declared = true → Shape.IsTypeName t.name

/-- The names that the block of a declaration may show **are words**, and names of declared types
are none of the output language's own. -/
inductive Declaration.HasWords : Declaration → Prop
  | type {d : TypeDecl} (name : IsWord d.name) (parent : ∀ p, d.parent? = some p → IsWord p)
      (members : ∀ m ∈ d.members, IsWord m.outputName)
      (types : ∀ t ∈ d.shownTypes, t.Everywhere NamedTypeOf.HasTypeName) :
      HasWords (.type d)
  | enum {d : EnumDecl} (name : IsWord d.name) (members : ∀ m ∈ d.members, IsWord m.name) :
      HasWords (.enum d)

/-- What is shown of a type can be read back if the names of its declared parts can. -/
theorem SourceType.readable_shape {t : SourceType} (h : t.Everywhere NamedTypeOf.HasTypeName) :
    t.shape.Readable := by
  intro name hname
  obtain ⟨q, hq, hdeclared, rfl⟩ := hasDeclared_of_mem_names t hname
  exact h q hq hdeclared

/-- **The block of a declaration can be read back** if its names are words. -/
theorem Declaration.HasWords.readable_block {d : Declaration} (h : d.HasWords) :
    d.block.Readable := by
  cases h with
  | @type d hname hparent hmembers htypes =>
    refine .interface hname hparent (fun sig hsig => ?_) fun l hl => ?_
    · obtain ⟨j, hj, hone⟩ := IndexSignature.exists_of_ofInterfaces? hsig
      obtain ⟨s, hs, hvalue⟩ := IndexSignature.value_of_ofInterfaces? hone
      rw [IndexSignature.Readable, hvalue]
      have hj : .named j ∈ d.shownTypes := List.mem_append_right _ (List.mem_map_of_mem hj)
      exact SourceType.readable_shape ((htypes _ hj).of_mem_args (List.mem_of_getLast? hs))
    · obtain ⟨m, hm, rfl⟩ := List.mem_map.mp hl
      refine ⟨hmembers m hm, SourceType.readable_shape (htypes m.type ?_)⟩
      exact List.mem_append_left _ (List.mem_map_of_mem hm)
  | @enum d hname hmembers =>
    refine .enum hname fun v hv => ?_
    obtain ⟨m, hm, hvm⟩ := exists_of_mem_right (Emission.forall₂_valuesFrom 0 d.members) hv
    rw [hvm]
    exact hmembers m hm

namespace Emission

variable {c : Config} {us vs : List SourceUnit}

/-- The blocks of units. -/
def blocksOf (units : List SourceUnit) : List Block :=
  (declarationsOf units).map (·.block)

theorem output_eq_join {t : String} (h : emitToString c us = .ok t) :
    t = String.join ((blocksOf us).map (·.text c.keyword)) := by
  have hemit := emitToString_eq_ok.mp h
  have htext := text_eq_blocks (congrArg Written.outcome hemit)
  simp only [hemit] at htext
  simp only [htext, Emitter.blocks, blocksOf, List.map_map, Function.comp_def,
    Declaration.text_block]

theorem readable_of_mem_blocksOf (h : ∀ d ∈ declarationsOf us, d.HasWords) :
    ∀ b ∈ blocksOf us, b.Readable := by
  intro b hb
  obtain ⟨d, hd, rfl⟩ := List.mem_map.mp hb
  exact (h d hd).readable_block

/-- **The output determines what was emitted**, and is determined by it: under one configuration,
two lists of units that have an output have the same exactly if they have the same blocks, up to
what is written alike. -/
theorem output_eq_iff {t t' : String} (hus : emitToString c us = .ok t)
    (hvs : emitToString c vs = .ok t') (hwords : ∀ d ∈ declarationsOf us, d.HasWords)
    (hwords' : ∀ d ∈ declarationsOf vs, d.HasWords) :
    t = t' ↔ (blocksOf us).map Block.plain = (blocksOf vs).map Block.plain := by
  rw [output_eq_join hus, output_eq_join hvs]
  constructor
  · intro h
    have hlist := congrArg String.toList h
    simp only [String.toList_join, List.flatMap_map] at hlist
    have hread := (Block.delimited_text c.keyword).flatMap (readable_of_mem_blocksOf hwords)
      (readable_of_mem_blocksOf hwords') (fun b _ => Block.text_ne_nil c.keyword b)
      (fun b _ => Block.text_ne_nil c.keyword b) (congrArg (· ++ []) hlist)
    exact hread.1
  · intro h
    have hplain : ∀ units, (blocksOf units).map (·.text c.keyword) =
        ((blocksOf units).map Block.plain).map (·.text c.keyword) := by
      intro units
      simp only [List.map_map, Function.comp_def, Block.text_plain]
    rw [hplain, hplain, h]

/-- A book, which is declared. -/
def book : SourceType := .named (.ofDeclared "Book" .classType [])

/-- A list of some type. -/
def listOf (t : SourceType) : SourceType :=
  .named { name := "List", kind := .classType, special := .genericList, args := [t] }

/-- A shelf that has its books by their titles, and a code. -/
def shelf (books code : SourceType) : Declaration :=
  .type
    { name := "Shelf", kind := .classType, base := some (.ofDeclared "Book" .classType [])
      interfaces :=
        [{ name := "IDictionary", kind := .interfaceType, special := .genericDictionary
           args := [.builtin "string", books] }]
      members := [{ name := "code", type := code }] }

/-- What a shelf is made of. -/
def shelfParts : List Declaration :=
  [.type { name := "Book", kind := .classType },
   .enum
    { name := "Row", members := [{ name := "Lower", value := some (-1) }, { name := "Upper" }] }]

/-- One unit, with arrays. -/
def arrayUnits : List SourceUnit :=
  [{ name := "shelves"
     declarations := shelfParts ++ [shelf (.array book) (.array (.builtin "char"))] }]

/-- Two units, with lists. -/
def listUnits : List SourceUnit :=
  [{ name := "parts", declarations := shelfParts },
   { name := "shelf", declarations := [shelf (listOf book) (listOf (.builtin "int"))] }]

/-- The output of either. -/
def shelvesText : String :=
  "export interface Book \x7b\n\x7d\n\n" ++
  "export enum Row \x7b\n  Lower = -1,\n  Upper = 0\n\x7d\n\n" ++
  "export interface Shelf extends Book \x7b\n  [key: string]: Book[];\n  code?: number[];\n\x7d\n\n"

theorem emitToString_arrayUnits : emitToString {} arrayUnits = .ok shelvesText := by
  decide +kernel

theorem emitToString_listUnits : emitToString {} listUnits = .ok shelvesText := by
  decide +kernel

open SourceType (Everywhere)
open NamedTypeOf (HasTypeName)

/-- A type that is nothing but a name, and not declared. -/
theorem everywhere_bare {t : NamedType} (hundeclared : t.declared = false) (hargs : t.args = [])
    (hinterfaces : t.interfaces = []) : (SourceType.named t).Everywhere HasTypeName := by
  refine .named (fun h => ?_) (by simp [hargs]) (by simp [hinterfaces])
  rw [hundeclared] at h
  cases h

theorem everywhere_builtin (name : String) : (SourceType.builtin name).Everywhere HasTypeName := by
  rw [SourceType.builtin]
  cases h : NamedTypeOf.builtin? name with
  | none => exact everywhere_bare rfl rfl rfl
  | some t =>
    obtain ⟨b, _, rfl⟩ := Option.map_eq_some_iff.mp h
    exact everywhere_bare rfl rfl rfl

theorem everywhere_book : book.Everywhere HasTypeName :=
  .named (fun _ => (by decide : Shape.IsTypeName "Book")) nofun nofun

theorem everywhere_listOf {t : SourceType} (h : t.Everywhere HasTypeName) :
    (listOf t).Everywhere HasTypeName :=
  .named nofun (List.forall_mem_singleton.mpr h) nofun

theorem hasWords_shelfParts : ∀ d ∈ shelfParts, d.HasWords := by
  rintro _ (_ | ⟨_, _ | ⟨_, ⟨⟩⟩⟩)
  · exact .type (by decide) nofun nofun nofun
  · exact .enum (by decide) (by decide)

theorem hasWords_shelf {books code : SourceType} (hbooks : books.Everywhere HasTypeName)
    (hcode : code.Everywhere HasTypeName) :
    ∀ d ∈ shelfParts ++ [shelf books code], d.HasWords := by
  have hdictionary : Everywhere HasTypeName (.named
      { name := "IDictionary", kind := .interfaceType, special := .genericDictionary
        args := [.builtin "string", books] }) :=
    .named nofun (by simpa using ⟨everywhere_builtin "string", hbooks⟩) nofun
  refine List.forall_mem_append.mpr ⟨hasWords_shelfParts, List.forall_mem_singleton.mpr ?_⟩
  refine .type (by decide : IsWord "Shelf") ?_ ?_ ?_
  · rintro _ ⟨⟩
    decide
  · exact List.forall_mem_singleton.mpr (by decide : IsWord "code")
  · exact List.forall_mem_cons.mpr ⟨hcode, List.forall_mem_singleton.mpr hdictionary⟩

theorem output_eq_iff_shelves :
    emitToString {} arrayUnits = .ok shelvesText ∧ emitToString {} listUnits = .ok shelvesText ∧
      (∀ d ∈ declarationsOf arrayUnits, d.HasWords) ∧
      (∀ d ∈ declarationsOf listUnits, d.HasWords) ∧
      blocksOf arrayUnits ≠ blocksOf listUnits ∧
      (blocksOf arrayUnits).map Block.plain = (blocksOf listUnits).map Block.plain := by
  have hwords : ∀ d ∈ declarationsOf arrayUnits, d.HasWords :=
    hasWords_shelf everywhere_book.array (everywhere_builtin "char").array
  have hwords' : ∀ d ∈ declarationsOf listUnits, d.HasWords :=
    hasWords_shelf (everywhere_listOf everywhere_book)
      (everywhere_listOf (everywhere_builtin "int"))
  refine ⟨emitToString_arrayUnits, emitToString_listUnits, hwords, hwords', by decide, ?_⟩
  exact (output_eq_iff emitToString_arrayUnits emitToString_listUnits hwords hwords').mp rfl

end Emission

end DeclGen
