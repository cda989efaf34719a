import DeclGen.Dump.Reference

/-!
# Catalogs of library types

A *catalog* describes library types. An entry says for a name and a number of type parameters what
kind the type is, what role it plays and which interfaces it has, written with the entry's own
parameters. Name and number of parameters are the entry's *key*, and a catalog has at most one
entry for each key.

Catalogs are layered: where two have an entry for the same key, the later one counts.
-/

namespace DeclGen

/-- What a catalog says of a library type. -/
structure Catalog.Entry where
  name : String
  kind : DeclKind := .classType
  special : Special := .ordinary
  parameters : List String := []
  /-- The interfaces, written with the entry's parameters. -/
  interfaces : List Reference := []

/-- What an entry is found by: the name and the number of type parameters. -/
abbrev Catalog.Key := String × Nat

/-- The key of an entry. -/
def Catalog.Entry.key (e : Catalog.Entry) : Catalog.Key :=
  (e.name, e.parameters.length)

/-- A catalog of library types. -/
structure Catalog where
  entries : List Catalog.Entry := []

namespace Catalog

/-- The entry for a key. -/
def find? (c : Catalog) (key : Key) : Option Entry :=
  c.entries.find? (·.key == key)

/-- Whether there is an entry for a key. -/
def contains (c : Catalog) (key : Key) : Bool :=
  (c.find? key).isSome

/-- The number of entries. -/
def size (c : Catalog) : Nat :=
  c.entries.length

/-- Lays `upper` over a catalog: its entries replace those of the same key. -/
def extend (c upper : Catalog) : Catalog :=
  { entries := upper.entries ++ c.entries.filter fun e => !upper.contains e.key }

end Catalog

end DeclGen
