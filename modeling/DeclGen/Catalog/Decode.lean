import DeclGen.Catalog.Basic
import DeclGen.Dump.Basic
import DeclGen.LoadError

/-!
# Reading catalogs

A catalog is decoded as it is read, entry by entry and field by field, where a dump's declarations
are read as wholes. Then its entries are checked in their order: each role tag must be known, and
no key may occur twice.
-/

namespace DeclGen

open Json (Decoded Record)

namespace Catalog

/-- A catalog entry as it is written: its role is still a tag. -/
structure WrittenEntry where
  name : String
  kind : Option DeclKind := none
  parameters : List String := []
  special : Option String := none
  interfaces : List Reference := []

/-- Decodes the kind of an entry: a word, or an object whose one entry has the word as its key and
`null` as its value. -/
def kindOf : Json → Decoded DeclKind
  | .string word => Dump.keyword (.string word)
  | .unread flaw => .error (.flaw flaw)
  | .object [] (some flaw) => .error (.flaw flaw)
  | .object ((word, v) :: rest) ending => do
    let kind ← Dump.keyword (.string word)
    match v with
    | .null => pure ()
    | v => v.mismatch .unit
    if !rest.isEmpty then .error (.flaw .malformed)
    Json.refuse ending
    .ok kind
  | _ => .error (.flaw .malformed)

/-- The fields of an entry that have been decoded. -/
structure EntryState where
  name : Option String := none
  kind : Option (Option DeclKind) := none
  parameters : Option (List String) := none
  special : Option (Option String) := none
  interfaces : Option (List Reference) := none

/-- The record of an entry. -/
def entryRecord : Record EntryState WrittenEntry where
  name := "RawCatalogType"
  fields :=
    [⟨"name", (·.name.isSome), fun v s => do .ok { s with name := ← v.text }⟩,
     ⟨"kind", (·.kind.isSome), fun v s => do
        .ok { s with kind := some (← v.optional kindOf) }⟩,
     ⟨"type_parameters", (·.parameters.isSome), fun v s => do
        .ok { s with parameters := ← v.listOf Json.text }⟩,
     ⟨"special", (·.special.isSome), fun v s => do
        .ok { s with special := some (← v.optional Json.text) }⟩,
     ⟨"interfaces", (·.interfaces.isSome), fun v s => do
        .ok { s with interfaces := ← v.listOf Reference.decode }⟩]
  start := {}
  finish s :=
    match s.name with
    | some name =>
      .ok ⟨name, s.kind.join, s.parameters.getD [], s.special.join, s.interfaces.getD []⟩
    | none => .error "name"

/-- The record of a catalog. -/
def record : Record (Option (List WrittenEntry)) (List WrittenEntry) where
  name := "RawCatalog"
  fields :=
    [⟨"types", (·.isSome), fun v _ => do
        .ok (some (← v.listOf entryRecord.decodeStreamed))⟩]
  start := none
  finish s := .ok (s.getD [])

/-- The parts of a catalog's text that are wanted. -/
def outline : Json.Outline :=
  .record
    [("types", .list (.record
      [("name", .whole), ("kind", .keyword), ("type_parameters", .whole), ("special", .whole),
       ("interfaces", .whole)]))]

/-- The entry that a written one stands for. -/
def WrittenEntry.entry (e : WrittenEntry) : Except LoadError Entry := do
  let special ←
    match e.special with
    | none => .ok .ordinary
    | some tag =>
      match Special.ofTag? tag with
      | some special => .ok special
      | none => .error (.unknownSpecial tag e.name)
  .ok
    { name := e.name, kind := e.kind.getD .classType, special, parameters := e.parameters
      interfaces := e.interfaces }

/-- Adds written entries to the entries before them, in order. -/
def addEntries (origin : String) (entries : List Entry) :
    List WrittenEntry → Except LoadError (List Entry)
  | [] => .ok entries
  | e :: rest => do
    let entry ← e.entry
    if entries.any (·.key == entry.key) then
      .error (.duplicateEntry entry.name entry.parameters.length origin)
    else addEntries origin (entries ++ [entry]) rest

/-- Reads a catalog, which messages call by its origin. -/
def ofText (origin text : String) : Except LoadError Catalog :=
  match Json.decodeText outline record.decodeStreamed text with
  | .error fault => .error (.invalidData origin fault)
  | .ok written => do .ok { entries := ← addEntries origin [] written }

end Catalog

end DeclGen
