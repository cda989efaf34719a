import DeclGen.Declaration
import DeclGen.Dump.Reference

/-!
# Dumps

A *dump* lists the declarations of one source unit as they are written: its types are still
references. `Dump.ofText` reads one.

A declaration is an object that carries its keyword in the field `kind`, at any place among its
other fields, or a list that begins with the keyword. It is read as a whole before its fields are
decoded, with one exception: the keyword is checked as soon as it is met.
-/

namespace DeclGen

namespace Dump

/-- A member as it is written. -/
structure Member where
  name : String
  type : Reference
  attributes : List Attribute := []

/-- A class, struct or interface as it is written. -/
structure TypeDecl where
  name : String
  parameters : List String := []
  base : Option Reference := none
  interfaces : List Reference := []
  members : List Member := []

/-- A declaration as it is written. -/
inductive Declaration where
  | type (kind : DeclKind) (decl : TypeDecl)
  | enum (decl : EnumDecl)

namespace Declaration

/-- The declared name. -/
def name : Declaration → String
  | .type _ d => d.name
  | .enum d => d.name

/-- The declared kind. -/
def kind : Declaration → Kind
  | .type k _ => k.toKind
  | .enum _ => .enumType

end Declaration

end Dump

/-- The declarations of one source unit as they are written, in source order. -/
structure Dump where
  declarations : List Dump.Declaration := []

namespace Dump

open Json (Decoded Field Record)

/-! ### Attributes -/

/-- The constant that a value without flaws is. -/
def attributeValue : Json → AttributeValue
  | .string s => .string s
  | .bool b => .bool b
  | .null => .null
  | .number (.natural n) => if n < Json.signedBound then .int (Int64.ofNat n) else .other
  | .number (.negative n) => .int (Int64.ofInt (-n))
  | _ => .other

/-- Decodes the named arguments of an attribute. -/
def namedArguments : Json → Decoded (List (String × AttributeValue))
  | .object fields _ =>
    .ok (Attribute.collectNamed (fields.map fun (key, v) => (key, attributeValue v)))
  | v => v.mismatch .map

/-- The fields of an attribute that have been decoded. -/
structure AttributeState where
  name : Option String := none
  positional : Option (List AttributeValue) := none
  named : Option (List (String × AttributeValue)) := none

/-- The record of an attribute. -/
def attributeRecord : Record AttributeState Attribute where
  name := "RawAttribute"
  fields :=
    [⟨"name", (·.name.isSome), fun v s => do .ok { s with name := ← v.text }⟩,
     ⟨"args", (·.positional.isSome), fun v s => do
        .ok { s with positional := ← v.listOf fun a => .ok (attributeValue a) }⟩,
     ⟨"named", (·.named.isSome), fun v s => do .ok { s with named := ← namedArguments v }⟩]
  start := {}
  finish s :=
    match s.name with
    | some name => .ok ⟨name, s.positional.getD [], s.named.getD []⟩
    | none => .error "name"

/-! ### Members -/

/-- The fields of a member that have been decoded. -/
structure MemberState where
  name : Option String := none
  type : Option Reference := none
  attributes : Option (List Attribute) := none

/-- The record of a member. -/
def memberRecord : Record MemberState Member where
  name := "RawMember"
  fields :=
    [⟨"name", (·.name.isSome), fun v s => do .ok { s with name := ← v.text }⟩,
     ⟨"type", (·.type.isSome), fun v s => do .ok { s with type := ← Reference.decode v }⟩,
     ⟨"attributes", (·.attributes.isSome), fun v s => do
        .ok { s with attributes := ← v.listOf attributeRecord.decodeWhole }⟩]
  start := {}
  finish s :=
    match s.name, s.type with
    | some name, some type => .ok ⟨name, type, s.attributes.getD []⟩
    | none, _ => .error "name"
    | _, none => .error "type"

/-! ### Types -/

/-- The fields of a type declaration that have been decoded. -/
structure TypeState where
  name : Option String := none
  parameters : Option (List String) := none
  base : Option (Option Reference) := none
  interfaces : Option (List Reference) := none
  members : Option (List Member) := none

/-- The record of a type declaration. -/
def typeRecord : Record TypeState TypeDecl where
  name := "RawTypeDecl"
  fields :=
    [⟨"name", (·.name.isSome), fun v s => do .ok { s with name := ← v.text }⟩,
     ⟨"type_parameters", (·.parameters.isSome), fun v s => do
        .ok { s with parameters := ← v.listOf Json.text }⟩,
     ⟨"base", (·.base.isSome), fun v s => do
        .ok { s with base := some (← v.optional Reference.decode) }⟩,
     ⟨"interfaces", (·.interfaces.isSome), fun v s => do
        .ok { s with interfaces := ← v.listOf Reference.decode }⟩,
     ⟨"members", (·.members.isSome), fun v s => do
        .ok { s with members := ← v.listOf memberRecord.decodeWhole }⟩]
  start := {}
  finish s :=
    match s.name with
    | some name =>
      .ok ⟨name, s.parameters.getD [], s.base.join, s.interfaces.getD [], s.members.getD []⟩
    | none => .error "name"

/-! ### Enums -/

/-- The fields of an enum member that have been decoded. -/
structure EnumMemberState where
  name : Option String := none
  value : Option (Option Int64) := none

/-- The record of an enum member. -/
def enumMemberRecord : Record EnumMemberState EnumMember where
  name := "RawEnumMember"
  fields :=
    [⟨"name", (·.name.isSome), fun v s => do .ok { s with name := ← v.text }⟩,
     ⟨"value", (·.value.isSome), fun v s => do
        .ok { s with value := some (← v.optional Json.int64) }⟩]
  start := {}
  finish s :=
    match s.name with
    | some name => .ok ⟨name, s.value.join⟩
    | none => .error "name"

/-- The fields of an enum that have been decoded. -/
structure EnumState where
  name : Option String := none
  members : Option (List EnumMember) := none

/-- The record of an enum. -/
def enumRecord : Record EnumState EnumDecl where
  name := "RawEnumDecl"
  fields :=
    [⟨"name", (·.name.isSome), fun v s => do .ok { s with name := ← v.text }⟩,
     ⟨"members", (·.members.isSome), fun v s => do
        .ok { s with members := ← v.listOf enumMemberRecord.decodeWhole }⟩]
  start := {}
  finish s :=
    match s.name with
    | some name => .ok ⟨name, s.members.getD []⟩
    | none => .error "name"

/-! ### Declarations -/

/-- Decodes a keyword. -/
def keyword : Json → Decoded DeclKind
  | .string word =>
    match DeclKind.ofKeyword? word with
    | some kind => .ok kind
    | none => .error (.mismatch (.unknownKeyword word))
  | v => v.mismatch .keyword

/-- Finds the keyword among the fields of a declaration, given the one found so far, and checks in
text order that the other fields have no flaw. -/
def keywordOfFields (kind? : Option DeclKind) : List (String × Json) → Decoded (Option DeclKind)
  | [] => .ok kind?
  | (key, v) :: rest =>
    if key = "kind" then
      match kind? with
      | some _ => .error (.mismatch (.duplicateField key))
      | none => do keywordOfFields (some (← keyword v)) rest
    else do
      v.settle
      keywordOfFields kind? rest

/-- Decodes what is left of a declaration without its keyword. -/
def declarationBody (kind : DeclKind) (body : Json) : Decoded Declaration :=
  match kind with
  | .enumType => (enumRecord.decodeWhole body).map .enum
  | kind => (typeRecord.decodeWhole body).map (.type kind)

/-- Decodes a declaration. -/
def declaration : Json → Decoded Declaration
  | .object fields ending => do
    let kind? ← keywordOfFields none fields
    Json.refuse ending
    match kind? with
    | some kind => declarationBody kind (.object (fields.filter (·.1 ≠ "kind")) none)
    | none => .error (.mismatch (.missingField "kind"))
  | .array (first :: rest) ending => do
    let kind ← keyword first
    Json.settle (.array rest ending)
    declarationBody kind (.array rest none)
  | .array [] ending => do
    Json.refuse ending
    .error (.mismatch (.missingField "kind"))
  | v => v.mismatch .declaration

/-! ### Units -/

/-- The record of a dump. -/
def record : Record (Option (List Declaration)) Dump where
  name := "RawUnit"
  fields := [⟨"declarations", (·.isSome), fun v _ => do .ok (some (← v.listOf declaration))⟩]
  start := none
  finish s := .ok ⟨s.getD []⟩

/-- Decodes a dump. -/
def ofJson : Json → Decoded Dump :=
  record.decodeStreamed

/-- The parts of a dump's text that are wanted. -/
def outline : Json.Outline :=
  .record [("declarations", .list .whole)]

/-- Reads a dump. -/
def ofText (text : String) : Decoded Dump :=
  Json.decodeText outline ofJson text

end Dump

end DeclGen
