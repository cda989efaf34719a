import DeclGen.SourceType.Basic

/-!
# Built-in types

Fifteen types need no declaration and no catalog. Each goes by two spellings: a keyword (`int`)
and a system name (`Int32`). Both give the same type, whose name is the system name.
-/

namespace DeclGen

/-- A built-in type with its two spellings. -/
structure Builtin where
  keyword : String
  name : String
  special : Special
  kind : Kind := .structType

namespace Builtin

/-- All built-in types. Texts and objects are classes, the others are structs. -/
def all : List Builtin :=
  [⟨"bool", "Boolean", .boolean, .structType⟩, ⟨"char", "Char", .char, .structType⟩,
   ⟨"sbyte", "SByte", .sbyte, .structType⟩, ⟨"byte", "Byte", .byte, .structType⟩,
   ⟨"short", "Int16", .int16, .structType⟩, ⟨"ushort", "UInt16", .uint16, .structType⟩,
   ⟨"int", "Int32", .int32, .structType⟩, ⟨"uint", "UInt32", .uint32, .structType⟩,
   ⟨"long", "Int64", .int64, .structType⟩, ⟨"ulong", "UInt64", .uint64, .structType⟩,
   ⟨"decimal", "Decimal", .decimal, .structType⟩, ⟨"float", "Single", .single, .structType⟩,
   ⟨"double", "Double", .double, .structType⟩, ⟨"string", "String", .string, .classType⟩,
   ⟨"object", "Object", .object, .classType⟩]

/-- The type that a built-in stands for. -/
def type (b : Builtin) : NamedType :=
  { name := b.name, kind := b.kind, special := b.special }

end Builtin

/-- The built-in type of a keyword or a system name, if there is one. -/
def NamedTypeOf.builtin? (name : String) : Option NamedType :=
  (Builtin.all.find? fun b => b.keyword == name || b.name == name).map Builtin.type

/-- The built-in type of that name; any other name is a library class of which nothing is
known. -/
def SourceType.builtin (name : String) : SourceType :=
  .named ((NamedTypeOf.builtin? name).getD (.external name .classType))

end DeclGen
