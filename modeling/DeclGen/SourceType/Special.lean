/-!
# Special roles of named types

A library type that stands for a number, a text, a collection or a dictionary carries a *special
role*. The role, and not the name, decides what the type becomes in the output: a type called
`Bag` with the role of a generic list is a list.

Dumps and catalogs write a role as a tag in lower case with underscores (`generic_read_only_list`).
`Special.tagged` is the one table of those spellings; `Special.ofTag?` looks a tag up in it.
-/

namespace DeclGen

/-- The role a named type plays, or `ordinary` if it plays none. -/
inductive Special where
  /-- No special role. -/
  | ordinary
  /-- The universal base type of all objects. -/
  | object
  | boolean
  /-- A single character; it counts as a number. -/
  | char
  | sbyte
  | byte
  | int16
  | uint16
  | int32
  | uint32
  | int64
  | uint64
  | decimal
  | single
  | double
  | string
  /-- An enumerable that says nothing about its elements. -/
  | enumerable
  | genericEnumerable
  | genericCollection
  | genericReadOnlyCollection
  | genericList
  | genericReadOnlyList
  | genericSet
  /-- An associative interface with one key type and one value type. -/
  | genericDictionary
  deriving DecidableEq, Repr

namespace Special

/-- Characters and all integral, floating and decimal types. -/
def isNumeric : Special → Bool
  | .char | .sbyte | .byte | .int16 | .uint16 | .int32 | .uint32 | .int64 | .uint64
  | .decimal | .single | .double => true
  | _ => false

/-- The roles with one type argument, which is the type of the elements. -/
def isCollection : Special → Bool
  | .genericEnumerable | .genericCollection | .genericReadOnlyCollection | .genericList
  | .genericReadOnlyList | .genericSet => true
  | _ => false

/-- The written tag of each role. -/
def tagged : List (String × Special) :=
  [("none", .ordinary), ("object", .object), ("boolean", .boolean), ("char", .char),
   ("sbyte", .sbyte), ("byte", .byte), ("int16", .int16), ("uint16", .uint16),
   ("int32", .int32), ("uint32", .uint32), ("int64", .int64), ("uint64", .uint64),
   ("decimal", .decimal), ("single", .single), ("double", .double), ("string", .string),
   ("enumerable", .enumerable), ("generic_enumerable", .genericEnumerable),
   ("generic_collection", .genericCollection),
   ("generic_read_only_collection", .genericReadOnlyCollection),
   ("generic_list", .genericList), ("generic_read_only_list", .genericReadOnlyList),
   ("generic_set", .genericSet), ("generic_dictionary", .genericDictionary)]

/-- The role that a tag names. -/
def ofTag? (tag : String) : Option Special :=
  tagged.lookup tag

end Special

end DeclGen
