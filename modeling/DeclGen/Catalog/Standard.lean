import DeclGen.Catalog.Basic

/-!
# The standard catalog

The collection and dictionary types that every project has, and a few structs. Each entry lists
its interfaces in full, those that it inherits through others included.
-/

namespace DeclGen.Catalog

/-! ### The references that the entries are made of -/

/-- The type parameter `T`. -/
def t : Reference := .param "T"

/-- A named type with arguments. -/
def applied (name : String) (args : List Reference) : Reference :=
  .named name args none none none

/-- Pairs of a key and a value. -/
def pair : Reference := applied "KeyValuePair" [.param "TKey", .param "TValue"]

/-- Enumerables of unknown elements. -/
def enumerable : Reference := .simple "IEnumerable"

/-- The interfaces of a list with elements `T`, whether or not it can be changed. -/
def listInterfaces : List Reference :=
  [applied "IList" [t], applied "ICollection" [t], applied "IEnumerable" [t], enumerable,
   applied "IReadOnlyList" [t], applied "IReadOnlyCollection" [t]]

/-! ### The entries -/

/-- The interfaces for collections with one type of elements. -/
def collectionInterfaces : List Entry :=
  [{ name := "IEnumerable", kind := .interfaceType, special := .enumerable },
   { name := "IEnumerable", kind := .interfaceType, special := .genericEnumerable
     parameters := ["T"], interfaces := [enumerable] },
   { name := "ICollection", kind := .interfaceType, special := .genericCollection
     parameters := ["T"], interfaces := [applied "IEnumerable" [t], enumerable] },
   { name := "IReadOnlyCollection", kind := .interfaceType
     special := .genericReadOnlyCollection
     parameters := ["T"], interfaces := [applied "IEnumerable" [t], enumerable] },
   { name := "IList", kind := .interfaceType, special := .genericList, parameters := ["T"]
     interfaces := [applied "ICollection" [t], applied "IEnumerable" [t], enumerable] },
   { name := "IReadOnlyList", kind := .interfaceType, special := .genericReadOnlyList
     parameters := ["T"]
     interfaces := [applied "IReadOnlyCollection" [t], applied "IEnumerable" [t], enumerable] },
   { name := "ISet", kind := .interfaceType, special := .genericSet, parameters := ["T"]
     interfaces := [applied "ICollection" [t], applied "IEnumerable" [t], enumerable] }]

/-- The interfaces for dictionaries. -/
def dictionaryInterfaces : List Entry :=
  [{ name := "KeyValuePair", kind := .structType, parameters := ["TKey", "TValue"] },
   { name := "IDictionary", kind := .interfaceType, special := .genericDictionary
     parameters := ["TKey", "TValue"]
     interfaces := [applied "ICollection" [pair], applied "IEnumerable" [pair], enumerable] },
   { name := "IReadOnlyDictionary", kind := .interfaceType, special := .genericDictionary
     parameters := ["TKey", "TValue"]
     interfaces :=
       [applied "IReadOnlyCollection" [pair], applied "IEnumerable" [pair], enumerable] }]

/-- The classes that implement collections and dictionaries. -/
def collectionClasses : List Entry :=
  [{ name := "List", parameters := ["T"], interfaces := listInterfaces },
   { name := "HashSet", parameters := ["T"]
     interfaces :=
       [applied "ISet" [t], applied "ICollection" [t], applied "IEnumerable" [t], enumerable,
        applied "IReadOnlyCollection" [t]] },
   { name := "Collection", parameters := ["T"], interfaces := listInterfaces },
   { name := "ReadOnlyCollection", parameters := ["T"], interfaces := listInterfaces },
   { name := "Dictionary", parameters := ["TKey", "TValue"]
     interfaces :=
       [applied "IDictionary" [.param "TKey", .param "TValue"], applied "ICollection" [pair],
        applied "IEnumerable" [pair], enumerable,
        applied "IReadOnlyDictionary" [.param "TKey", .param "TValue"],
        applied "IReadOnlyCollection" [pair]] }]

/-- Structs without a counterpart in the output. -/
def plainStructs : List Entry :=
  [{ name := "Nullable", kind := .structType, parameters := ["T"] },
   { name := "Guid", kind := .structType }, { name := "DateTime", kind := .structType },
   { name := "DateTimeOffset", kind := .structType }, { name := "TimeSpan", kind := .structType }]

/-- The standard catalog. -/
def standard : Catalog :=
  { entries := collectionInterfaces ++ dictionaryInterfaces ++ collectionClasses ++ plainStructs }

end DeclGen.Catalog
