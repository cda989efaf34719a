import DeclGen.Proofs.TypeParts
import DeclGen.Shape

/-!
# The names that a shape shows

The text of a shape is a type expression: words and brackets that the output language has anyway,
and names of types. `DeclGen.Shape.Expression` is the grammar of these expressions over a set of
names. It has one rule for names and no other rule by which a name could come in, so a text that is
an expression over some names shows no other type.

Where the names of a shape come from is a matter of how types are sorted. A type that has a role
goes through its arguments, a library type through its interfaces, and a name is written only for a
declared type. So each name is that of a declared type that the sorted type has as a part, however
deep (`DeclGen.SourceType.hasDeclared_of_mem_names`). The proof follows the sorting, rule by
rule.
-/

namespace DeclGen

namespace Shape

/-- The names of types that a shape shows, at any depth. -/
def names : Shape → List String
  | .primitive _ | .fallback => []
  | .array element | .collection element => element.names
  | .dictionary _ value => value.names
  | .declared name => [name]

/-- A **type expression** of the output language over some names. -/
inductive Expression (known : String → Prop) : String → Prop
  | primitive (p : Primitive) : Expression known p.text
  | name {name : String} : known name → Expression known name
  | array {element : String} : Expression known element → Expression known (element ++ "[]")
  | dictionary (key : IndexKey) {value : String} : Expression known value →
      Expression known ("\x7b [key: " ++ key.text ++ "]: " ++ value ++ "; \x7d")

/-- **A shape is written as an expression over the names that it shows.** -/
theorem expression_text {known : String → Prop} (s : Shape) (h : ∀ name ∈ s.names, known name) :
    Expression known s.text := by
  induction s with
  | primitive p => exact .primitive p
  | array element ih => exact .array (ih h)
  | collection element ih => exact .array (ih h)
  | dictionary key value ih => exact .dictionary key (ih h)
  | declared name => exact .name (h name (.head _))
  | fallback => exact .primitive .any

/-- A role by itself shows no name. -/
theorem names_of_ofSpecial? {special : Special} {s : Shape} (h : ofSpecial? special = some s) :
    s.names = [] := by
  unfold ofSpecial? at h
  split at h
  · cases h
    rfl
  · obtain ⟨p, _, rfl⟩ := Option.map_eq_some_iff.mp h
    rfl

end Shape

namespace SourceType

/-- The name of a declared type that is a part of a type. -/
def HasDeclared (name : String) (t : SourceType) : Prop :=
  ∃ q, HasPart q t ∧ q.declared = true ∧ q.name = name

theorem HasDeclared.element {name : String} {t : SourceType} (h : HasDeclared name t) :
    HasDeclared name (.array t) := by
  obtain ⟨q, hq, h⟩ := h
  exact ⟨q, .element hq, h⟩

theorem HasDeclared.arg {name : String} {t : NamedType} (h : ∃ s ∈ t.args, HasDeclared name s) :
    HasDeclared name (.named t) := by
  obtain ⟨s, hs, q, hq, h⟩ := h
  exact ⟨q, .arg hs hq, h⟩

theorem HasDeclared.interface {name : String} {t : NamedType}
    (h : ∃ s ∈ t.interfaces, HasDeclared name s) : HasDeclared name (.named t) := by
  obtain ⟨s, hs, q, hq, h⟩ := h
  exact ⟨q, .interface hs hq, h⟩

mutual

/-- **A shape shows names of declared parts**, and no others. -/
theorem hasDeclared_of_mem_names {name : String} :
    ∀ t : SourceType, name ∈ t.shape.names → HasDeclared name t
  | .array element, h => by
    rw [shape] at h
    exact (hasDeclared_of_mem_names element h).element
  | .named ⟨typeName, kind, special, args, declared, interfaces⟩, h => by
    rw [shape] at h
    split at h
    · next s hs =>
      -- A dictionary.
      split at hs
      · exact .arg (hasDeclared_of_dictionaryShape args hs h)
      · cases hs
    split at h
    · next s hs =>
      rw [Shape.names_of_ofSpecial? hs] at h
      cases h
    split at h
    · next s hs =>
      -- A collection.
      split at hs
      · exact .arg (hasDeclared_of_collectionShape args hs h)
      · cases hs
    split at h
    · next hdeclared =>
      cases List.mem_singleton.mp h
      exact ⟨_, .self, hdeclared, rfl⟩
    · exact .interface (hasDeclared_of_interfaceShape interfaces h)

theorem hasDeclared_of_dictionaryShape {name : String} :
    ∀ (args : List SourceType) {s : Shape}, dictionaryShape args = some s → name ∈ s.names →
      ∃ t ∈ args, HasDeclared name t
  | [], _, hs, _ => nomatch hs
  | [_], _, hs, _ => nomatch hs
  | [key, value], s, hs, h => by
    obtain ⟨k, _, rfl⟩ := Option.map_eq_some_iff.mp hs
    exact ⟨value, .tail _ (.head _), hasDeclared_of_mem_names value h⟩
  | _ :: _ :: _ :: _, _, hs, _ => nomatch hs

theorem hasDeclared_of_collectionShape {name : String} :
    ∀ (args : List SourceType) {s : Shape}, collectionShape args = some s → name ∈ s.names →
      ∃ t ∈ args, HasDeclared name t
  | [], _, hs, _ => nomatch hs
  | [element], s, hs, h => by
    cases hs
    exact ⟨element, .head _, hasDeclared_of_mem_names element h⟩
  | _ :: _ :: _, _, hs, _ => nomatch hs

theorem hasDeclared_of_interfaceShape {name : String} :
    ∀ interfaces : List SourceType, name ∈ (interfaceShape interfaces).names →
      ∃ t ∈ interfaces, HasDeclared name t
  | [], h => nomatch h
  | t :: rest, h => by
    rw [interfaceShape] at h
    split at h
    · obtain ⟨s, hs, h⟩ := hasDeclared_of_interfaceShape rest h
      exact ⟨s, List.mem_cons_of_mem _ hs, h⟩
    · exact ⟨t, .head _, hasDeclared_of_mem_names t h⟩

end

end SourceType

end DeclGen
