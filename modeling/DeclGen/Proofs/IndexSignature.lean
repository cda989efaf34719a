import DeclGen.IndexSignature

/-!
# Which interface an index signature is made from

An index signature is found by looking through a list of interfaces twice, for a dictionary and
then for an enumerable. Whatever is found, one interface alone would give the same signature
(`DeclGen.IndexSignature.exists_of_ofInterfaces?`), and what the signature shows is the shape of
that interface's last type argument (`DeclGen.IndexSignature.value_of_ofInterfaces?`).
-/

namespace DeclGen

/-- The type that an index signature shows for what is indexed. -/
def IndexSignature.value : IndexSignature → Shape
  | .keyed _ value => value
  | .indexed element => element

theorem IndexSignature.dictionaryArgs?_of_enumerableArg? {t : NamedType} {element : SourceType}
    (h : enumerableArg? t = some element) : dictionaryArgs? t = none := by
  unfold enumerableArg? at h
  unfold dictionaryArgs?
  split at h
  · next hs _ => simp [hs]
  · cases h

/-- **An index signature is made from one of the interfaces.** -/
theorem IndexSignature.exists_of_ofInterfaces? {interfaces : List NamedType} {sig : IndexSignature}
    (h : ofInterfaces? interfaces = some sig) :
    ∃ j ∈ interfaces, ofInterfaces? [j] = some sig := by
  unfold ofInterfaces? at h
  split at h
  · next key value hd =>
    obtain ⟨j, hj, hargs⟩ := List.exists_of_findSome?_eq_some hd
    refine ⟨j, hj, ?_⟩
    simpa [ofInterfaces?, hargs] using h
  · obtain ⟨element, he, rfl⟩ := Option.map_eq_some_iff.mp h
    obtain ⟨j, hj, harg⟩ := List.exists_of_findSome?_eq_some he
    refine ⟨j, hj, ?_⟩
    simp [ofInterfaces?, harg, dictionaryArgs?_of_enumerableArg? harg]

theorem IndexSignature.args_of_dictionaryArgs? {t : NamedType} {key value : SourceType}
    (h : dictionaryArgs? t = some (key, value)) : t.args = [key, value] := by
  unfold dictionaryArgs? at h
  split at h
  · next hargs =>
    cases h
    exact hargs
  · cases h

theorem IndexSignature.args_of_enumerableArg? {t : NamedType} {element : SourceType}
    (h : enumerableArg? t = some element) : t.args = [element] := by
  unfold enumerableArg? at h
  split at h
  · next hargs =>
    cases h
    exact hargs
  · cases h

/-- **An index signature shows the last type argument** of the interface that it is made from. -/
theorem IndexSignature.value_of_ofInterfaces? {j : NamedType} {sig : IndexSignature}
    (h : ofInterfaces? [j] = some sig) : ∃ s, j.args.getLast? = some s ∧ sig.value = s.shape := by
  unfold ofInterfaces? at h
  rw [List.findSome?_singleton, List.findSome?_singleton] at h
  split at h
  · next key value hd =>
    obtain ⟨k, _, rfl⟩ := Option.map_eq_some_iff.mp h
    exact ⟨value, by simp [args_of_dictionaryArgs? hd], rfl⟩
  · obtain ⟨element, he, rfl⟩ := Option.map_eq_some_iff.mp h
    exact ⟨element, by simp [args_of_enumerableArg? he], rfl⟩

/-- A type parameter is shown as `any`. -/
theorem SourceType.text_shape_parameter (p : String) :
    (SourceType.named (.external p .parameter)).shape.text = "any" := by
  rfl

end DeclGen
