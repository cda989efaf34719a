import DeclGen.MemberName
import Mathlib.Data.List.Basic

/-!
# What renames a member

A member's name in the output hangs on two of its attributes and no others: the first one that is
called `DataMember` and the first one that is called `JsonProperty`, each written with or without
the ending `Attribute`. If the first contract gives a text for `Name`, this is the name; else it is
the first argument of the first property annotation, if that is a text; else the declared name
(`DeclGen.Member.outputName_eq`).

So the name is the same for any two lists of attributes that have these two in common, whatever else
they hold and in whatever order (`DeclGen.Member.outputName_by_first`). An attribute that comes
behind another of its kind has no effect, and neither has one of no kind
(`DeclGen.Renamer.first?_insert`). And a first contract that gives no text is not made up for by a
later one: the name is what it would be without contracts (`DeclGen.Member.givenName?_filter`).
-/

namespace DeclGen

/-! ### Names of attributes -/

namespace Attribute

theorem shortName_append_ending (base : String) :
    shortName (base ++ "Attribute") = base.toList := by
  have hlist : (base ++ "Attribute").toList = base.toList ++ ending := String.toList_append
  rw [shortName, hlist, if_pos (List.isSuffixOf_iff_suffix.mpr (List.suffix_append _ _)),
    List.length_append, Nat.add_sub_cancel, List.take_left']
  rfl

/-- **An attribute is called by a name** without the ending if it has that name, or that name with
the ending put behind it once. -/
theorem isNamed_iff {base : String} (hbase : shortName base = base.toList) (a : Attribute) :
    a.isNamed base = true ↔ a.name = base ∨ a.name = base ++ "Attribute" := by
  rw [isNamed, beq_iff_eq, hbase]
  constructor
  · intro h
    unfold shortName at h
    split at h
    · next hsuffix =>
      obtain ⟨front, hfront⟩ := List.isSuffixOf_iff_suffix.mp hsuffix
      rw [← hfront, List.length_append, Nat.add_sub_cancel, List.take_left' rfl] at h
      refine Or.inr (String.toList_inj.mp ?_)
      rw [← hfront, h, String.toList_append]
      rfl
    · exact Or.inl (String.toList_inj.mp h)
  · rintro (h | h)
    · rw [h, hbase]
    · rw [h, shortName_append_ending]

end Attribute

namespace Renamer

/-- Whether an attribute carries an annotation: it is called as the annotation, with or without the
ending. -/
def Names (r : Renamer) (a : Attribute) : Prop :=
  a.name = r.attributeName ∨ a.name = r.attributeName ++ "Attribute"

instance (r : Renamer) : DecidablePred r.Names :=
  fun a => inferInstanceAs (Decidable (a.name = r.attributeName ∨ _))

theorem isNamed_eq (r : Renamer) :
    (fun a : Attribute => a.isNamed r.attributeName) = fun a => decide (r.Names a) := by
  funext a
  have hshort : Attribute.shortName r.attributeName = r.attributeName.toList := by
    cases r <;> decide
  rw [Bool.eq_iff_iff, Attribute.isNamed_iff hshort a, decide_eq_true_iff, Names]

/-- The text that an attribute gives as the new name: a contract gives it as its argument `Name`, a
property annotation as its first positional argument. -/
def given? : Renamer → Attribute → Option String
  | .dataMember, a =>
    match a.named.lookup "Name" with
    | some (.string text) => some text
    | _ => none
  | .jsonProperty, a =>
    match a.positional with
    | .string text :: _ => some text
    | _ => none

/-- The **first attribute** of a list that carries an annotation. -/
def first? (r : Renamer) (as : List Attribute) : Option Attribute :=
  as.find? fun a => r.Names a

theorem text?_argument? (r : Renamer) (a : Attribute) :
    ((r.argument? a).bind AttributeValue.text?) = r.given? a := by
  obtain ⟨name, positional, named⟩ := a
  cases r with
  | dataMember =>
    rw [argument?, given?, Attribute.namedArg?]
    rcases named.lookup "Name" with _ | value
    · rfl
    · cases value <;> rfl
  | jsonProperty =>
    rcases positional with _ | ⟨value, rest⟩
    · rfl
    · cases value <;> rfl

/-- **Only the first attribute of a kind is asked** for a new name. -/
theorem newName?_eq (r : Renamer) (as : List Attribute) :
    r.newName? as = (r.first? as).bind r.given? := by
  have hgiven : r.given? = fun a => (r.argument? a).bind AttributeValue.text? :=
    funext fun a => (text?_argument? r a).symm
  rw [first?, ← isNamed_eq, hgiven]
  rfl

/-- **The first attribute of a kind stays the first** if an attribute is put in that is not of the
kind, or stands behind one that is. -/
theorem first?_insert {r : Renamer} {a : Attribute} {before : List Attribute}
    (h : r.Names a → ∃ b ∈ before, r.Names b) (after : List Attribute) :
    r.first? (before ++ a :: after) = r.first? (before ++ after) := by
  rw [first?, first?, List.find?_append, List.find?_append]
  by_cases ha : r.Names a
  · obtain ⟨b, hb, hnames⟩ := h ha
    have hsome : (before.find? fun a => r.Names a).isSome :=
      List.find?_isSome.mpr ⟨b, hb, decide_eq_true hnames⟩
    obtain ⟨first, hfirst⟩ := Option.isSome_iff_exists.mp hsome
    rw [hfirst, Option.some_or, Option.some_or]
  · rw [List.find?_cons_of_neg (by simpa using ha)]

/-- No attribute carries both annotations. -/
theorem not_names_both {a : Attribute} (h : Renamer.jsonProperty.Names a) :
    ¬Renamer.dataMember.Names a := by
  rcases h with h | h <;> rw [Names, h] <;> decide

end Renamer

/-! ### Names of members -/

namespace Member

open Renamer (dataMember jsonProperty)

/-- The name that some attributes give to a member: the text of the first contract, else that of the
first property annotation. -/
def givenName? (as : List Attribute) : Option String :=
  ((dataMember.first? as).bind dataMember.given?).or
    ((jsonProperty.first? as).bind jsonProperty.given?)

theorem outputName_eq (m : Member) : m.outputName = (givenName? m.attributes).getD m.name := by
  rw [givenName?, ← Renamer.newName?_eq, ← Renamer.newName?_eq, outputName, renames,
    Renamer.precedence]
  cases hcontract : dataMember.newName? m.attributes with
  | some text => simp [hcontract]
  | none =>
    cases hproperty : jsonProperty.newName? m.attributes with
    | some text => simp [hcontract, hproperty]
    | none => simp [hcontract, hproperty]

/-- What attributes give depends on the first of each kind only. -/
theorem givenName?_congr {as as' : List Attribute} (h : ∀ r : Renamer, r.first? as = r.first? as') :
    givenName? as = givenName? as' := by
  rw [givenName?, givenName?, h, h]

/-- Where the first contract gives no text, contracts might as well not be there. -/
theorem givenName?_filter {as : List Attribute} {d : Attribute}
    (hd : dataMember.first? as = some d) (htext : dataMember.given? d = none) :
    givenName? as = givenName? (as.filter fun a => ¬dataMember.Names a) := by
  have hnone : dataMember.first? (as.filter fun a => ¬dataMember.Names a) = none := by
    refine List.find?_eq_none.mpr fun a ha => ?_
    simpa using (List.mem_filter.mp ha).2
  have hother : jsonProperty.first? (as.filter fun a => ¬dataMember.Names a) =
      jsonProperty.first? as := by
    rw [Renamer.first?, Renamer.first?, List.find?_filter]
    congr 1
    funext a
    by_cases ha : jsonProperty.Names a
    · simp [ha, Renamer.not_names_both ha]
    · simp [ha]
  rw [givenName?, givenName?, hd, hnone, hother, Option.bind_some, htext, Option.bind_none]

/-- **A member's name in the output**, for every member and all its attributes: the text that the
first contract gives, else the one that the first property annotation gives, else the declared name.

So two members of one name are renamed alike if their attributes have the first of each kind in
common, however many others there are and however all are ordered. In particular an attribute has no
effect if it is of neither kind or stands behind one of its own kind; and where the first contract
gives no text, the name is the one without any contract. -/
theorem outputName_by_first :
    (∀ m : Member, m.outputName =
      (((m.attributes.find? fun a => dataMember.Names a).bind dataMember.given?).or
        ((m.attributes.find? fun a => jsonProperty.Names a).bind jsonProperty.given?)).getD
          m.name) ∧
    (∀ m m' : Member, m.name = m'.name →
      (∀ r : Renamer, (m.attributes.filter fun a => r.Names a).head? =
        (m'.attributes.filter fun a => r.Names a).head?) → m.outputName = m'.outputName) ∧
    (∀ (m : Member) (before after : List Attribute) (a : Attribute),
      (∀ r : Renamer, r.Names a → ∃ b ∈ before, r.Names b) →
        outputName { m with attributes := before ++ a :: after } =
          outputName { m with attributes := before ++ after }) ∧
    ∀ (m : Member) (d : Attribute), (m.attributes.find? fun a => dataMember.Names a) = some d →
      dataMember.given? d = none →
        m.outputName =
          outputName { m with attributes := m.attributes.filter fun a => ¬dataMember.Names a } := by
  refine ⟨outputName_eq, fun m m' hname hfirst => ?_, fun m before after a ha => ?_,
    fun m d hd htext => ?_⟩
  · have hsame (r : Renamer) : r.first? m.attributes = r.first? m'.attributes := by
      have h := hfirst r
      rwa [List.head?_filter, List.head?_filter] at h
    rw [outputName_eq, outputName_eq, givenName?_congr hsame, hname]
  · rw [outputName_eq, outputName_eq]
    exact congrArg (Option.getD · m.name)
      (givenName?_congr fun r => Renamer.first?_insert (ha r) after)
  · rw [outputName_eq, outputName_eq, givenName?_filter hd htext]

/-- A contract with some arguments. -/
def contract (name : String) (value : AttributeValue) : Attribute :=
  { name, named := [("Order", .int 1), ("Name", value)] }

/-- A member with two contracts, the first of which has a number for its name, and a property
annotation between two attributes of no kind. -/
def relabelled : Member :=
  { name := "Label", type := .named (.external "Text" .classType)
    attributes := [{ name := "Obsolete" }, contract "DataMemberAttribute" (.int 7),
      { name := "JsonProperty", positional := [.string "label", .null] },
      contract "DataMember" (.string "late"), { name := "JsonPropertyAttributeAttribute" }] }

theorem outputName_by_first_relabelled :
    relabelled.outputName = "label" ∧
      relabelled.outputName =
        outputName { relabelled with attributes := (relabelled.attributes.drop 1).take 2 } ∧
      relabelled.outputName =
        outputName { relabelled with attributes := relabelled.attributes.take 4 } ∧
      relabelled.outputName =
        outputName { relabelled with
          attributes := relabelled.attributes.filter fun a => ¬dataMember.Names a } := by
  obtain ⟨-, halike, hinsert, hcontract⟩ := outputName_by_first
  refine ⟨by decide, ?_, ?_, ?_⟩
  · exact halike _ _ rfl (by intro r; cases r <;> decide)
  · exact hinsert relabelled (relabelled.attributes.take 4) [] _ (by intro r; cases r <;> decide)
  · exact hcontract _ _ rfl rfl

end Member

end DeclGen
