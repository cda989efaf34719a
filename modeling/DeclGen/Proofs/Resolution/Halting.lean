import DeclGen.Proofs.Resolution.Machine
import DeclGen.Proofs.Resolution.Pending

/-!
# Resolution halts and misses no cycle

A catalog may lead back to itself in every way: an entry may list itself or another that lists it,
it may mention itself in its type arguments, and the arguments may grow each time, as where
`Foo<T>` lists `IBar<Foo<Foo<T>>>`. Resolution halts all the same, with its stack of pending keys as
it was before (`DeclGen.Names.halts_and_misses_no_cycle`).

What stops it must not stop it too early. An entry that is met again is either left shallow or told
of as a cycle, and only an entry that is met as a *head*, as one of the interfaces of an entry that
is open, is told of. This file shows that this is enough: whoever follows the heads
(`DeclGen.Names.Extends`) from an entry that a reference looks up climbs a stack of pending keys,
one key with each step, so a cycle of heads would put a key on the stack twice. No stack has a key
twice, and so a reference from which heads lead into a cycle does not resolve.

The other half, that only cycles of heads are told of, does not hold; see
`DeclGen.Proofs.Resolution.Alarms`.
-/

namespace DeclGen

namespace Names

open Catalog (Key)
open StateTransition (Reaches)

/-- **One entry extends another**: it lists the other by its head, and nothing goes before the
catalog there, neither a type parameter of the entry or a built-in type, if only the name is
written, nor a declaration. -/
def Extends (n : Names) (k k' : Key) : Prop :=
  ∃ e, n.catalog.find? k = some e ∧ n.catalog.contains k' ∧
    ∃ i ∈ e.interfaces, i.head? = some k' ∧
      ¬(i.isBare ∧ (k'.1 ∈ e.parameters ∨ (NamedTypeOf.builtin? k'.1).isSome)) ∧
        ¬n.registry.contains k'.1

variable {n : Names} {starts : Key → Prop} {k k' : Key}

theorem Extends.lists (h : n.Extends k k') : n.Lists k k' := by
  obtain ⟨e, he, _, i, hi, hhead, _⟩ := h
  exact ⟨e, he, i, hi, hhead⟩

theorem Extends.opens (h : n.Extends k k') : n.Opens k k' := by
  obtain ⟨e, he, _, i, hi, hhead, hbare, hdeclared⟩ := h
  refine ⟨e, he, i, hi, .head hhead ?_ hdeclared⟩
  rintro ⟨hi, h⟩
  exact hbare ⟨hi, h.imp_left of_decide_eq_true⟩

theorem Extends.contains (h : n.Extends k k') : n.catalog.contains k' := by
  obtain ⟨_, _, hc, _⟩ := h
  exact hc

/-! ### Climbing the stack -/

/-- **A head climbs the stack** where nothing fails: what the entry at the top extends is not on the
stack, since listing it would close a cycle. -/
theorem Stacked.extend (hok : ∀ err, ¬n.Fails starts [] err) {rest : List Key}
    (hstack : n.Stacked starts [] (k :: rest)) (h : n.Extends k k') :
    n.Stacked starts [] (k' :: k :: rest) := by
  refine .next hstack h.opens h.contains fun hmem => ?_
  exact hok _ ⟨_, hstack, .closes h.lists hmem⟩

/-- Heads that are followed from the top lead to the top of another stack. -/
theorem Stacked.extend_reflTransGen (hok : ∀ err, ¬n.Fails starts [] err) {rest : List Key}
    (hstack : n.Stacked starts [] (k :: rest)) (h : Relation.ReflTransGen n.Extends k k') :
    ∃ rest', n.Stacked starts [] (k' :: rest') := by
  induction h with
  | refl => exact ⟨rest, hstack⟩
  | tail _ hstep ih =>
    obtain ⟨rest', hstack'⟩ := ih
    exact ⟨_, hstack'.extend hok hstep⟩

/-- The key from which they were followed stays below. -/
theorem Stacked.extend_transGen (hok : ∀ err, ¬n.Fails starts [] err) {rest : List Key}
    (hstack : n.Stacked starts [] (k :: rest)) (h : Relation.TransGen n.Extends k k') :
    ∃ rest', n.Stacked starts [] (k' :: rest') ∧ k ∈ rest' := by
  induction h with
  | single hstep => exact ⟨_, hstack.extend hok hstep, List.mem_cons_self⟩
  | tail _ hstep ih =>
    obtain ⟨rest', hstack', hk⟩ := ih
    exact ⟨_, hstack'.extend hok hstep, List.mem_cons_of_mem _ hk⟩

/-- **Heads lead into no cycle** where nothing fails. -/
theorem not_transGen_extends (hok : ∀ err, ¬n.Fails starts [] err) (hk : starts k)
    (hc : n.catalog.contains k) (hpath : Relation.ReflTransGen n.Extends k k') :
    ¬Relation.TransGen n.Extends k' k' := by
  intro hcycle
  have hfirst : n.Stacked starts [] [k] := .first hk hc List.not_mem_nil
  obtain ⟨rest, hstack⟩ := hfirst.extend_reflTransGen hok hpath
  obtain ⟨rest', hagain, hmem⟩ := hstack.extend_transGen hok hcycle
  exact (List.nodup_cons.mp (hagain.nodup List.nodup_nil)).1 hmem

/-! ### Resolution halts and misses no cycle -/

/-- **Resolution halts and misses no cycle**, for every catalog, all declared names, every scope and
every reference.

Over every stack the resolver halts, with an outcome and with the stack as it was. Over a stack of
different keys of the catalog, such as the empty one, no state has a key on its stack twice or a key
that is not in the catalog. And if the heads of interface lists lead from an entry that the
reference looks up into a cycle of entries, the reference does not resolve. -/
theorem halts_and_misses_no_cycle (n : Names) (scope : Scope) (r : Reference) :
    (∀ pending : List Key, ⟨pending, .outcome (n.resolve pending scope r), []⟩ ∈
      StateTransition.eval (Resolver.step n) (Resolver.start pending scope r)) ∧
    (∀ pending : List Key, pending.Nodup → (∀ k ∈ pending, n.catalog.contains k) →
      ∀ s, Reaches (Resolver.step n) (Resolver.start pending scope r) s →
        s.pending.Nodup ∧ ∀ k ∈ s.pending, n.catalog.contains k) ∧
    ∀ k, n.LooksUp scope.binds r k → n.catalog.contains k →
      (∃ k', Relation.ReflTransGen n.Extends k k' ∧ Relation.TransGen n.Extends k' k') →
        ∀ t, n.resolve [] scope r ≠ .ok t := by
  refine ⟨fun pending => Resolver.halts_at_resolve n pending scope r, ?_, ?_⟩
  · intro pending hnodup hlisted s hs
    have hsound := Resolver.sound_of_reaches (Resolver.sound_start hnodup hlisted) hs
    exact ⟨hsound.nodup, hsound.listed⟩
  · rintro k hk hc ⟨k', hpath, hcycle⟩ t ht
    exact not_transGen_extends (not_fails_of_resolve ht) hk hc hpath hcycle

/-- `Foo<T>` leads to itself with larger and larger arguments, and two interfaces list each other,
one of them below an array's type. -/
def growingCatalog : Catalog :=
  { entries :=
      [{ name := "IBar", kind := .interfaceType, parameters := ["T"] },
       { name := "Foo", parameters := ["T"]
         interfaces := [.named "IBar"
          [.named "Foo" [.named "Foo" [.simple "T"] none none none] none none none]
          none none none] },
       { name := "INode", kind := .interfaceType
         interfaces := [.named "IBar" [.array (.simple "INode")] none none none,
          .simple "IItem"] },
       { name := "IItem", kind := .interfaceType, interfaces := [.simple "INode"] }] }

/-- Nothing is declared besides the catalog. -/
def growingNames : Names :=
  { registry := {}, catalog := growingCatalog }

theorem extends_node_item : growingNames.Extends ("INode", 0) ("IItem", 0) :=
  ⟨_, rfl, rfl, _, .tail _ (.head _), rfl, by decide, by decide⟩

theorem extends_item_node : growingNames.Extends ("IItem", 0) ("INode", 0) :=
  ⟨_, rfl, rfl, _, .head _, rfl, by decide, by decide⟩

theorem halts_and_misses_no_cycle_growing :
    [("IBar", 1)].Nodup ∧ (∀ k ∈ [("IBar", 1)], growingCatalog.contains k) ∧
      (∀ s, Reaches (Resolver.step growingNames)
          (Resolver.start [("IBar", 1)] [] (.named "Foo" [.simple "int"] none none none)) s →
        s.pending.Nodup ∧ ∀ k ∈ s.pending, growingCatalog.contains k) ∧
      growingNames.LooksUp (Scope.binds []) (.array (.simple "INode")) ("INode", 0) ∧
      growingCatalog.contains ("INode", 0) ∧
      Relation.TransGen growingNames.Extends ("INode", 0) ("INode", 0) ∧
      ∀ t, growingNames.resolve [] [] (.array (.simple "INode")) ≠ .ok t := by
  have hnodup : [("IBar", 1)].Nodup := by decide
  have hlisted : ∀ k ∈ [("IBar", 1)], growingCatalog.contains k := by decide
  have hlooks : growingNames.LooksUp (Scope.binds []) (.array (.simple "INode")) ("INode", 0) :=
    .element (.simple (by decide))
  have hcycle : Relation.TransGen growingNames.Extends ("INode", 0) ("INode", 0) :=
    .tail (.single extends_node_item) extends_item_node
  obtain ⟨-, hsound, -⟩ :=
    halts_and_misses_no_cycle growingNames [] (.named "Foo" [.simple "int"] none none none)
  obtain ⟨-, -, hmisses⟩ := halts_and_misses_no_cycle growingNames [] (.array (.simple "INode"))
  exact ⟨hnodup, hlisted, hsound _ hnodup hlisted, hlooks, rfl, hcycle,
    hmisses _ hlooks rfl ⟨_, .refl, hcycle⟩⟩

end Names

end DeclGen
