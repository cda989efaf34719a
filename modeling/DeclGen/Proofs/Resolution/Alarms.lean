import DeclGen.Proofs.Loading
import DeclGen.Proofs.Resolution.Pending
import Mathlib

/-!
# Which cycles resolution tells of

One catalog entry may extend another by listing it, as a *head* of its interface list; and it may
mention another without extending it, as a type argument. Only the first makes an entry inherit from
itself (`DeclGen.Names.OnHeadCycle`), and an entry that is met again only among type arguments
should be left shallow.

That is not what resolution does. It has one stack for both, and it takes every key on the stack
that an entry lists for a cycle. So an entry that is listed *below a type argument* of its own
interfaces raises an alarm too: if `IAmount` lists `IOrdered<ICoin>` and `ICoin` lists `IAmount`, no
entry inherits from itself, and `IAmount` does not resolve (`DeclGen.Names.alarm_without_cycle`).

What raises an alarm is a **loop** (`DeclGen.Names.LoopFrom`): a chain of different entries, each
opened by the one before in whatever way, the last of which lists one of them. The alarms are
exactly the loops, and they are right where the entries of a catalog are mentioned as heads only
(`DeclGen.Names.alarm_iff_loop`).
-/

namespace DeclGen

namespace Names

open Catalog (Key)

/-- **One entry extends another**: the other is written as one of its interfaces, and not as a type
parameter of its own. -/
def HeadEdge (n : Names) (k k' : Key) : Prop :=
  ∃ e, n.catalog.find? k = some e ∧ n.catalog.contains k' ∧
    ∃ i ∈ e.interfaces, i.head? = some k' ∧ ¬(i.isBare ∧ k'.1 ∈ e.parameters)

/-- An entry of that name inherits from itself. -/
def OnHeadCycle (n : Names) (name : String) : Prop :=
  ∃ k : Key, k.1 = name ∧ Relation.TransGen n.HeadEdge k k

/-- **A loop** that starts at a reference and closes at a key: a stack of pending keys whose top
entry lists that key, which is on the stack. -/
def LoopFrom (n : Names) (scope : Scope) (r : Reference) (closing : Key) : Prop :=
  ∃ top rest, n.Stacked (n.LooksUp scope.binds r) [] (top :: rest) ∧ n.Lists top closing ∧
    closing ∈ top :: rest

/-- A fault of a reference, or of an entry that it leads to. -/
def FaultFrom (n : Names) (scope : Scope) (r : Reference) (err : LoadError) : Prop :=
  n.Fault scope.binds r err ∨
    ∃ top rest, n.Stacked (n.LooksUp scope.binds r) [] (top :: rest) ∧ n.EntryFault top err

/-- **Every alarm is right**: the cycle that is told of is one of entries that extend each other. -/
def AlarmsRight (n : Names) (scope : Scope) (r : Reference) : Prop :=
  ∀ name, n.resolve [] scope r = .error (.cyclicInheritance name) → n.OnHeadCycle name

/-- Catalog entries are mentioned **as heads only**: what an entry opens or lists it extends. -/
def HeadsOnly (n : Names) : Prop :=
  ∀ k k', n.Opens k k' ∨ n.Lists k k' → n.catalog.contains k' → n.HeadEdge k k'

variable {n : Names} {scope : Scope} {r : Reference}

/-! ### Alarms are loops -/

/-- A fault is never told of as a cycle. -/
theorem Fault.ne_cyclic {bound : String → Bool} {err : LoadError} (h : n.Fault bound r err)
    (name : String) : err ≠ .cyclicInheritance name := by
  induction h with
  | param _ => nofun
  | role _ _ => nofun
  | element _ ih => exact ih
  | arg _ _ ih => exact ih
  | interface _ _ _ ih => exact ih

/-- **An error is a fault or a loop.** -/
theorem fault_or_loop_of_error {err : LoadError} (h : n.resolve [] scope r = .error err) :
    n.FaultFrom scope r err ∨
      ∃ closing, n.LoopFrom scope r closing ∧ err = .cyclicInheritance closing.1 := by
  rcases (cause_of_resolution n).1 [] scope r err h with hf | ⟨stack, hstack, herr⟩
  · exact Or.inl (Or.inl hf)
  · cases herr with
    | closes hlists hclosing => exact Or.inr ⟨_, ⟨_, _, hstack, hlists, hclosing⟩, rfl⟩
    | fault hf => exact Or.inl (Or.inr ⟨_, _, hstack, hf⟩)

theorem FaultFrom.ne_cyclic {err : LoadError} (h : n.FaultFrom scope r err) (name : String) :
    err ≠ .cyclicInheritance name := by
  rcases h with h | ⟨_, _, _, _, _, _, _, h⟩
  · exact h.ne_cyclic name
  · exact h.ne_cyclic name

/-- **An alarm is a loop** that closes at a key of the name it tells of. -/
theorem loop_of_alarm {name : String}
    (h : n.resolve [] scope r = .error (.cyclicInheritance name)) :
    ∃ closing, n.LoopFrom scope r closing ∧ closing.1 = name := by
  rcases fault_or_loop_of_error h with hf | ⟨closing, hloop, herr⟩
  · exact absurd rfl (hf.ne_cyclic name)
  · cases herr
    exact ⟨closing, hloop, rfl⟩

/-- **No reference resolves from which a loop starts.** -/
theorem error_of_loop {closing : Key} (h : n.LoopFrom scope r closing) :
    ∃ err, n.resolve [] scope r = .error err := by
  obtain ⟨top, rest, hstack, hlists, hclosing⟩ := h
  exact exists_error_iff.mpr ⟨_, Or.inr ⟨_, hstack, .closes hlists hclosing⟩⟩

/-- Where nothing else is wrong, a loop raises an alarm. -/
theorem alarm_of_loop (hfault : ∀ err, ¬n.FaultFrom scope r err) {closing : Key}
    (h : n.LoopFrom scope r closing) :
    ∃ name, n.resolve [] scope r = .error (.cyclicInheritance name) := by
  obtain ⟨err, herr⟩ := error_of_loop h
  rcases fault_or_loop_of_error herr with hf | ⟨closing', _, rfl⟩
  · exact absurd hf (hfault err)
  · exact ⟨closing'.1, herr⟩

/-! ### Loops through heads -/

/-- Where entries are mentioned as heads only, every key on a stack leads up to its top by heads. -/
theorem Stacked.reaches_top (hheads : n.HeadsOnly) {starts : Key → Prop} {stack : List Key}
    (h : n.Stacked starts [] stack) :
    ∀ top rest, stack = top :: rest →
      ∀ k ∈ stack, Relation.ReflTransGen n.HeadEdge k top := by
  induction h with
  | first _ _ _ =>
    rintro _ _ ⟨⟩ k hk
    rw [List.mem_singleton.mp hk]
  | next _ ho hc _ ih =>
    rintro _ _ ⟨⟩ k hk
    rcases List.mem_cons.mp hk with rfl | hk
    · exact .refl
    · exact (ih _ _ rfl k hk).tail (hheads _ _ (Or.inl ho) hc)

/-- The keys of a stack are in the catalog. -/
theorem Stacked.contains {starts : Key → Prop} {stack : List Key}
    (h : n.Stacked starts [] stack) : ∀ k ∈ stack, n.catalog.contains k := by
  induction h with
  | first _ hc _ => exact List.forall_mem_singleton.mpr hc
  | next _ _ hc _ ih => exact List.forall_mem_cons.mpr ⟨hc, ih⟩

/-- **A loop through heads is a cycle of heads.** -/
theorem onHeadCycle_of_loop (hheads : n.HeadsOnly) {closing : Key}
    (h : n.LoopFrom scope r closing) : n.OnHeadCycle closing.1 := by
  obtain ⟨top, rest, hstack, hlists, hclosing⟩ := h
  -- Up the stack from the key that closes the loop, and back to it from the top.
  have hup := hstack.reaches_top hheads top rest rfl closing hclosing
  have hback := hheads top closing (Or.inr hlists) (hstack.contains closing hclosing)
  exact ⟨closing, rfl, Relation.TransGen.tail' hup hback⟩

/-! ### When alarms are right -/

/-- **Alarms are exactly loops**, for every reference, scope, catalog and set of declared names.

An alarm is a loop that closes at the name it tells of, and a reference from which a loop starts
does not resolve; so where nothing else is wrong, there is an alarm exactly if there is a loop.
Hence the alarms are right if all loops close at an entry that inherits from itself, as they do
where entries are mentioned as heads only. Where none of the loops closes so, as in a catalog in
which no entry inherits from itself, the alarms are right exactly if there is no loop. -/
theorem alarm_iff_loop (n : Names) (scope : Scope) (r : Reference) :
    (∀ name, n.resolve [] scope r = .error (.cyclicInheritance name) →
      ∃ closing, n.LoopFrom scope r closing ∧ closing.1 = name) ∧
    ((∃ closing, n.LoopFrom scope r closing) → ∃ err, n.resolve [] scope r = .error err) ∧
    ((∀ err, ¬n.FaultFrom scope r err) →
      ((∃ name, n.resolve [] scope r = .error (.cyclicInheritance name)) ↔
        ∃ closing, n.LoopFrom scope r closing)) ∧
    ((∀ closing, n.LoopFrom scope r closing → n.OnHeadCycle closing.1) → n.AlarmsRight scope r) ∧
    (n.HeadsOnly → n.AlarmsRight scope r) ∧
    ((∀ err, ¬n.FaultFrom scope r err) →
      (∀ closing, n.LoopFrom scope r closing → ¬n.OnHeadCycle closing.1) →
      (n.AlarmsRight scope r ↔ ¬∃ closing, n.LoopFrom scope r closing)) := by
  have hright : (∀ closing, n.LoopFrom scope r closing → n.OnHeadCycle closing.1) →
      n.AlarmsRight scope r := by
    intro hloops name h
    obtain ⟨closing, hloop, rfl⟩ := loop_of_alarm h
    exact hloops closing hloop
  refine ⟨fun name => loop_of_alarm, fun ⟨closing, hloop⟩ => error_of_loop hloop,
    fun hfault => ⟨?_, ?_⟩, hright, fun hheads => hright fun _ => onHeadCycle_of_loop hheads,
    fun hfault hwrong => ⟨?_, ?_⟩⟩
  · rintro ⟨name, h⟩
    obtain ⟨closing, hloop, -⟩ := loop_of_alarm h
    exact ⟨closing, hloop⟩
  · rintro ⟨closing, hloop⟩
    exact alarm_of_loop hfault hloop
  · rintro halarms ⟨closing, hloop⟩
    obtain ⟨name, h⟩ := alarm_of_loop hfault hloop
    obtain ⟨closing', hloop', rfl⟩ := loop_of_alarm h
    exact hwrong closing' hloop' (halarms _ h)
  · exact fun hnone => hright fun closing hloop => absurd ⟨closing, hloop⟩ hnone

/-! ### A wrong alarm and a right one -/

/-- Amounts are ordered by coins, and coins are amounts. -/
def coinCatalog : Catalog :=
  { entries :=
      [{ name := "IOrdered", kind := .interfaceType, parameters := ["T"] },
       { name := "IAmount", kind := .interfaceType
         interfaces := [.named "IOrdered" [.simple "ICoin"] none none none] },
       { name := "ICoin", kind := .interfaceType, interfaces := [.simple "IAmount"] }] }

/-- One class with an amount. -/
def coins : List (String × Dump) :=
  [("coins", ⟨[.type .classType
    { name := "A", members := [{ name := "X", type := .simple "IAmount" }] }]⟩)]

/-- The names that the class is resolved with. -/
def coinNames : Names :=
  { registry := Project.registryOf coins, catalog := coinCatalog }

theorem resolve_amount :
    coinNames.resolve [] [] (.simple "IAmount") = .error (.cyclicInheritance "IAmount") := by cbv

/-- The class in an order. -/
def orderedClass : Reference := .named "IOrdered" [.simple "A"] none none none

theorem resolve_orderedClass :
    coinNames.resolve [] [] orderedClass =
      .ok (.named
        { name := "IOrdered", kind := .interfaceType
          args := [.named (.ofDeclared "A" .classType [])] }) := by cbv

/-- How far a name is from the end of the heads: coins extend amounts, which extend the order. -/
def coinRank (k : Key) : Nat :=
  if k.1 = "ICoin" then 2 else if k.1 = "IAmount" then 1 else 0

theorem coinRank_lt {k k' : Key} (h : coinNames.HeadEdge k k') : coinRank k' < coinRank k := by
  obtain ⟨e, he, _, i, hi, hhead, _⟩ := h
  have hkey := Catalog.key_of_find? he
  subst hkey
  have hmem : e ∈ coinCatalog.entries := List.mem_of_find?_eq_some he
  simp only [coinCatalog, List.mem_cons, List.not_mem_nil, or_false] at hmem
  rcases hmem with rfl | rfl | rfl
  · cases hi
  · rw [List.mem_singleton.mp hi] at hhead
    cases hhead
    decide
  · rw [List.mem_singleton.mp hi] at hhead
    cases hhead
    decide

/-- **No entry inherits from itself**: the rank falls along every edge, so no key comes back to
itself. -/
theorem not_onHeadCycle_coins (name : String) : ¬coinNames.OnHeadCycle name := by
  rintro ⟨k, -, hcycle⟩
  have hdown : ∀ k', Relation.TransGen coinNames.HeadEdge k k' → coinRank k' < coinRank k := by
    intro k' h
    induction h with
    | single hstep => exact coinRank_lt hstep
    | tail _ hstep ih => exact Nat.lt_trans (coinRank_lt hstep) ih
  exact Nat.lt_irrefl _ (hdown k hcycle)

/-- The entries have no faults, so a reference without faults leads to none. -/
theorem not_faultFrom_coins {scope : Scope} {r : Reference} {err : LoadError}
    (hr : ¬coinNames.Fault scope.binds r err) : ¬coinNames.FaultFrom scope r err := by
  rintro (h | ⟨k, _, _, e, he, i, hi, hfault⟩)
  · exact hr h
  · have hmem : e ∈ coinCatalog.entries := List.mem_of_find?_eq_some he
    simp only [coinCatalog, List.mem_cons, List.not_mem_nil, or_false] at hmem
    rcases hmem with rfl | rfl | rfl
    · cases hi
    · obtain rfl := List.mem_singleton.mp hi
      simp at hfault
    · obtain rfl := List.mem_singleton.mp hi
      simp at hfault

/-- Rings are made of fields, and fields are rings. -/
def ringNames : Names where
  registry := {}
  catalog :=
    { entries :=
        [{ name := "IRing", kind := .interfaceType, interfaces := [.simple "IField"] },
         { name := "IField", kind := .interfaceType, interfaces := [.simple "IRing"] }] }

theorem resolve_ring :
    ringNames.resolve [] [] (.simple "IRing") = .error (.cyclicInheritance "IRing") := by cbv

/-- Where the entries have no parameters and list names alone, they are mentioned as heads only. -/
theorem headsOnly_rings : ringNames.HeadsOnly := by
  have hentry : ∀ e ∈ ringNames.catalog.entries,
      e.parameters = [] ∧ ∀ i ∈ e.interfaces, ∃ name, i = .simple name := by
    simp [ringNames]
  intro k k' h hcontains
  have hlists : ringNames.Lists k k' := by
    rcases h with ⟨e, he, i, hi, hlooks⟩ | hlists
    · obtain ⟨name, rfl⟩ := (hentry e (List.mem_of_find?_eq_some he)).2 i hi
      cases hlooks
      exact ⟨e, he, _, hi, rfl⟩
    · exact hlists
  obtain ⟨e, he, i, hi, hhead⟩ := hlists
  refine ⟨e, he, hcontains, i, hi, hhead, ?_⟩
  rw [(hentry e (List.mem_of_find?_eq_some he)).1]
  exact fun h => List.not_mem_nil h.2

/-- Three references. An amount raises an alarm at a loop, and the alarm is wrong; a class in an
order raises none, so no loop starts at it; and a ring raises an alarm that is right, since rings
and fields are mentioned as heads only. -/
theorem alarm_iff_loop_coins :
    (coinNames.resolve [] [] (.simple "IAmount") = .error (.cyclicInheritance "IAmount") ∧
      (∀ err, ¬coinNames.FaultFrom [] (.simple "IAmount") err) ∧
      (∃ closing, coinNames.LoopFrom [] (.simple "IAmount") closing ∧ closing.1 = "IAmount") ∧
      ¬coinNames.AlarmsRight [] (.simple "IAmount")) ∧
    ((∃ t, coinNames.resolve [] [] orderedClass = .ok t) ∧
      (∀ err, ¬coinNames.FaultFrom [] orderedClass err) ∧
      (¬∃ closing, coinNames.LoopFrom [] orderedClass closing) ∧
      coinNames.AlarmsRight [] orderedClass) ∧
    ringNames.HeadsOnly ∧
      ringNames.resolve [] [] (.simple "IRing") = .error (.cyclicInheritance "IRing") ∧
      ringNames.OnHeadCycle "IRing" := by
  have hamount : ∀ err, ¬coinNames.FaultFrom [] (.simple "IAmount") err :=
    fun _ => not_faultFrom_coins not_fault_simple
  have hordered : ∀ err, ¬coinNames.FaultFrom [] orderedClass err :=
    fun _ => not_faultFrom_coins (by simp [orderedClass])
  obtain ⟨hloops, -, -, -, -, hwrong⟩ := alarm_iff_loop coinNames [] (.simple "IAmount")
  obtain ⟨-, -, hexactly, -, -, hnowhere⟩ := alarm_iff_loop coinNames [] orderedClass
  obtain ⟨-, -, -, -, hheads, -⟩ := alarm_iff_loop ringNames [] (.simple "IRing")
  have hloop := hloops _ resolve_amount
  have hnone : ¬∃ closing, coinNames.LoopFrom [] orderedClass closing := by
    intro h
    obtain ⟨name, herror⟩ := (hexactly hordered).mpr h
    rw [resolve_orderedClass] at herror
    cases herror
  refine ⟨⟨resolve_amount, hamount, hloop, ?_⟩, ⟨⟨_, resolve_orderedClass⟩, hordered, hnone, ?_⟩,
    headsOnly_rings, resolve_ring, hheads headsOnly_rings _ resolve_ring⟩
  · intro halarms
    obtain ⟨closing, hloop, -⟩ := hloop
    exact (hwrong hamount fun _ _ => not_onHeadCycle_coins _).mp halarms ⟨closing, hloop⟩
  · exact (hnowhere hordered fun _ _ => not_onHeadCycle_coins _).mpr hnone

/-- **An alarm without a cycle**: the class is not loaded because of a cycle at `IAmount`, but no
entry of that name inherits from itself. -/
theorem alarm_without_cycle :
    (∀ d ∈ Project.written coins, ∀ e ∈ coinCatalog.entries, d.name ≠ e.name) ∧
      Project.ofDumps coinCatalog coins = .error (.cyclicInheritance "IAmount") ∧
      coinNames.resolve [] [] (.simple "IAmount") = .error (.cyclicInheritance "IAmount") ∧
      ¬coinNames.OnHeadCycle "IAmount" :=
  ⟨by decide, by cbv, resolve_amount, not_onHeadCycle_coins _⟩

end Names

end DeclGen
