import DeclGen.Proofs.Resolution.Lookups

/-!
# The pending keys

Resolution keeps the keys whose entries are being resolved on a stack. The stack is one for both
ways in which an entry leads to another: through the interfaces that it lists, and through whatever
else occurs in them, such as type arguments. This file says which stacks there are
(`DeclGen.Names.Stacked`) and when resolution fails (`DeclGen.Names.exists_error_iff`): exactly if a
fault is met at the reference itself or at the top of such a stack, or if the entry at the top lists
a key that is on it.

The two halves are an induction each. That every error has such a cause is an induction over the
resolution, and a stack then grows at its bottom (`DeclGen.Names.Stacked.onto`). That every such
cause is an error is an induction over the stack, which grows at its top: of a reference that
resolves, everything that it opens resolves too.
-/

namespace DeclGen

/-- The type parameters of an entry are in scope in its interfaces. -/
def Catalog.Entry.binds (e : Catalog.Entry) (name : String) : Bool :=
  decide (name ∈ e.parameters)

theorem Catalog.key_of_find? {c : Catalog} {k : Key} {e : Entry} (h : c.find? k = some e) :
    e.key = k := by
  simpa using List.find?_some h

/-- The parameters of an entry, bound to as many arguments as the key says. -/
theorem Catalog.binds_bind_of_find? {c : Catalog} {k : Key} {e : Entry} {args : List SourceType}
    (h : c.find? k = some e) (hargs : args.length = k.2) :
    (Scope.bind e.parameters args).binds = e.binds := by
  rw [Scope.binds_bind (by rw [hargs, ← key_of_find? h]; rfl)]
  rfl

namespace Names

open Catalog (Key)

/-- The entry of one key **opens** another: one of its interfaces looks the other up. -/
def Opens (n : Names) (k k' : Key) : Prop :=
  ∃ e, n.catalog.find? k = some e ∧ ∃ i ∈ e.interfaces, n.LooksUp e.binds i k'

/-- The entry of one key **lists** another: it is written as one of the interfaces. -/
def Lists (n : Names) (k k' : Key) : Prop :=
  ∃ e, n.catalog.find? k = some e ∧ ∃ i ∈ e.interfaces, i.head? = some k'

/-- The **faults of an entry**: those of its interfaces by themselves. -/
def EntryFault (n : Names) (k : Key) (err : LoadError) : Prop :=
  ∃ e, n.catalog.find? k = some e ∧ ∃ i ∈ e.interfaces, n.Fault e.binds i err

/-- **The stacks of pending keys** over `pending`, of which the first is one that `starts`: each key
is in the catalog and opened by the one below it, and none is there twice. -/
inductive Stacked (n : Names) (starts : Key → Prop) (pending : List Key) : List Key → Prop
  /-- The first key is looked up. -/
  | first {k : Key} : starts k → n.catalog.contains k → k ∉ pending →
      Stacked n starts pending (k :: pending)
  /-- Each further key is opened by the one below it. -/
  | next {k k' : Key} {rest : List Key} : Stacked n starts pending (k :: rest) → n.Opens k k' →
      n.catalog.contains k' → k' ∉ k :: rest → Stacked n starts pending (k' :: k :: rest)

/-- **What goes wrong at the top of a stack.** -/
inductive FailsAt (n : Names) : List Key → LoadError → Prop
  /-- The entry at the top lists a key that is pending. -/
  | closes {k closing : Key} {rest : List Key} : n.Lists k closing → closing ∈ k :: rest →
      FailsAt n (k :: rest) (.cyclicInheritance closing.1)
  /-- The entry at the top has a fault. -/
  | fault {k : Key} {rest : List Key} {err : LoadError} : n.EntryFault k err →
      FailsAt n (k :: rest) err

/-- Something goes wrong at the top of a stack over `pending`. -/
def Fails (n : Names) (starts : Key → Prop) (pending : List Key) (err : LoadError) : Prop :=
  ∃ stack, n.Stacked starts pending stack ∧ n.FailsAt stack err

variable {n : Names} {starts : Key → Prop} {pending : List Key} {scope : Scope}

/-! ### Stacks -/

theorem Stacked.mono {starts' : Key → Prop} (hsub : ∀ k, starts k → starts' k) {stack : List Key}
    (h : n.Stacked starts pending stack) : n.Stacked starts' pending stack := by
  induction h with
  | first hk hc hp => exact .first (hsub _ hk) hc hp
  | next _ ho hc hp ih => exact .next ih ho hc hp

/-- **A stack grows at its bottom**: what a pending key opens is stacked over that key. -/
theorem Stacked.onto {k : Key} (hk : starts k) (hc : n.catalog.contains k) (hp : k ∉ pending)
    {stack : List Key} (h : n.Stacked (n.Opens k) (k :: pending) stack) :
    n.Stacked starts pending stack := by
  induction h with
  | first ho hc' hp' => exact .next (.first hk hc hp) ho hc' hp'
  | next _ ho hc' hp' ih => exact .next ih ho hc' hp'

theorem Fails.mono {starts' : Key → Prop} (hsub : ∀ k, starts k → starts' k) {err : LoadError}
    (h : n.Fails starts pending err) : n.Fails starts' pending err := by
  obtain ⟨stack, hstack, herr⟩ := h
  exact ⟨stack, hstack.mono hsub, herr⟩

/-- The keys of a stack are different, as long as those below it are. -/
theorem Stacked.nodup (hpending : pending.Nodup) {stack : List Key}
    (h : n.Stacked starts pending stack) : stack.Nodup := by
  induction h with
  | first _ _ hp => exact List.nodup_cons.mpr ⟨hp, hpending⟩
  | next _ _ _ hp ih => exact List.nodup_cons.mpr ⟨hp, ih⟩

/-! ### An error has a cause -/

/-- **Every error has a cause**, at the reference itself or at the top of a stack. -/
theorem cause_of_resolution (n : Names) :
    (∀ (pending : List Key) (scope : Scope) (r : Reference) (err : LoadError),
      n.resolve pending scope r = .error err →
        n.Fault scope.binds r err ∨ n.Fails (n.LooksUp scope.binds r) pending err) ∧
    (∀ (pending : List Key) (scope : Scope) (rs : List Reference) (err : LoadError),
      n.resolveAll pending scope rs = .error err →
        ∃ r ∈ rs, n.Fault scope.binds r err ∨ n.Fails (n.LooksUp scope.binds r) pending err) ∧
    (∀ (pending : List Key) (name : String) (args : List SourceType) (err : LoadError),
      n.libraryType pending name args = .error err →
        n.Fails (Eq (name, args.length)) pending err) ∧
    ∀ (pending : List Key) (scope : Scope) (rs : List Reference) (err : LoadError),
      n.resolveInterfaces pending scope rs = .error err →
        ∃ r ∈ rs,
          (∃ closing ∈ pending, r.head? = some closing ∧ err = .cyclicInheritance closing.1) ∨
            n.Fault scope.binds r err ∨ n.Fails (n.LooksUp scope.binds r) pending err := by
  refine resolve.mutual_induct n _ _ _ _ ?known ?unknown ?array ?param ?noParam ?named
    ?allNil ?allCons ?unlisted ?pending ?opened ?nil ?cycle ?cons
  case known =>
    intro pending scope name t hknown err h
    rw [(resolve_simple_eq_error.mp h).1] at hknown
    cases hknown
  case unknown =>
    intro pending scope name hnone ih err h
    have hunknown : n.knows scope.binds true name 0 = false := known?_eq_none_iff.mp hnone
    refine Or.inr ((ih err (resolve_simple_eq_error.mp h).2).mono ?_)
    rintro k rfl
    exact .simple hunknown
  case array =>
    intro pending scope element ih err h
    rcases ih err (resolve_array_eq_error.mp h) with hf | hf
    · exact Or.inl (.element hf)
    · exact Or.inr (hf.mono fun _ => .element)
  case param =>
    intro pending scope name t hsome err h
    rw [(resolve_param_eq_error.mp h).1] at hsome
    cases hsome
  case noParam =>
    intro pending scope name hnone err h
    obtain ⟨_, rfl⟩ := resolve_param_eq_error.mp h
    exact Or.inl (.param (by rw [Scope.binds, hnone]; rfl))
  case named =>
    intro pending scope name args kind special interfaces iha ihl ihi err h
    rcases resolve_named_eq_error.mp h with h | ⟨as, has, hnone, h⟩
    · obtain ⟨a, ha, hf | hf⟩ := iha err h
      · exact Or.inl (.arg ha hf)
      · exact Or.inr (hf.mono fun _ => .arg ha)
    · have hlen := (resolveAll_ok has).1
      have hunknown : n.knows scope.binds (isPlain kind special interfaces) name args.length
          = false := hlen ▸ known?_eq_none_iff.mp hnone
      rcases h with h | ⟨l, _, h | ⟨s, _, h⟩⟩
      · -- The catalog is asked with the arguments' types, the written reference with their number.
        refine Or.inr ((ihl as err h).mono ?_)
        rintro k rfl
        exact hlen ▸ .named hunknown
      · obtain ⟨tag, rfl, htag, rfl⟩ := specialOr_eq_error.mp h
        exact Or.inl (.role hunknown htag)
      · cases interfaces with
        | none => cases h
        | some written =>
          obtain ⟨i, hi, hf | hf⟩ := ihi err h
          · exact Or.inl (.interface hunknown hi hf)
          · exact Or.inr (hf.mono fun _ => .interface hunknown hi)
  case allNil =>
    intro pending scope err h
    rw [resolveAll_nil] at h
    cases h
  case allCons =>
    intro pending scope r rest ihr ihrest err h
    rw [resolveAll_cons] at h
    rcases cons_eq_error.mp h with h | ⟨_, _, h⟩
    · exact ⟨r, List.mem_cons_self, ihr err h⟩
    · obtain ⟨r', hr', hf⟩ := ihrest err h
      exact ⟨r', List.mem_cons_of_mem _ hr', hf⟩
  case unlisted =>
    intro pending name args hnone err h
    rw [libraryType_unlisted hnone] at h
    cases h
  case pending =>
    intro pending name args e he hk err h
    rw [libraryType_pending he hk] at h
    cases h
  case opened =>
    intro pending name args e he hk _ ih err h
    rw [libraryType_open he hk] at h
    have hcontains : n.catalog.contains (name, args.length) := by rw [Catalog.contains, he]; rfl
    have hfirst : n.Stacked (Eq (name, args.length)) pending ((name, args.length) :: pending) :=
      .first rfl hcontains hk
    rcases bind_eq_error.mp h with h | ⟨_, _, h⟩
    · obtain ⟨i, hi, hcause⟩ := ih err h
      rw [Catalog.binds_bind_of_find? he rfl] at hcause
      rcases hcause with ⟨closing, hclosing, hhead, rfl⟩ | hf | ⟨stack, hstack, herr⟩
      -- The entry is the first on its stack, so what it lists closes at once.
      · exact ⟨_, hfirst, .closes ⟨e, he, i, hi, hhead⟩ hclosing⟩
      · exact ⟨_, hfirst, .fault ⟨e, he, i, hi, hf⟩⟩
      -- What fails over the opened key fails over the keys below it.
      · have hopens : ∀ k', n.LooksUp e.binds i k' → n.Opens (name, args.length) k' :=
          fun k' hk' => ⟨e, he, i, hi, hk'⟩
        exact ⟨stack, .onto rfl hcontains hk (hstack.mono hopens), herr⟩
    · cases h
  case nil =>
    intro pending scope err h
    rw [resolveInterfaces_nil] at h
    cases h
  case cycle =>
    intro pending scope r rest name k hsome err h
    obtain ⟨hhead, hmem⟩ := Option.filter_eq_some_iff.mp hsome
    have hpending : (name, k) ∈ pending := by simpa using hmem
    rw [resolveInterfaces_cycle hhead hpending] at h
    cases h
    exact ⟨r, List.mem_cons_self, Or.inl ⟨(name, k), hpending, hhead, rfl⟩⟩
  case cons =>
    intro pending scope r rest hnone ihr ihrest err h
    rw [resolveInterfaces_step (head?_filter_eq_none_iff.mp hnone)] at h
    rcases cons_eq_error.mp h with h | ⟨_, _, h⟩
    · exact ⟨r, List.mem_cons_self, Or.inr (ihr err h)⟩
    · obtain ⟨r', hr', hf⟩ := ihrest err h
      exact ⟨r', List.mem_cons_of_mem _ hr', hf⟩

/-! ### A cause is an error -/

/-- **Of the interfaces of an entry that resolve none is pending**, and each resolves. -/
theorem resolveInterfaces_ok {rs : List Reference} {ts : List SourceType}
    (h : n.resolveInterfaces pending scope rs = .ok ts) :
    ∀ r ∈ rs, (∀ key, r.head? = some key → key ∉ pending) ∧
      ∃ t, n.resolve pending scope r = .ok t := by
  induction rs generalizing ts with
  | nil => exact List.forall_mem_nil _
  | cons r rest ih =>
    have hhead : ∀ key, r.head? = some key → key ∉ pending := by
      rintro ⟨name, k⟩ hkey hmem
      rw [resolveInterfaces_cycle hkey hmem] at h
      cases h
    rw [resolveInterfaces_step hhead] at h
    obtain ⟨t, ts', ht, hts, _⟩ := cons_eq_ok.mp h
    exact List.forall_mem_cons.mpr ⟨⟨hhead, t, ht⟩, ih hts⟩

/-- **An entry that is opened and answers** has interfaces that resolve over its own key. -/
theorem interfaces_of_libraryType {k : Key} {rest : List Key} {as : List SourceType}
    {l : NamedType} (hc : n.catalog.contains k) (hp : k ∉ rest) (has : as.length = k.2)
    (h : n.libraryType rest k.1 as = .ok l) :
    ∃ e, n.catalog.find? k = some e ∧ ∀ i ∈ e.interfaces,
      (∀ key, i.head? = some key → key ∉ k :: rest) ∧
        ∃ t scope, scope.binds = e.binds ∧ n.resolve (k :: rest) scope i = .ok t := by
  obtain ⟨e, he⟩ := Option.isSome_iff_exists.mp hc
  have hkey : (k.1, as.length) = k := by rw [has]
  rw [libraryType_open (by rw [hkey]; exact he) (by rw [hkey]; exact hp), hkey] at h
  obtain ⟨is, his, _⟩ := bind_eq_ok.mp h
  refine ⟨e, he, fun i hi => ?_⟩
  obtain ⟨hhead, t, ht⟩ := resolveInterfaces_ok his i hi
  exact ⟨hhead, t, _, Catalog.binds_bind_of_find? he has, ht⟩

/-- **Every stack of a reference that resolves answers**: so does the key at its top. -/
theorem libraryType_of_stacked {r : Reference} {t : SourceType}
    (h : n.resolve pending scope r = .ok t) {stack : List Key}
    (hstack : n.Stacked (n.LooksUp scope.binds r) pending stack) :
    ∀ k rest, stack = k :: rest → n.catalog.contains k ∧ k ∉ rest ∧
      ∃ as l, as.length = k.2 ∧ n.libraryType rest k.1 as = .ok l := by
  induction hstack with
  | first hk hc hp =>
    rintro _ _ ⟨⟩
    exact ⟨hc, hp, libraryType_of_looksUp hk t h⟩
  | next _ ho hc hp ih =>
    -- The key below answers, so each of its interfaces resolves, and the one that opens this key.
    rintro _ _ ⟨⟩
    obtain ⟨hc₀, hp₀, as, l, has, hl⟩ := ih _ _ rfl
    obtain ⟨e, he, hinterfaces⟩ := interfaces_of_libraryType hc₀ hp₀ has hl
    obtain ⟨e', he', i, hi, hk⟩ := ho
    rw [he] at he'
    cases he'
    obtain ⟨_, s, scope', hbinds, hs⟩ := hinterfaces i hi
    exact ⟨hc, hp, libraryType_of_looksUp (hbinds ▸ hk) s hs⟩

/-- **Nothing goes wrong on the stacks of a reference that resolves.** -/
theorem not_fails_of_resolve {r : Reference} {t : SourceType}
    (h : n.resolve pending scope r = .ok t) (err : LoadError) :
    ¬n.Fails (n.LooksUp scope.binds r) pending err := by
  rintro ⟨stack, hstack, herr⟩
  cases herr with
  | @closes k closing rest hlists hclosing =>
    obtain ⟨hc, hp, as, l, has, hl⟩ := libraryType_of_stacked h hstack k rest rfl
    obtain ⟨e, he, hinterfaces⟩ := interfaces_of_libraryType hc hp has hl
    obtain ⟨e', he', i, hi, hhead⟩ := hlists
    rw [he] at he'
    cases he'
    exact (hinterfaces i hi).1 closing hhead hclosing
  | @fault k rest err hfault =>
    obtain ⟨hc, hp, as, l, has, hl⟩ := libraryType_of_stacked h hstack k rest rfl
    obtain ⟨e, he, hinterfaces⟩ := interfaces_of_libraryType hc hp has hl
    obtain ⟨e', he', i, hi, hf⟩ := hfault
    rw [he] at he'
    cases he'
    obtain ⟨_, s, scope', hbinds, hs⟩ := hinterfaces i hi
    exact not_fault_of_resolve (hbinds ▸ hf) s hs

/-- **Resolution fails exactly if there is a cause.** -/
theorem exists_error_iff {r : Reference} :
    (∃ err, n.resolve pending scope r = .error err) ↔
      ∃ err, n.Fault scope.binds r err ∨ n.Fails (n.LooksUp scope.binds r) pending err := by
  constructor
  · rintro ⟨err, h⟩
    exact ⟨err, (cause_of_resolution n).1 pending scope r err h⟩
  · rintro ⟨err, hcause⟩
    cases h : n.resolve pending scope r with
    | error err => exact ⟨err, rfl⟩
    | ok t =>
      rcases hcause with hf | hf
      · exact absurd h (not_fault_of_resolve hf t)
      · exact absurd hf (not_fails_of_resolve h err)

end Names

end DeclGen
