import DeclGen.Proofs.Resolution.Steps
import Mathlib.Computability.StateTransition

/-!
# Resolution with one stack

`DeclGen.Names.resolve` is given the pending keys and gives none back, so it cannot leave them in
disorder. A resolver that runs has *one* stack of keys for all of its calls: a key is pushed when an
entry is opened, and it has to be taken off on every way out, also when an interface of the entry
fails somewhere deep inside. This file is that resolver, as a machine (`DeclGen.Resolver.step`). A
state has the stack, what is being done, and the frames of the calls that wait; a step opens a call
or returns from one, and every change of the stack is one step of its own.

Two things are proved of it, and they rest on different inductions.

* **The machine computes what the recursion does**, and it halts
  (`DeclGen.Resolver.halts_at_resolve`). This is an induction over the recursion, for any stack and
  any frames: the frames below are neither read nor changed until the outcome is there.
* **The stack is sound in every state** (`DeclGen.Resolver.sound_of_reaches`). This is an invariant
  of single steps. Its core is that the stack is nothing but the keys of the entries which the
  frames have open (`DeclGen.Resolver.State.opened`), over what was there at the start.
-/

namespace DeclGen

namespace Resolver

open Catalog (Key)
open StateTransition (Reaches)

/-! ### States -/

/-- What is written of a named type besides its arguments. -/
structure Spelling where
  name : String
  kind : Option DeclKind := none
  special : Option String := none
  interfaces : Option (List Reference) := none

/-- Whether nothing but the name and the arguments is written. -/
def Spelling.isPlain (w : Spelling) : Bool :=
  Names.isPlain w.kind w.special w.interfaces

/-- What a list of references is resolved for. -/
inductive Purpose where
  /-- The type arguments of a named type. -/
  | args (w : Spelling)
  /-- The interfaces of a catalog entry. They have a scope of their own, and what is written of the
  type is resolved later in the `outer` one. -/
  | entry (outer : Scope) (w : Spelling) (type : NamedType)
  /-- The interfaces that are written in place. -/
  | inPlace (type : NamedType)

/-- A list of references on the way: the types so far, and the references that are left. -/
structure Worklist where
  purpose : Purpose
  scope : Scope
  done : List SourceType := []
  rest : List Reference

/-- A call that waits for a type. -/
inductive Frame where
  /-- The type is that of an array's elements. -/
  | array
  /-- The type is the next one of a list. -/
  | list (l : Worklist)

/-- What is being done. -/
inductive Control where
  | reference (scope : Scope) (r : Reference)
  | list (l : Worklist)
  | outcome (result : Except LoadError SourceType)

/-- A state of the resolver: its stack, what it is doing, and the calls that wait, the innermost
first. -/
structure State where
  pending : List Key
  control : Control
  frames : List Frame

/-! ### Steps -/

/-- The stack after a list is left, at its end or by an error: an entry takes its key off. -/
def Purpose.leave : Purpose → List Key → List Key
  | .entry _ _ _, pending => pending.tail
  | .args _, pending | .inPlace _, pending => pending

/-- The stack after an error has left a call. -/
def Frame.leave : Frame → List Key → List Key
  | .array, pending => pending
  | .list l, pending => l.purpose.leave pending

/-- The name that the head of a reference makes a cycle of: an entry may not list a pending key. -/
def Purpose.cycle? : Purpose → List Key → Reference → Option String
  | .entry _ _ _, pending, r => (r.head?.filter pending.contains).map (·.1)
  | .args _, _, _ | .inPlace _, _, _ => none

theorem filter_contains (k? : Option Key) (pending : List Key) :
    k?.filter pending.contains = k?.filter (· ∈ pending) := by
  congr 1
  funext k
  exact List.contains_eq_mem k pending

/-- Puts what is written in place before what is known of a type. -/
def override (pending : List Key) (frames : List Frame) (scope : Scope) (w : Spelling)
    (t : NamedType) : State :=
  match Names.specialOr w.name w.special t.special with
  | .error e => ⟨pending, .outcome (.error e), frames⟩
  | .ok special =>
    let t := { t with kind := (w.kind.map DeclKind.toKind).getD t.kind, special }
    match w.interfaces with
    | none => ⟨pending, .outcome (.ok (.named t)), frames⟩
    | some rest => ⟨pending, .list { purpose := .inPlace t, scope, rest }, frames⟩

/-- Looks up a name that has got its arguments. An entry that is opened goes onto the stack. -/
def lookUp (n : Names) (pending : List Key) (frames : List Frame) (scope : Scope) (w : Spelling)
    (args : List SourceType) : State :=
  match n.known? scope w.isPlain w.name args with
  | some t => ⟨pending, .outcome (.ok t), frames⟩
  | none =>
    match n.catalog.find? (w.name, args.length) with
    | none =>
      override pending frames scope w { NamedTypeOf.external w.name .classType with args }
    | some e =>
      let shallow := Names.shallowType e w.name args
      if pending.contains (w.name, args.length) then override pending frames scope w shallow
      else
        { pending := (w.name, args.length) :: pending
          control := .list
            { purpose := .entry scope w shallow, scope := .bind e.parameters args
              rest := e.interfaces }
          frames }

/-- Goes on after the last reference of a list. -/
def finish (n : Names) (pending : List Key) (frames : List Frame) (scope : Scope)
    (types : List SourceType) : Purpose → State
  | .args w => lookUp n pending frames scope w types
  | .entry outer w t => override pending.tail frames outer w { t with interfaces := types }
  | .inPlace t => ⟨pending, .outcome (.ok (.named { t with interfaces := types })), frames⟩

/-- One step of the resolver. It has halted when there is an outcome and no call waits for it. -/
def step (n : Names) : State → Option State
  | ⟨pending, .reference scope (.simple name), frames⟩ =>
    some ⟨pending, .list { purpose := .args { name }, scope, rest := [] }, frames⟩
  | ⟨pending, .reference scope (.array element), frames⟩ =>
    some ⟨pending, .reference scope element, .array :: frames⟩
  | ⟨pending, .reference scope (.param name), frames⟩ =>
    match scope.lookup name with
    | some t => some ⟨pending, .outcome (.ok t), frames⟩
    | none => some ⟨pending, .outcome (.error (.unknownParameter name)), frames⟩
  | ⟨pending, .reference scope (.named name args kind special interfaces), frames⟩ =>
    let w : Spelling := { name, kind, special, interfaces }
    some ⟨pending, .list { purpose := .args w, scope, rest := args }, frames⟩
  | ⟨pending, .list ⟨purpose, scope, done, []⟩, frames⟩ =>
    some (finish n pending frames scope done purpose)
  | ⟨pending, .list ⟨purpose, scope, done, r :: rest⟩, frames⟩ =>
    match purpose.cycle? pending r with
    | some name =>
      some ⟨purpose.leave pending, .outcome (.error (.cyclicInheritance name)), frames⟩
    | none =>
      some ⟨pending, .reference scope r, .list ⟨purpose, scope, done, rest⟩ :: frames⟩
  | ⟨pending, .outcome (.ok t), .array :: frames⟩ =>
    some ⟨pending, .outcome (.ok (.array t)), frames⟩
  | ⟨pending, .outcome (.ok t), .list l :: frames⟩ =>
    some ⟨pending, .list { l with done := l.done ++ [t] }, frames⟩
  | ⟨pending, .outcome (.error e), f :: frames⟩ =>
    some ⟨f.leave pending, .outcome (.error e), frames⟩
  | ⟨_, .outcome _, []⟩ => none

/-- With an outcome and no call that waits the machine has halted. -/
theorem step_outcome {n : Names} {pending : List Key} {result : Except LoadError SourceType} :
    step n ⟨pending, .outcome result, []⟩ = none := by
  cases result <;> rfl

/-- The state in which a reference is about to be resolved, and no call waits. -/
def start (pending : List Key) (scope : Scope) (r : Reference) : State :=
  ⟨pending, .reference scope r, []⟩

variable {n : Names}

/-! ### The machine computes what the recursion does -/

/-- One step, and then some more. -/
theorem reaches_of_step {s s' t : State} (h : step n s = some s') (ht : Reaches (step n) s' t) :
    Reaches (step n) s t :=
  Relation.ReflTransGen.head h ht

/-- Where a list of references ends that is resolved for some purpose: after its last reference, or
left with an error. -/
def listEnd (pending : List Key) (frames : List Frame) (scope : Scope) (purpose : Purpose)
    (done : List SourceType) : Except LoadError (List SourceType) → State
  | .ok types => ⟨pending, .list ⟨purpose, scope, done ++ types, []⟩, frames⟩
  | .error e => ⟨purpose.leave pending, .outcome (.error e), frames⟩

/-- Where the look-up of a library type ends. -/
def libraryEnd (pending : List Key) (frames : List Frame) (scope : Scope) (w : Spelling) :
    Except LoadError NamedType → State
  | .ok t => override pending frames scope w t
  | .error e => ⟨pending, .outcome (.error e), frames⟩

/-- A list goes on with the rest once its first reference is resolved. -/
theorem reaches_listEnd_cons {pending : List Key} {frames : List Frame} {scope : Scope}
    {purpose : Purpose} {done : List SourceType} {r : Reference} {rest : List Reference}
    {first : Except LoadError SourceType} {later : Except LoadError (List SourceType)}
    (hcycle : purpose.cycle? pending r = none)
    (hfirst : ∀ frames, Reaches (step n) ⟨pending, .reference scope r, frames⟩
      ⟨pending, .outcome first, frames⟩)
    (hlater : ∀ done, Reaches (step n) ⟨pending, .list ⟨purpose, scope, done, rest⟩, frames⟩
      (listEnd pending frames scope purpose done later)) :
    Reaches (step n) ⟨pending, .list ⟨purpose, scope, done, r :: rest⟩, frames⟩
      (listEnd pending frames scope purpose done
        (first >>= fun t => later >>= fun ts => .ok (t :: ts))) := by
  have hcall : step n ⟨pending, .list ⟨purpose, scope, done, r :: rest⟩, frames⟩ =
      some ⟨pending, .reference scope r, .list ⟨purpose, scope, done, rest⟩ :: frames⟩ := by
    simp only [step, hcycle]
  refine reaches_of_step hcall ((hfirst _).trans ?_)
  cases first with
  | error e => exact reaches_of_step rfl .refl
  | ok t =>
    refine reaches_of_step rfl ((hlater (done ++ [t])).trans ?_)
    cases later with
    | error e => exact .refl
    | ok ts =>
      rw [listEnd, List.append_assoc]
      exact .refl

/-- What is written in place comes after the look-up, in the scope of the reference. -/
theorem reaches_override {pending : List Key} {scope : Scope} {w : Spelling} (t : NamedType)
    (hwritten : ∀ written, w.interfaces = some written → ∀ purpose : Purpose,
      (∀ r, purpose.cycle? pending r = none) → ∀ done frames,
      Reaches (step n) ⟨pending, .list ⟨purpose, scope, done, written⟩, frames⟩
        (listEnd pending frames scope purpose done (n.resolveAll pending scope written)))
    (frames : List Frame) :
    Reaches (step n) (override pending frames scope w t)
      ⟨pending, .outcome (Names.specialOr w.name w.special t.special >>= fun special =>
        n.interfacesOr pending scope w.interfaces t.interfaces >>= fun interfaces =>
          .ok (.named { t with
            kind := (w.kind.map DeclKind.toKind).getD t.kind, special, interfaces })), frames⟩ := by
  obtain ⟨name, kind, special, interfaces⟩ := w
  unfold override
  cases Names.specialOr name special t.special with
  | error e => exact .refl
  | ok s =>
    cases interfaces with
    | none => exact .refl
    | some written =>
      refine (hwritten written rfl (.inPlace _) (fun _ => rfl) [] frames).trans ?_
      change Reaches (step n) _ ⟨pending, .outcome
        (n.resolveAll pending scope written >>= fun is => .ok (.named { t with
          kind := (kind.map DeclKind.toKind).getD t.kind, special := s, interfaces := is })),
        frames⟩
      cases n.resolveAll pending scope written with
      | error e => exact .refl
      | ok is => exact reaches_of_step rfl .refl

/-- A named type is looked up once its arguments are there. -/
theorem reaches_named {pending : List Key} {scope : Scope} {args : List Reference} {w : Spelling}
    (hargs : ∀ purpose : Purpose, (∀ r, purpose.cycle? pending r = none) → ∀ done frames,
      Reaches (step n) ⟨pending, .list ⟨purpose, scope, done, args⟩, frames⟩
        (listEnd pending frames scope purpose done (n.resolveAll pending scope args)))
    (hlibrary : ∀ as, n.known? scope w.isPlain w.name as = none → ∀ frames,
      Reaches (step n) (lookUp n pending frames scope w as)
        (libraryEnd pending frames scope w (n.libraryType pending w.name as)))
    (hwritten : ∀ written, w.interfaces = some written → ∀ purpose : Purpose,
      (∀ r, purpose.cycle? pending r = none) → ∀ done frames,
      Reaches (step n) ⟨pending, .list ⟨purpose, scope, done, written⟩, frames⟩
        (listEnd pending frames scope purpose done (n.resolveAll pending scope written)))
    (frames : List Frame) :
    Reaches (step n) ⟨pending, .list ⟨.args w, scope, [], args⟩, frames⟩
      ⟨pending, .outcome (n.resolve pending scope
        (.named w.name args w.kind w.special w.interfaces)), frames⟩ := by
  rw [Names.resolve_named]
  refine (hargs (.args w) (fun _ => rfl) [] frames).trans ?_
  cases n.resolveAll pending scope args with
  | error e => exact .refl
  | ok as =>
    refine reaches_of_step rfl ?_
    rw [List.nil_append, finish, ok_bind]
    cases hknown : n.known? scope w.isPlain w.name as with
    | some t =>
      rw [Spelling.isPlain] at hknown
      simp only [lookUp, Spelling.isPlain, hknown]
      exact .refl
    | none =>
      refine (hlibrary as hknown frames).trans ?_
      rw [Spelling.isPlain] at hknown
      rw [hknown]
      cases n.libraryType pending w.name as with
      | error e => exact .refl
      | ok l => exact reaches_override l hwritten frames

/-- **The machine computes what the recursion does**, for every part of it and over every stack and
all frames. -/
theorem reaches_resolution (n : Names) :
    (∀ (pending : List Key) (scope : Scope) (r : Reference), ∀ frames,
      Reaches (step n) ⟨pending, .reference scope r, frames⟩
        ⟨pending, .outcome (n.resolve pending scope r), frames⟩) ∧
    (∀ (pending : List Key) (scope : Scope) (rs : List Reference), ∀ purpose : Purpose,
      (∀ r, purpose.cycle? pending r = none) → ∀ done frames,
      Reaches (step n) ⟨pending, .list ⟨purpose, scope, done, rs⟩, frames⟩
        (listEnd pending frames scope purpose done (n.resolveAll pending scope rs))) ∧
    (∀ (pending : List Key) (name : String) (args : List SourceType),
      ∀ (scope : Scope) (w : Spelling), w.name = name →
      n.known? scope w.isPlain name args = none → ∀ frames,
      Reaches (step n) (lookUp n pending frames scope w args)
        (libraryEnd pending frames scope w (n.libraryType pending name args))) ∧
    ∀ (pending : List Key) (scope : Scope) (rs : List Reference), ∀ outer w t done frames,
      Reaches (step n) ⟨pending, .list ⟨.entry outer w t, scope, done, rs⟩, frames⟩
        (listEnd pending frames scope (.entry outer w t) done
          (n.resolveInterfaces pending scope rs)) := by
  refine Names.resolve.mutual_induct n _ _ _ _ ?known ?unknown ?array ?param ?noParam ?named
    ?allNil ?allCons ?unlisted ?pending ?opened ?nil ?cycle ?cons
  case known =>
    intro pending scope name t hknown frames
    rw [Names.resolve_simple_eq_ok.mpr (Or.inl hknown)]
    refine reaches_of_step rfl (reaches_of_step rfl ?_)
    have hlookUp : lookUp n pending frames scope { name } [] =
        ⟨pending, .outcome (.ok t), frames⟩ := by
      simp only [lookUp, Spelling.isPlain, Names.isPlain, Option.isNone_none, Bool.and_self, hknown]
    change Reaches (step n) (lookUp n pending frames scope { name } []) _
    rw [hlookUp]
    exact .refl
  case unknown =>
    intro pending scope name hnone ih frames
    refine reaches_of_step rfl (reaches_of_step rfl ?_)
    refine (ih scope { name } rfl hnone frames).trans ?_
    cases hl : n.libraryType pending name [] with
    | error e =>
      rw [Names.resolve_simple_eq_error.mpr ⟨hnone, hl⟩]
      exact .refl
    | ok l =>
      rw [Names.resolve_simple_eq_ok.mpr (Or.inr ⟨hnone, l, hl, rfl⟩)]
      exact .refl
  case array =>
    intro pending scope element ih frames
    refine reaches_of_step rfl ((ih _).trans ?_)
    cases h : n.resolve pending scope element with
    | error e =>
      rw [Names.resolve_array_eq_error.mpr h]
      exact reaches_of_step rfl .refl
    | ok t =>
      rw [Names.resolve_array_eq_ok.mpr ⟨t, h, rfl⟩]
      exact reaches_of_step rfl .refl
  case param =>
    intro pending scope name t hsome frames
    rw [Names.resolve_param_eq_ok.mpr hsome]
    exact reaches_of_step (by simp only [step, hsome]) .refl
  case noParam =>
    intro pending scope name hnone frames
    rw [Names.resolve_param_eq_error.mpr ⟨hnone, rfl⟩]
    exact reaches_of_step (by simp only [step, hnone]) .refl
  case named =>
    intro pending scope name args kind special interfaces iha ihl ihi frames
    refine reaches_of_step rfl ?_
    refine reaches_named (w := { name, kind, special, interfaces }) iha
      (fun as hknown => ihl as scope _ rfl hknown) ?_ frames
    rintro written rfl
    exact ihi
  case allNil =>
    intro pending scope purpose _ done frames
    rw [Names.resolveAll_nil, listEnd, List.append_nil]
    exact .refl
  case allCons =>
    intro pending scope r rest ihr ihrest purpose hcycle done frames
    rw [Names.resolveAll_cons]
    exact reaches_listEnd_cons (hcycle r) ihr fun done => ihrest purpose hcycle done frames
  case unlisted =>
    rintro pending name args hnone scope w rfl hknown frames
    rw [Names.libraryType_unlisted hnone]
    simp only [lookUp, hknown, hnone]
    exact .refl
  case pending =>
    rintro pending name args e he hk scope w rfl hknown frames
    rw [Names.libraryType_pending he hk]
    simp only [lookUp, hknown, he, if_pos (List.contains_iff_mem.mpr hk)]
    exact .refl
  case opened =>
    rintro pending name args e he hk _ ih scope w rfl hknown frames
    rw [Names.libraryType_open he hk]
    simp only [lookUp, hknown, he, if_neg (mt List.contains_iff_mem.mp hk)]
    refine (ih scope w (Names.shallowType e w.name args) [] frames).trans ?_
    -- Either way out of the entry takes its key off again.
    cases n.resolveInterfaces ((w.name, args.length) :: pending) (.bind e.parameters args)
      e.interfaces with
    | error e => exact .refl
    | ok types => exact reaches_of_step rfl .refl
  case nil =>
    intro pending scope outer w t done frames
    rw [Names.resolveInterfaces_nil, listEnd, List.append_nil]
    exact .refl
  case cycle =>
    intro pending scope r rest name k hsome outer w t done frames
    obtain ⟨hhead, hmem⟩ := Option.filter_eq_some_iff.mp hsome
    rw [Names.resolveInterfaces_cycle hhead (by simpa using hmem)]
    refine reaches_of_step ?_ .refl
    simp only [step, Purpose.cycle?, filter_contains, hsome, Option.map_some, listEnd]
  case cons =>
    intro pending scope r rest hnone ihr ihrest outer w t done frames
    rw [Names.resolveInterfaces_step (Names.head?_filter_eq_none_iff.mp hnone)]
    have hcycle : Purpose.cycle? (.entry outer w t) pending r = none := by
      rw [Purpose.cycle?, filter_contains, hnone, Option.map_none]
    exact reaches_listEnd_cons hcycle ihr fun done => ihrest outer w t done frames

/-- **The resolver halts** for every reference, with what the recursion gives for an outcome and
with the stack that it started with. -/
theorem halts_at_resolve (n : Names) (pending : List Key) (scope : Scope) (r : Reference) :
    ⟨pending, .outcome (n.resolve pending scope r), []⟩ ∈
      StateTransition.eval (step n) (start pending scope r) :=
  StateTransition.mem_eval.mpr ⟨(reaches_resolution n).1 pending scope r [], step_outcome⟩

/-! ### The stack is sound in every state -/

/-- The key of the entry whose interfaces are resolved. -/
def Purpose.opened : Purpose → List Key
  | .entry _ _ t => [(t.name, t.args.length)]
  | .args _ | .inPlace _ => []

/-- The key of the entry that a call has open. -/
def Frame.opened : Frame → List Key
  | .array => []
  | .list l => l.purpose.opened

/-- The key of the entry that is worked on. -/
def Control.opened : Control → List Key
  | .list l => l.purpose.opened
  | .reference _ _ | .outcome _ => []

/-- The keys of all entries that are open, the innermost first. -/
def State.opened (s : State) : List Key :=
  s.control.opened ++ s.frames.flatMap Frame.opened

/-- **A sound stack**, where `bottom` was there at the start: it is the keys of the open entries
over that, no key is there twice, and all are in the catalog. -/
structure Sound (n : Names) (bottom : List Key) (s : State) : Prop where
  pending_eq : s.pending = s.opened ++ bottom
  nodup : s.pending.Nodup
  listed : ∀ k ∈ s.pending, n.catalog.contains k

variable {bottom : List Key} {s s' : State}

/-- A step that neither opens nor leaves an entry. -/
theorem Sound.same (h : Sound n bottom s) (hpending : s'.pending = s.pending)
    (hopened : s'.opened = s.opened) : Sound n bottom s' :=
  ⟨by rw [hpending, hopened, h.pending_eq], hpending ▸ h.nodup, hpending ▸ h.listed⟩

/-- A step that opens an entry. -/
theorem Sound.push (h : Sound n bottom s) {k : Key} (hk : k ∉ s.pending)
    (hlisted : n.catalog.contains k) (hpending : s'.pending = k :: s.pending)
    (hopened : s'.opened = k :: s.opened) : Sound n bottom s' := by
  refine ⟨by rw [hpending, hopened, h.pending_eq, List.cons_append], ?_, ?_⟩
  · rw [hpending]
    exact List.nodup_cons.mpr ⟨hk, h.nodup⟩
  · rw [hpending]
    exact List.forall_mem_cons.mpr ⟨hlisted, h.listed⟩

/-- A step that leaves the innermost entry. -/
theorem Sound.pop (h : Sound n bottom s) {k : Key} (hpending : s'.pending = s.pending.tail)
    (hopened : s.opened = k :: s'.opened) : Sound n bottom s' := by
  have htail : s'.pending = s'.opened ++ bottom := by
    rw [hpending, h.pending_eq, hopened, List.cons_append, List.tail_cons]
  have hsub : s'.pending.Sublist s.pending := hpending ▸ List.tail_sublist _
  exact ⟨htail, h.nodup.sublist hsub, fun k hk => h.listed k (hsub.subset hk)⟩

/-- Nothing is opened or left where what is written is put in place. -/
theorem override_same (pending : List Key) (frames : List Frame) (scope : Scope) (w : Spelling)
    (t : NamedType) :
    (override pending frames scope w t).pending = pending ∧
      (override pending frames scope w t).opened = frames.flatMap Frame.opened := by
  unfold override
  split
  · exact ⟨rfl, rfl⟩
  · split
    · exact ⟨rfl, rfl⟩
    · exact ⟨rfl, rfl⟩

/-- Looking a name up opens an entry that was not pending, or nothing. -/
theorem Sound.lookUp {pending : List Key} {frames : List Frame} {scope : Scope} {w : Spelling}
    {args : List SourceType} (h : Sound n bottom s) (hpending : pending = s.pending)
    (hopened : frames.flatMap Frame.opened = s.opened) :
    Sound n bottom (lookUp n pending frames scope w args) := by
  subst hpending
  unfold Resolver.lookUp
  split
  · exact h.same rfl hopened
  · split
    · obtain ⟨hp, ho⟩ := override_same s.pending frames scope w
        { NamedTypeOf.external w.name .classType with args }
      exact h.same hp (ho.trans hopened)
    · next e he =>
      dsimp only
      split
      · obtain ⟨hp, ho⟩ := override_same s.pending frames scope w
          (Names.shallowType e w.name args)
        exact h.same hp (ho.trans hopened)
      · next hk =>
        have hlisted : n.catalog.contains (w.name, args.length) := by
          rw [Catalog.contains, he]
          rfl
        have hfresh := mt List.contains_iff_mem.mpr hk
        exact h.push hfresh hlisted rfl (congrArg ((w.name, args.length) :: ·) hopened)

/-- Leaving a list takes off the key of its entry, if it has one. -/
theorem Sound.leave {purpose : Purpose} (h : Sound n bottom s)
    (hpending : s'.pending = purpose.leave s.pending)
    (hopened : s.opened = purpose.opened ++ s'.opened) : Sound n bottom s' := by
  cases purpose with
  | args w => exact h.same hpending hopened.symm
  | entry outer w t => exact h.pop hpending hopened
  | inPlace t => exact h.same hpending hopened.symm

/-- **Every step keeps the stack sound.** -/
theorem Sound.step (h : Sound n bottom s) (hs : step n s = some s') : Sound n bottom s' := by
  obtain ⟨pending, control, frames⟩ := s
  cases control with
  | reference scope r =>
    cases r with
    | simple name =>
      cases hs
      exact h.same rfl rfl
    | array element =>
      cases hs
      exact h.same rfl rfl
    | param name =>
      rw [Resolver.step] at hs
      split at hs
      · cases hs
        exact h.same rfl rfl
      · cases hs
        exact h.same rfl rfl
    | named name args kind special interfaces =>
      cases hs
      exact h.same rfl rfl
  | list l =>
    obtain ⟨purpose, scope, done, rest⟩ := l
    cases rest with
    | nil =>
      cases hs
      cases purpose with
      | args w => exact h.lookUp rfl rfl
      | entry outer w t =>
        obtain ⟨hp, ho⟩ := override_same pending.tail frames outer w { t with interfaces := done }
        exact h.pop hp (congrArg ((t.name, t.args.length) :: ·) ho.symm)
      | inPlace t => exact h.same rfl rfl
    | cons r rest =>
      rw [Resolver.step] at hs
      split at hs
      · cases hs
        exact h.leave rfl rfl
      · cases hs
        exact h.same rfl rfl
  | outcome result =>
    cases frames with
    | nil => cases result <;> cases hs
    | cons f frames =>
      cases result with
      | error e =>
        cases hs
        cases f with
        | array => exact h.same rfl rfl
        | list l => exact h.leave rfl rfl
      | ok t =>
        cases f with
        | array =>
          cases hs
          exact h.same rfl rfl
        | list l =>
          cases hs
          exact h.same rfl rfl

/-- **The stack is sound in every state that is reached** from a sound one. -/
theorem sound_of_reaches (h : Sound n bottom s) (hs : Reaches (step n) s s') :
    Sound n bottom s' := by
  induction hs with
  | refl => exact h
  | tail _ hstep ih => exact ih.step hstep

/-- At the start no entry is open. -/
theorem sound_start {pending : List Key} {scope : Scope} {r : Reference} (hnodup : pending.Nodup)
    (hlisted : ∀ k ∈ pending, n.catalog.contains k) :
    Sound n pending (start pending scope r) :=
  ⟨rfl, hnodup, hlisted⟩

end Resolver

end DeclGen
