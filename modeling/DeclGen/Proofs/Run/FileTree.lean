import DeclGen.FileTree
import DeclGen.Proofs.Outcome

/-!
# A file that is put into a tree

A file is put where no directory is, so no path that leads through directories is led elsewhere by
it. What can change is why a path leads nowhere: a name that was not there before is the name of a
file now. All other files are read as before.

So two trees, without and with the file, agree up to faults. `DeclGen.AgreeUpTo` is this relation
between computations: they give the same value, or fail both.
-/

namespace DeclGen

/-- Two computations **agree up to their errors**: they give the same value, or they fail with
errors that are in some relation. -/
inductive AgreeUpTo {ε ε' α : Type} (E : ε → ε' → Prop) : Except ε α → Except ε' α → Prop
  | ok (a : α) : AgreeUpTo E (.ok a) (.ok a)
  | error {e : ε} {e' : ε'} : E e e' → AgreeUpTo E (.error e) (.error e')

namespace AgreeUpTo

variable {ε ε' α β : Type} {E : ε → ε' → Prop} {x : Except ε α} {y : Except ε' α}

theorem of_eq {E : ε → ε → Prop} (hE : ∀ e, E e e) (x : Except ε α) : AgreeUpTo E x x :=
  match x with
  | .ok a => .ok a
  | .error e => .error (hE e)

/-- Computations that agree may be gone on with alike on their value. -/
theorem bind (h : AgreeUpTo E x y) {f : α → Except ε β} {g : α → Except ε' β}
    (hfg : ∀ a, x = .ok a → AgreeUpTo E (f a) (g a)) : AgreeUpTo E (x >>= f) (y >>= g) := by
  cases h with
  | ok a => exact hfg a rfl
  | error he => exact .error he

theorem foldlM {f : β → α → Except ε β} {g : β → α → Except ε' β} {as : List α}
    (hfg : ∀ a ∈ as, ∀ b, AgreeUpTo E (f b a) (g b a)) (b : β) :
    AgreeUpTo E (as.foldlM f b) (as.foldlM g b) := by
  induction as generalizing b with
  | nil => exact .ok b
  | cons a as ih =>
    obtain ⟨ha, has⟩ := List.forall_mem_cons.mp hfg
    rw [List.foldlM_cons, List.foldlM_cons]
    exact (ha b).bind fun b' _ => ih has b'

theorem mapM {f : α → Except ε β} {g : α → Except ε' β} {as : List α}
    (hfg : ∀ a ∈ as, AgreeUpTo E (f a) (g a)) : AgreeUpTo E (as.mapM f) (as.mapM g) := by
  induction as with
  | nil => exact .ok []
  | cons a as ih =>
    obtain ⟨ha, has⟩ := List.forall_mem_cons.mp hfg
    rw [List.mapM_cons, List.mapM_cons]
    exact ha.bind fun b _ => (ih has).bind fun bs _ => .ok (b :: bs)

theorem mapError {δ δ' : Type} {D : δ → δ' → Prop} (h : AgreeUpTo E x y) {f : ε → δ} {g : ε' → δ'}
    (hfg : ∀ e e', E e e' → D (f e) (g e')) : AgreeUpTo D (x.mapError f) (y.mapError g) := by
  cases h with
  | ok a => exact .ok a
  | error he => exact .error (hfg _ _ he)

theorem eq_ok_iff (h : AgreeUpTo E x y) {a : α} : x = .ok a ↔ y = .ok a := by
  cases h with
  | ok b => exact ⟨fun h => by cases h; rfl, fun h => by cases h; rfl⟩
  | error _ => exact ⟨nofun, nofun⟩

theorem exists_of_eq_error (h : AgreeUpTo E x y) {e' : ε'} (he : y = .error e') :
    ∃ e, x = .error e ∧ E e e' := by
  cases h with
  | ok _ => cases he
  | error hE =>
    cases he
    exact ⟨_, rfl, hE⟩

end AgreeUpTo

namespace FileTree

variable {t : FileTree} {place : Place} {content : ByteArray}

/-- Faults may differ in any way. -/
abbrev AnyFault (_ _ : FileFault) : Prop := True

theorem node?_put_of_ne {q : Place} (node : Node) (h : q ≠ place) :
    (t.put place node).node? q = t.node? q := by
  have hlookup : (t.put place node).nodes.lookup q = t.nodes.lookup q := by
    rw [put, List.lookup_cons, beq_false_of_ne h]
  rw [node?, node?, hlookup]

theorem node?_put_self (node : Node) (h : place ≠ []) :
    (t.put place node).node? place = some node := by
  rw [node?, if_neg h, put, List.lookup_cons_self]

/-! ### Where a file can be created -/

/-- A file is created where no directory is. -/
theorem node?_of_creatable {path : String} (h : t.creatable path = .ok place) :
    t.node? place ≠ some .directory := by
  obtain ⟨_, -, h⟩ := bind_eq_ok.mp h
  obtain ⟨directory, -, h⟩ := bind_eq_ok.mp h
  obtain ⟨_, -, h⟩ := bind_eq_ok.mp h
  split at h
  · cases h
  · obtain ⟨q, -, h⟩ := bind_eq_ok.mp h
    split at h
    · cases h
    · next hq =>
      cases h
      exact hq

/-- The root is a directory, so no file is there. -/
theorem ne_root_of_node? (h : t.node? place ≠ some .directory) : place ≠ [] := by
  rintro rfl
  exact h rfl

/-! ### Paths that are names -/

/-- A path that is a single name. -/
@[mk_iff]
structure IsName (path : String) : Prop where
  parts : Path.parts path = [path]
  ne_special : path ≠ "." ∧ path ≠ ".." ∧ path ≠ ""
  relative : Path.isAbsolute path = false
  noSlash : Path.endsInSlash path = false
  noNull : path.toList.contains '\x00' = false
  short : path.utf8ByteSize ≤ maxNameSize

instance (path : String) : Decidable (IsName path) :=
  decidable_of_iff _ (isName_iff path).symm

section Name

variable {path : String} (h : IsName path) (hcurrent : t.node? t.current = some .directory)
include h

theorem checkedStart_name : t.checkedStart path = .ok t.current := by
  have hsize : ¬maxPathSize < path.utf8ByteSize :=
    Nat.not_lt.mpr (Nat.le_trans h.short (by decide))
  rw [checkedStart, h.noNull, if_neg Bool.false_ne_true, if_neg h.ne_special.2.2, if_neg hsize,
    start, h.relative, if_neg Bool.false_ne_true]

include hcurrent

theorem step_name : t.step t.current path = .ok (t.current ++ [path]) := by
  rw [step, requireDirectory, hcurrent, follow, if_neg h.ne_special.1, if_neg h.ne_special.2.1]
  exact if_neg (Nat.not_lt.mpr h.short)

/-- **A name leads into the current directory.** -/
theorem place_name : t.place path = .ok (t.current ++ [path]) := by
  rw [place, checkedStart_name h, h.parts, ok_bind, List.foldlM_cons, step_name h hcurrent]
  rfl

/-- A file can be created there, unless there is a directory. -/
theorem creatable_name (hnode : t.node? (t.current ++ [path]) ≠ some .directory) :
    t.creatable path = .ok (t.current ++ [path]) := by
  rw [creatable, checkedStart_name h, h.parts, ok_bind]
  change (t.requireDirectory t.current >>= fun _ => _) = _
  rw [requireDirectory, hcurrent, ok_bind, h.noSlash, if_neg Bool.false_ne_true]
  change (t.step t.current path >>= fun _ => _) = _
  rw [step_name h hcurrent, ok_bind]
  split
  · next hdirectory => exact absurd hdirectory hnode
  · rfl

end Name

/-! ### The empty path -/

theorem checkedStart_empty (t : FileTree) : t.checkedStart "" = .error .notFound := rfl

/-- **An empty path leads nowhere.** -/
theorem place_empty (t : FileTree) : t.place "" = .error .notFound := by
  rw [place, checkedStart_empty]
  rfl

theorem creatable_empty (t : FileTree) : t.creatable "" = .error .notFound := by
  rw [creatable, checkedStart_empty]
  rfl

/-! ### What is read -/

theorem fromUTF8?_toUTF8 (text : String) : String.fromUTF8? text.toUTF8 = some text :=
  dif_pos text.isValidUTF8

/-- A text that is in a file is what is read from it. -/
theorem readText_eq_ok {path text : String} (hpath : t.place path = .ok place)
    (hnode : t.node? place = some (.file text.toUTF8)) (hslash : Path.endsInSlash path = false) :
    t.readText path = .ok text := by
  rw [readText, hpath, ok_bind, hnode]
  simp only [hslash, Bool.false_eq_true, if_false, fromUTF8?_toUTF8]

/-! ### Reading beside a file that is put -/

section Put

variable (h : t.node? place ≠ some .directory)
include h

/-- A file that is put takes no directory away and adds none. -/
theorem requireDirectory_put (q : Place) :
    AgreeUpTo AnyFault (t.requireDirectory q)
      ((t.put place (.file content)).requireDirectory q) := by
  unfold requireDirectory
  by_cases hq : q = place
  · -- A directory is required where the file is: there was none before either.
    subst hq
    rw [node?_put_self _ (ne_root_of_node? h)]
    rcases hnode : t.node? q with _ | ⟨⟩ | _
    · exact .error trivial
    · exact absurd hnode h
    · exact .error trivial
  · rw [node?_put_of_ne _ hq]
    exact .of_eq (fun _ => trivial) _

theorem step_put (q : Place) (part : String) :
    AgreeUpTo AnyFault (t.step q part) ((t.put place (.file content)).step q part) :=
  (requireDirectory_put h q).bind fun _ _ => .of_eq (fun _ => trivial) _

/-- **Paths lead to the same places** without and with the file. -/
theorem place_put (path : String) :
    AgreeUpTo AnyFault (t.place path) ((t.put place (.file content)).place path) :=
  (AgreeUpTo.of_eq (fun _ => trivial) (t.checkedStart path)).bind fun q _ =>
    .foldlM (fun part _ q => step_put h q part) q

/-- **All other files are read as before.** -/
theorem readText_put {path : String} (hpath : t.place path ≠ .ok place) :
    AgreeUpTo AnyFault (t.readText path) ((t.put place (.file content)).readText path) := by
  refine (place_put h path).bind fun q hq => ?_
  have hne : q ≠ place := fun heq => hpath (heq ▸ hq)
  rw [node?_put_of_ne _ hne]
  exact .of_eq (fun _ => trivial) _

/-- What is read from the file itself is its content. -/
theorem readText_put_self {path : String} (hpath : t.place path = .ok place) {text read : String}
    (hread : (t.putText place text).readText path = .ok read) : read = text := by
  have hplace : (t.putText place text).place path = .ok place :=
    (place_put h path).eq_ok_iff.mp hpath
  obtain ⟨q, hq, hread⟩ := bind_eq_ok.mp hread
  cases hplace.symm.trans hq
  rw [putText, node?_put_self _ (ne_root_of_node? h)] at hread
  dsimp only at hread
  split at hread
  · cases hread
  · rw [fromUTF8?_toUTF8] at hread
    cases hread
    rfl

end Put

end FileTree

end DeclGen
