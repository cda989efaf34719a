import DeclGen.Generation
import DeclGen.Proofs.Run.FileTree
import Mathlib

/-!
# The project that a tree of files holds

What a run loads is a function of the tree of files and of the arguments: the texts of the reference
catalogs, which are laid one after the other over the standard catalog, and the texts of the inputs
(`DeclGen.FileTree.project`). A file that none of the arguments leads to makes no difference to it
(`DeclGen.FileTree.project_put`), and an empty file among them makes it fail
(`DeclGen.FileTree.project_putText_empty`), since an empty text is neither a dump nor a catalog.
-/

namespace DeclGen

namespace FileTree

/-- The text of a file that loading needs. -/
def loadText (t : FileTree) (path : String) : Except LoadError String :=
  (t.readText path).mapError (.unreadable path)

/-- Lays the catalog of a file over another. -/
def extendCatalog (t : FileTree) (c : Catalog) (path : String) : Except LoadError Catalog := do
  let text ← t.loadText path
  .ok (c.extend (← Catalog.ofText path text))

/-- **The project that a tree holds for a run**: the inputs in their order, against the reference
catalogs that are laid one after the other over the standard catalog. -/
def project (t : FileTree) (a : Arguments) : Except LoadError Project := do
  let catalog ← a.references.foldlM t.extendCatalog .standard
  let sources ← a.inputs.mapM fun path => do .ok (path, ← t.loadText path)
  Project.load catalog sources

end FileTree

/-- Whether loading reads what is at a place. -/
def Arguments.ReadsAt (a : Arguments) (t : FileTree) (p : Place) : Prop :=
  ∃ path ∈ a.references ++ a.inputs, t.place path = .ok p

/-- Load errors that are the same **up to the fault** of a file that cannot be read. -/
inductive LoadError.UpToFault : LoadError → LoadError → Prop
  | refl (e : LoadError) : UpToFault e e
  | unreadable (path : String) (fault fault' : FileFault) :
      UpToFault (.unreadable path fault) (.unreadable path fault')

namespace FileTree

variable {t : FileTree} {p : Place} {a : Arguments}

/-- **The project does not depend on a file that is not read.** -/
theorem project_put {content : ByteArray} (h : t.node? p ≠ some .directory)
    (ha : ¬a.ReadsAt t p) :
    AgreeUpTo LoadError.UpToFault (t.project a) ((t.put p (.file content)).project a) := by
  have htext : ∀ path ∈ a.references ++ a.inputs,
      AgreeUpTo LoadError.UpToFault (t.loadText path) ((t.put p (.file content)).loadText path) :=
    fun path hpath => (readText_put h fun hp => ha ⟨path, hpath, hp⟩).mapError
      fun fault fault' _ => .unreadable path fault fault'
  obtain ⟨hreferences, hinputs⟩ := List.forall_mem_append.mp htext
  have hsame {α : Type} (x : Except LoadError α) : AgreeUpTo LoadError.UpToFault x x :=
    .of_eq .refl x
  refine AgreeUpTo.bind (.foldlM (fun path hpath c => ?_) _) fun catalog _ => ?_
  · exact (hreferences path hpath).bind fun text _ => hsame _
  · refine AgreeUpTo.bind (.mapM fun path hpath => ?_) fun sources _ => hsame _
    exact (hinputs path hpath).bind fun text _ => hsame _

/-- An empty text is no dump. -/
theorem readDump_empty (name : String) :
    Project.readDump (name, "") = .error (.invalidData name (.flaw .truncated)) := by
  have hdump : Dump.ofText "" = .error (.flaw .truncated) := by cbv
  rw [Project.readDump, hdump]

/-- An empty text is no catalog. -/
theorem ofText_empty (origin : String) :
    Catalog.ofText origin "" = .error (.invalidData origin (.flaw .truncated)) := by
  have hcatalog : Json.decodeText Catalog.outline Catalog.record.decodeStreamed "" =
      .error (.flaw .truncated) := by cbv
  rw [Catalog.ofText, hcatalog]

/-- **A project that is read from an empty file does not load.** -/
theorem project_putText_empty (h : t.node? p ≠ some .directory) (ha : a.ReadsAt t p) :
    ∃ e, (t.putText p "").project a = .error e := by
  obtain ⟨path, hpath, hplace⟩ := ha
  have hempty {text : String} (htext : (t.putText p "").loadText path = .ok text) : text = "" :=
    readText_put_self h hplace (mapError_eq_ok.mp htext)
  cases hproject : (t.putText p "").project a with
  | error e => exact ⟨e, rfl⟩
  | ok project =>
    exfalso
    obtain ⟨catalog, hcatalog, hrest⟩ := bind_eq_ok.mp hproject
    obtain ⟨sources, hsources, hload⟩ := bind_eq_ok.mp hrest
    -- The empty text has been read as a catalog or as a dump.
    rcases List.mem_append.mp hpath with hreference | hinput
    · obtain ⟨c, c', hc⟩ := exists_of_foldlM_eq_ok hcatalog hreference
      obtain ⟨text, htext, hc⟩ := bind_eq_ok.mp hc
      obtain ⟨upper, hupper, -⟩ := bind_eq_ok.mp hc
      rw [hempty htext, ofText_empty] at hupper
      cases hupper
    · obtain ⟨source, hsource, hread⟩ := exists_of_mem_left (mapM_eq_ok.mp hsources) hinput
      obtain ⟨text, htext, hread⟩ := bind_eq_ok.mp hread
      cases hread
      obtain ⟨dumps, hdumps, -⟩ := bind_eq_ok.mp hload
      obtain ⟨dump, -, hdump⟩ := exists_of_mem_left (mapM_eq_ok.mp hdumps) hsource
      rw [hempty htext, readDump_empty] at hdump
      cases hdump

end FileTree

end DeclGen
