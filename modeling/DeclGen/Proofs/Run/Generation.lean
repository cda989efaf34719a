import DeclGen.Proofs.Dump.Texts
import DeclGen.Proofs.FileName
import DeclGen.Proofs.Run.Project
import DeclGen.Session
import Mathlib

/-!
# What a run does to the files

A run empties its output before it reads anything, and writes to it once at the end. In between it
only reads and tells what it does. So there are two trees that loading could be told about: the one
before the run, and the one in which the output is empty. It loads from the second. But what a run
is meant to do is said of the first, and the two hold the same project unless the output is one of
the files that are read (`DeclGen.Session.generate_writes_output`).

The steps of loading all have one property, `DeclGen.Session.Reads`: the outcome is a function of
the tree, and the session is the same afterwards but for some events.

The path of the output has one more part in a run: its file name decides whether the blocks are
ambient declarations. What it decides is said of the characters of the path
(`DeclGen.Path.LeadsTo`).

A file may fail to take a text, and keep a part of it. How files behave in this respect is a
`DeclGen.Storage`. The host of sessions has a storage that takes every text whole.
-/

namespace DeclGen

/-! ### Hosts of sessions -/

/-- How files take a text: what is in a file afterwards, and whether that is all. -/
structure Storage where
  kept : Place → String → ByteArray
  result : Place → String → Except FileFault Unit

/-- A storage that takes every text whole. -/
def Storage.whole : Storage where
  kept _ text := text.toUTF8
  result _ _ := .ok ()

/-- How a run ends that has written all blocks that it can write. -/
def Storage.outcome (storage : Storage) (place : Place) (written : Written) :
    Except RunError Unit :=
  match storage.result place written.text with
  | .error fault => .error (.cannotWrite fault)
  | .ok _ => written.outcome.mapError .emission

theorem Storage.outcome_eq_ok {storage : Storage} {place : Place} {written : Written} :
    storage.outcome place written = .ok () ↔
      written.outcome = .ok () ∧ storage.result place written.text = .ok () := by
  unfold outcome
  cases storage.result place written.text with
  | error fault => exact ⟨nofun, nofun⟩
  | ok _ => exact mapError_eq_ok.trans (and_iff_left rfl).symm

namespace Session

/-- The host of sessions whose files take a text as a storage says. -/
def hostOn (storage : Storage) : Host (StateM Session) Place :=
  { host with
    write := fun place text => do
      modify fun s => { s with tree := s.tree.put place (.file (storage.kept place text)) }
      pure (storage.result place text) }

theorem host_eq_hostOn : host = hostOn .whole := rfl

/-- Adds events to a session. -/
def note (s : Session) (events : List Log.Event) : Session :=
  { s with events := s.events ++ events }

theorem note_note (s : Session) (events later : List Log.Event) :
    (s.note events).note later = s.note (events ++ later) := by
  rw [note, note, note, List.append_assoc]

/-- An action **reads**: its outcome is a function of the tree, and nothing but events is added. -/
def Reads {α : Type} (x : ExceptT LoadError (StateM Session) α)
    (f : FileTree → Except LoadError α) : Prop :=
  ∀ s, ∃ events, x.run.run s = (f s.tree, s.note events)

namespace Reads

variable {α β : Type} {x : ExceptT LoadError (StateM Session) α} {f : FileTree → Except LoadError α}

theorem of_pure (e : Except LoadError α) : Reads (ExceptT.mk (pure e)) fun _ => e :=
  fun s => ⟨[], by rw [note, List.append_nil]; rfl⟩

theorem bind (hx : Reads x f) {y : α → ExceptT LoadError (StateM Session) β}
    {g : FileTree → α → Except LoadError β} (hy : ∀ a, Reads (y a) fun t => g t a) :
    Reads (x >>= y) fun t => f t >>= g t := by
  intro s
  change ∃ events, (x >>= y).run.run s = (f s.tree >>= g s.tree, s.note events)
  obtain ⟨events, hrun⟩ := hx s
  rw [ExceptT.run_bind, StateT.run_bind, hrun]
  cases f s.tree with
  | error e => exact ⟨events, rfl⟩
  | ok a =>
    obtain ⟨later, hlater⟩ := hy a (s.note events)
    rw [note_note] at hlater
    exact ⟨events ++ later, hlater⟩

/-- What does not fail reads as well. -/
theorem lift {x : StateM Session α} {f : FileTree → α}
    (hx : ∀ s, ∃ events, x.run s = (f s.tree, s.note events)) :
    Reads (liftM x) fun t => .ok (f t) := by
  intro s
  obtain ⟨events, hrun⟩ := hx s
  have hlift : (liftM x : ExceptT LoadError (StateM Session) α).run.run s =
      (fun r : α × Session => (.ok r.1, r.2)) (x.run s) := rfl
  rw [hlift, hrun]
  exact ⟨events, rfl⟩

/-- Noting events first changes nothing about what is read. -/
theorem after_note {x : StateM Session Unit} (hx : ∀ s, ∃ events, x.run s = ((), s.note events))
    {y : ExceptT LoadError (StateM Session) β} {g : FileTree → Except LoadError β}
    (hy : Reads y g) : Reads (liftM x >>= fun _ => y) g :=
  (Reads.lift (f := fun _ => ()) hx).bind fun _ => hy

theorem congr {g : FileTree → Except LoadError α} (hx : Reads x f) (hfg : ∀ t, f t = g t) :
    Reads x g := by
  rwa [← funext hfg]

theorem foldlM {y : β → α → ExceptT LoadError (StateM Session) β}
    {g : FileTree → β → α → Except LoadError β} (hy : ∀ b a, Reads (y b a) fun t => g t b a)
    (as : List α) (b : β) : Reads (as.foldlM y b) fun t => as.foldlM (g t) b := by
  induction as generalizing b with
  | nil => exact .of_pure (.ok b)
  | cons a as ih =>
    simp only [List.foldlM_cons]
    exact (hy b a).bind ih

theorem mapM {y : α → ExceptT LoadError (StateM Session) β}
    {g : FileTree → α → Except LoadError β} (hy : ∀ a, Reads (y a) fun t => g t a)
    (as : List α) : Reads (as.mapM y) fun t => as.mapM (g t) := by
  induction as with
  | nil => exact .of_pure (.ok [])
  | cons a as ih =>
    simp only [List.mapM_cons]
    exact (hy a).bind fun b => ih.bind fun bs => .of_pure (.ok (b :: bs))

end Reads

variable (storage : Storage)

theorem run_recordAll (s : Session) (events : List Log.Event) :
    ((hostOn storage).recordAll events).run s = ((), s.note events) := by
  induction events generalizing s with
  | nil => rw [note, List.append_nil]; rfl
  | cons event rest ih =>
    have hstep : ((hostOn storage).recordAll (event :: rest)).run s =
        ((hostOn storage).recordAll rest).run (s.note [event]) := rfl
    rw [hstep, ih, note_note, List.singleton_append]

theorem reads_loadText (path : String) :
    Reads ((hostOn storage).loadText path) fun t => t.loadText path := by
  have hread : Reads (liftM ((hostOn storage).readText path)) fun t => .ok (t.readText path) :=
    .lift fun s => ⟨[], by rw [note, List.append_nil]; rfl⟩
  refine (hread.bind (g := fun _ r => r.mapError (.unreadable path)) fun r => ?_)
  cases r <;> exact .of_pure _

theorem reads_extendCatalog (c : Catalog) (path : String) :
    Reads ((hostOn storage).extendCatalog c path) fun t => t.extendCatalog c path := by
  refine (reads_loadText storage path).bind fun text => ?_
  refine .after_note (fun _ => ⟨[.loadingCatalog path], rfl⟩) ?_
  exact (Reads.of_pure (Catalog.ofText path text)).bind fun upper => .of_pure (.ok (c.extend upper))

theorem reads_decodeDump (source : String × String) :
    Reads ((hostOn storage).decodeDump source) fun _ => Project.readDump source := by
  have hreads : Reads ((hostOn storage).decodeDump source)
      fun _ => Project.readDump source >>= fun unit => .ok unit := by
    refine (Reads.of_pure (Project.readDump source)).bind fun unit => ?_
    exact .after_note (fun _ => ⟨[.decodedDump unit.1 unit.2.declarations.length], rfl⟩)
      (.of_pure (.ok unit))
  refine hreads.congr fun _ => ?_
  cases Project.readDump source <;> rfl

/-- **Loading a project reads**, and what it gives is the project that the tree holds. -/
theorem reads_loadProject (a : Arguments) :
    Reads ((hostOn storage).loadProject a) fun t => t.project a := by
  have hsource (path : String) : Reads (do pure (path, ← (hostOn storage).loadText path))
      fun t => (do .ok (path, ← t.loadText path)) :=
    (reads_loadText storage path).bind fun text => .of_pure (.ok (path, text))
  refine (Reads.foldlM (reads_extendCatalog storage) a.references .standard).bind fun catalog => ?_
  refine (Reads.mapM hsource a.inputs).bind fun sources => ?_
  refine (Reads.mapM (reads_decodeDump storage) sources).bind fun dumps => ?_
  exact .after_note (fun s => ⟨_, run_recordAll storage s _⟩)
    (.of_pure (Project.ofDumps catalog dumps))

/-! ### The steps of a run -/

/-- A run goes on from where its first step has led. -/
theorem run_bind {α β : Type} {x : StateM Session α} {f : α → StateM Session β} {s s' : Session}
    {a : α} (h : x.run s = (a, s')) : (x >>= f).run s = (f a).run s' := by
  rw [StateT.run_bind, h]
  rfl

theorem run_emit (c : Config) (place : Place) (units : List SourceUnit) (s : Session) :
    ((hostOn storage).emit c place units).run s =
      (storage.outcome place (emitUnits c units),
      { s.note (emissionEvents c units) with
        tree := s.tree.put place (.file (storage.kept place (emitUnits c units).text)) }) := by
  have hwrite (text : String) (s : Session) : ((hostOn storage).write place text).run s =
      (storage.result place text,
        { s with tree := s.tree.put place (.file (storage.kept place text)) }) := rfl
  refine (run_bind (run_recordAll storage s _)).trans ((run_bind (hwrite _ _)).trans ?_)
  unfold Storage.outcome
  cases storage.result place (emitUnits c units).text <;> rfl

variable {storage} {a : Arguments} {s : Session}

/-- **A run whose output cannot be created does nothing.** -/
theorem run_generate_of_error {fault : FileFault} (h : s.tree.creatable a.output = .error fault) :
    ((hostOn storage).generate a).run s = (.error (.cannotCreate a.output fault), s) := by
  have hcreate : ((hostOn storage).create a.output).run s = (.error fault, s) := by
    refine (run_bind (s := s) rfl).trans ?_
    rw [h]
    rfl
  exact (run_bind hcreate).trans rfl

/-- **A run empties its output and then loads.** What it has loaded it writes to the output. -/
theorem run_generate_of_ok {p : Place} (h : s.tree.creatable a.output = .ok p) :
    ∃ events, ((hostOn storage).generate a).run s =
      match (s.tree.putText p "").project a with
      | .error e => (.error (.load e), ⟨s.tree.putText p "", events⟩)
      | .ok project =>
        let written := emitUnits a.config project.units
        (storage.outcome p written,
          ⟨(s.tree.putText p "").put p (.file (storage.kept p written.text)), events⟩) := by
  have hcreate : ((hostOn storage).create a.output).run s =
      (.ok p, { s with tree := s.tree.putText p "" }) := by
    refine (run_bind (s := s) rfl).trans ?_
    rw [h]
    rfl
  let opened : Session := { tree := s.tree.putText p "", events := s.events ++ [a.startEvent] }
  have hrecord : ((hostOn storage).record a.startEvent).run { s with tree := s.tree.putText p "" } =
      ((), opened) := rfl
  obtain ⟨events, hload⟩ : ∃ events, ((hostOn storage).loadProject a).run.run opened =
      ((s.tree.putText p "").project a, opened.note events) := reads_loadProject storage a opened
  cases hproject : (s.tree.putText p "").project a with
  | error e =>
    rw [hproject] at hload
    exact ⟨(opened.note events).events,
      (run_bind hcreate).trans ((run_bind hrecord).trans (run_bind hload))⟩
  | ok project =>
    rw [hproject] at hload
    have hemit := run_emit storage a.config p project.units (opened.note events)
    exact ⟨((opened.note events).note (emissionEvents a.config project.units)).events,
      (run_bind hcreate).trans ((run_bind hrecord).trans ((run_bind hload).trans hemit))⟩

/-- The text of a dump with an interface and an enum. -/
def draftText : String :=
  "\x7b\"declarations\": [\x7b\"kind\": \"interface\", \"name\": \"Draft\"\x7d, " ++
    "\x7b\"kind\": \"enum\", \"name\": \"State\"\x7d]\x7d"

/-- The dump of the text. -/
def draft : Dump where
  declarations := [.type .interfaceType { name := "Draft" }, .enum { name := "State" }]

/-- The value that the text is read as. -/
def draftValue : Json :=
  .object
    [("declarations", .array
      [.object [("kind", .string "interface"), ("name", .string "Draft")] none,
       .object [("kind", .string "enum"), ("name", .string "State")] none] none)] none

/-- An output of some run before, a dump, and a catalog without entries. -/
def draftSession : Session where
  tree :=
    { nodes :=
        [(["api.d.ts"], .file "old".toUTF8), (["draft.json"], .file draftText.toUTF8),
         (["lib.json"], .file "\x7b\x7d".toUTF8)] }

/-- The arguments of a run over the dump. -/
def draftArguments (output : String) (ambientEnums : AmbientEnums) : Arguments :=
  { inputs := ["draft.json"], output, references := ["lib.json"], ambientEnums }

/-- The units of the project that the files hold. -/
def draftUnits : List SourceUnit :=
  [{ name := "draft.json"
     declarations :=
      [.type { name := "Draft", kind := .interfaceType }, .enum { name := "State" }] }]

theorem place_draft {name : String} (h : FileTree.IsName name) :
    draftSession.tree.place name = .ok [name] :=
  FileTree.place_name h rfl

theorem ofText_draft : Dump.ofText draftText = .ok draft :=
  Dump.ofText_of_isReadAs (v := draftValue) (Dump.isReadAs_of_readsAs (by decide +kernel)) (by cbv)

theorem project_draft (output : String) (ambientEnums : AmbientEnums) :
    draftSession.tree.project (draftArguments output ambientEnums) =
      .ok ⟨draftUnits, .ofUnits draftUnits⟩ := by
  have hdump : draftSession.tree.loadText "draft.json" = .ok draftText :=
    mapError_eq_ok.mpr (FileTree.readText_eq_ok (place_draft (by decide)) rfl rfl)
  have hlibrary : draftSession.tree.loadText "lib.json" = .ok "\x7b\x7d" :=
    mapError_eq_ok.mpr (FileTree.readText_eq_ok (place_draft (by decide)) rfl rfl)
  have hcatalog : Catalog.ofText "lib.json" "\x7b\x7d" = .ok {} := by cbv
  have hread : Project.readDump ("draft.json", draftText) = .ok ("draft.json", draft) := by
    rw [Project.readDump, ofText_draft]
  simp only [FileTree.project, draftArguments, List.foldlM_cons, FileTree.extendCatalog, hlibrary,
    hcatalog, hdump, ok_bind, List.foldlM_nil, List.mapM_cons, List.mapM_nil]
  change (Project.readDump ("draft.json", draftText) >>= fun _ => _) >>= _ = _
  rw [hread]
  cbv

theorem not_readsAt_draft {output : String} {ambientEnums : AmbientEnums} {p : Place}
    (hp : p ∉ [["lib.json"], ["draft.json"]]) :
    ¬(draftArguments output ambientEnums).ReadsAt draftSession.tree p := by
  rintro ⟨path, hpath, hplace⟩
  have hname : path = "lib.json" ∨ path = "draft.json" := by simpa [draftArguments] using hpath
  rcases hname with rfl | rfl
  · cases (place_draft (by decide)).symm.trans hplace
    exact hp (.head _)
  · cases (place_draft (by decide)).symm.trans hplace
    exact hp (.tail _ (.head _))

end Session

end DeclGen
