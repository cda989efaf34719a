import DeclGen.Proofs.Emission.Buffer
import DeclGen.Proofs.Loaded
import Mathlib

/-!
# The output mirrors the input

The output is a sequence of blocks, and the blocks stand beside the declarations that the dumps
write down: one for each, in the same order, with its name and with one line for each of its members
(`DeclGen.Emission.Shows`). A configuration has two ways to act on this and no other. It chooses the
keyword that a block opens with; what follows the keyword, the *body* of the block, is the same
under all configurations. And it may refuse enums, in which case the output ends before the first.

`DeclGen.Emission.Mirror` puts this together for one configuration, and
`DeclGen.Emission.output_mirrors_input` proves it of every list of dumps that loads. Loading keeps
declarations at their places (`DeclGen.Project.loaded_written`), so what is left to prove is about a
list of declarations: how far it is written (`DeclGen.Emitter.write_append`).
-/

namespace DeclGen

/-! ### Keyword and body -/

/-- The text of a declaration's block after its keyword. -/
def Declaration.body (d : Declaration) : String :=
  d.block.text ""

/-- **The keyword is put before the rest of a block**, which does not depend on it. -/
theorem Declaration.text_block (d : Declaration) (keyword : String) :
    d.block.text keyword = keyword ++ d.body := by
  rw [body]
  cases d.block <;> simp only [Block.text, String.append_assoc, String.empty_append]

/-- Why a configuration refuses a declaration, if it does. -/
def Declaration.refusal? (c : Config) : Declaration → Option EmissionError
  | .type _ => none
  | .enum e => if c.refusesEnums then some (.enumInDeclarationMode e.name) else none

theorem Declaration.refusal?_eq_none {c : Config} {d : Declaration}
    (h : c.refusesEnums = true → ∀ e, d ≠ .enum e) : d.refusal? c = none := by
  cases d with
  | type _ => rfl
  | enum e => exact if_neg fun hc => h hc e rfl

theorem Declaration.blockText_eq (c : Config) (d : Declaration) :
    d.blockText c =
      match d.refusal? c with
      | some r => .error r
      | none => .ok (c.keyword ++ d.body) := by
  cases d with
  | type _ => exact congrArg Except.ok (text_block _ _)
  | enum e =>
    rw [blockText, refusal?, text_block]
    cases c.refusesEnums <;> rfl

theorem Declaration.eq_of_blockText {c : Config} {d : Declaration} {block : String}
    (h : d.blockText c = .ok block) : c.keyword ++ d.body = block := by
  rw [blockText_eq] at h
  cases hd : d.refusal? c with
  | some r =>
    rw [hd] at h
    cases h
  | none =>
    rw [hd] at h
    exact Except.ok.inj h

/-- What is written if a text has been written before. -/
def Written.after (w : Written) (text : String) : Written :=
  { w with text := text ++ w.text }

theorem Written.after_of_empty (text : String) (outcome : Except EmissionError Unit) :
    ({ text := "", outcome } : Written).after text = { text, outcome } := by
  rw [after, String.append_empty]

namespace Emitter

/-- The blocks of declarations, one after the other. -/
def blocks (c : Config) (ds : List Declaration) : String :=
  String.join (ds.map fun d => c.keyword ++ d.body)

/-- **What is not refused is written**, and then the rest is, whatever the buffer holds by then. -/
theorem write_append (e : Emitter) {ds : List Declaration}
    (h : ∀ d ∈ ds, d.refusal? e.config = none) (rest : List Declaration) :
    ∃ buffer, e.write (ds ++ rest) =
      (({ e with buffer } : Emitter).write rest).after (blocks e.config ds) := by
  induction ds generalizing e with
  | nil =>
    refine ⟨e.buffer, ?_⟩
    rw [Written.after, blocks, List.map_nil, String.join_nil, String.empty_append,
      List.nil_append]
  | cons d ds ih =>
    obtain ⟨hd, hds⟩ := List.forall_mem_cons.mp h
    obtain ⟨buffer, hlater⟩ := ih { e with buffer := e.config.keyword ++ d.body } hds
    refine ⟨buffer, ?_⟩
    rw [List.cons_append, write, emit, Declaration.blockText_eq, hd]
    simp only [hlater, Written.after, blocks, List.map_cons, String.join_cons,
      String.append_assoc]

/-- A run ends at a declaration that is refused. -/
theorem write_of_refused (e : Emitter) {d : Declaration} {r : EmissionError}
    (h : d.refusal? e.config = some r) (rest : List Declaration) :
    e.write (d :: rest) = { text := "", outcome := .error r } := by
  rw [write, emit, Declaration.blockText_eq, h]

/-- **A run comes to its end with a text** exactly if every declaration has a block, and then the
text is that of the blocks in order. -/
theorem write_eq_ok (e : Emitter) (ds : List Declaration) (text : String) :
    e.write ds = { text, outcome := .ok () } ↔
      ∃ blocks, ds.mapM (·.blockText e.config) = .ok blocks ∧ String.join blocks = text := by
  simp only [mapM_eq_ok]
  induction ds generalizing e text with
  | nil =>
    constructor
    · intro h
      cases h
      exact ⟨[], .nil, rfl⟩
    · rintro ⟨_, _ | _, rfl⟩
      rfl
  | cons d ds ih =>
    rw [write, emit]
    constructor
    · intro h
      cases hd : d.blockText e.config with
      | error r =>
        rw [hd] at h
        cases h
      | ok block =>
        rw [hd] at h
        injection h with htext houtcome
        obtain ⟨blocks, hblocks, hjoin⟩ := (ih { e with buffer := block } _).mp
          (congrArg (Written.mk _) houtcome)
        refine ⟨block :: blocks, .cons hd hblocks, ?_⟩
        rw [String.join_cons, hjoin, htext]
    · rintro ⟨_, hall, rfl⟩
      cases hall with
      | @cons _ block _ blocks hd hblocks =>
        have hlater := (ih { e with buffer := block } _).mpr ⟨blocks, hblocks, rfl⟩
        simp only [hd, hlater, String.join_cons]

end Emitter

namespace Emission

open Project (written Loaded)

/-! ### What a body shows -/

/-- What the body of a block **shows** of a written declaration. -/
inductive Shows (n : Names) : Dump.Declaration → String → Prop
  /-- The body of a type has the written name. It may name a parent and begin with an index
  signature. Then it has a line for each written member, in order. -/
  | type {kind : DeclKind} {d : Dump.TypeDecl} {members : List MemberLine}
      (parent? : Option String) (signature? : Option IndexSignature) :
      List.Forall₂ (fun w line => ∃ m, n.resolveMember (.ofParameters d.parameters) w = .ok m ∧
        line = m.line) d.members members →
      Shows n (.type kind d)
        (" interface " ++ d.name
          ++ (match parent? with | some p => " extends " ++ p | none => "")
          ++ " \x7b\n"
          ++ String.join (((signature?.map IndexSignature.text).toList
            ++ members.map MemberLine.text).map fun line => Block.indent line ++ "\n")
          ++ "\x7d\n\n")
  /-- The body of an enum has the written name, and a line for each written member, in order. -/
  | enum {d : EnumDecl} {values : List (String × Int64)} :
      List.Forall₂ (fun w v => v.1 = w.name) d.members values →
      Shows n (.enum d)
        (" enum " ++ d.name ++ " \x7b\n" ++ Block.enumBody { name := d.name, values }
          ++ "\x7d\n\n")

/-- Each member of an enum has a value, and no other has. -/
theorem forall₂_valuesFrom (next : Int64) (members : List EnumMember) :
    List.Forall₂ (fun w v => v.1 = w.name) members (EnumDecl.valuesFrom next members) := by
  induction members generalizing next with
  | nil => exact .nil
  | cons m rest ih => exact .cons rfl (ih _)

/-- **The body of a loaded declaration shows the written one.** -/
theorem shows_body {n : Names} {units : List SourceUnit} {d : Dump.Declaration} {D : Declaration}
    (h : Loaded n units d D) : Shows n d D.body := by
  cases D with
  | enum e =>
    cases h.enum_iff.mpr rfl
    have h : Shows n (.enum e) _ := .enum (forall₂_valuesFrom 0 e.members)
    rw [Declaration.body, Declaration.block, Block.text, String.empty_append]
    exact h
  | type D =>
    obtain ⟨kind, x, D₀, _, rfl, hD₀, rfl⟩ := h.exists_type
    obtain ⟨hname, -, -, -, hmembers⟩ := Names.resolveType_ok hD₀
    have hlines : List.Forall₂ (fun w line =>
        ∃ m, n.resolveMember (.ofParameters x.parameters) w = .ok m ∧ line = m.line)
        x.members (D₀.members.map Member.line) :=
      List.forall₂_map_right_iff.mpr (hmembers.imp fun _ m hm => ⟨m, hm, rfl⟩)
    rw [Declaration.body, Declaration.block, Block.text, String.empty_append, hname]
    exact .type _ _ hlines

/-! ### The output of a project -/

/-- The output of units under a configuration **mirrors** written declarations. -/
structure Mirror (ds : List Dump.Declaration) (units : List SourceUnit) (c : Config) : Prop where
  /-- Where enums are refused, the first one is the error, and the declarations before it have their
  blocks. -/
  refused : c.refusesEnums = true → ∀ before e after, ds = before ++ .enum e :: after →
    (∀ e', .enum e' ∉ before) →
      emitUnits c units =
        { text := Emitter.blocks c ((declarationsOf units).take before.length)
          outcome := .error (.enumInDeclarationMode e.name) }
  /-- Where there is no refused enum, all declarations have their blocks. -/
  complete : (c.refusesEnums = true → ∀ e, .enum e ∉ ds) →
    emitUnits c units =
      { text := Emitter.blocks c (declarationsOf units), outcome := .ok () }
  /-- What a run that comes to its end has written depends on the configuration by the keyword and
  nothing else. -/
  ofOk : (emitUnits c units).outcome = .ok () →
    (emitUnits c units).text = Emitter.blocks c (declarationsOf units)
  /-- Each block is the one that an emitter makes of the declaration alone, whatever the emitter
  has made before. -/
  alone : ∀ d ∈ declarationsOf units, (c.refusesEnums = true → ∀ e, d ≠ .enum e) →
    ∀ buffer, ((Emitter.mk c buffer).emit d).1 = .ok (c.keyword ++ d.body)
  /-- One buffer for all blocks makes no difference, whatever is in it. -/
  inPlace : ∀ o, ∃ buffer, (writeInPlace c units).run.run o =
    ((emitUnits c units).outcome, { buffer, sink := o.sink ++ (emitUnits c units).text })
  /-- The text of all units is what a run that comes to its end has written. -/
  toString : ∀ text, emitToString c units = .ok text ↔
    emitUnits c units = { text, outcome := .ok () }

/-- Declarations are not refused if none is loaded from an enum that is refused. -/
theorem refusal?_eq_none_of_loaded {n : Names} {units : List SourceUnit} {c : Config}
    {ds : List Dump.Declaration} {Ds : List Declaration}
    (hloaded : List.Forall₂ (Loaded n units) ds Ds)
    (h : c.refusesEnums = true → ∀ e, .enum e ∉ ds) : ∀ D ∈ Ds, D.refusal? c = none := by
  intro D hD
  obtain ⟨d, hd, hdD⟩ := exists_of_mem_right hloaded hD
  refine Declaration.refusal?_eq_none ?_
  rintro hc e rfl
  exact h hc e (hdD.enum_iff.mpr rfl ▸ hd)

theorem emitUnits_of_accepted {c : Config} {units : List SourceUnit}
    (h : ∀ d ∈ declarationsOf units, d.refusal? c = none) :
    emitUnits c units =
      { text := Emitter.blocks c (declarationsOf units), outcome := .ok () } := by
  obtain ⟨buffer, hwrite⟩ := Emitter.write_append (Emitter.mk c "") h []
  rw [List.append_nil] at hwrite
  exact hwrite.trans (Written.after_of_empty _ _)

theorem emitUnits_of_refused {c : Config} {units : List SourceUnit}
    {before after : List Declaration}
    {d : Declaration} {r : EmissionError} (hsplit : declarationsOf units = before ++ d :: after)
    (h : ∀ d ∈ before, d.refusal? c = none) (hd : d.refusal? c = some r) :
    emitUnits c units = { text := Emitter.blocks c before, outcome := .error r } := by
  obtain ⟨buffer, hwrite⟩ := Emitter.write_append (Emitter.mk c "") h (d :: after)
  rw [Emitter.write_of_refused _ hd, Written.after_of_empty] at hwrite
  rw [emitUnits, hsplit, hwrite]

/-- What a run that comes to its end has written are the blocks of all declarations. -/
theorem text_eq_blocks {c : Config} {units : List SourceUnit}
    (h : (emitUnits c units).outcome = .ok ()) :
    (emitUnits c units).text = Emitter.blocks c (declarationsOf units) := by
  obtain ⟨blocks, hblocks, htext⟩ := (Emitter.write_eq_ok (Emitter.mk c "") _ _).mp
    (congrArg (Written.mk (emitUnits c units).text) h)
  have hmap := map_eq_map_of_forall₂ (mapM_eq_ok.mp hblocks) fun _ _ =>
    Declaration.eq_of_blockText
  rw [Emitter.blocks, hmap, List.map_id', htext]

theorem emitToString_eq_ok {c : Config} {units : List SourceUnit} {text : String} :
    emitToString c units = .ok text ↔ emitUnits c units = { text, outcome := .ok () } := by
  rw [emitUnits, Emitter.write_eq_ok, emitToString]
  cases (declarationsOf units).mapM (·.blockText c) with
  | error r => exact ⟨nofun, nofun⟩
  | ok blocks =>
    constructor
    · intro h
      exact ⟨blocks, rfl, Except.ok.inj h⟩
    · rintro ⟨_, hblocks, rfl⟩
      cases hblocks
      rfl

/-- **Declarations that stand beside written ones mirror them.** -/
theorem mirror_of_loaded {n : Names} {units linked : List SourceUnit}
    {ds : List Dump.Declaration}
    (hloaded : List.Forall₂ (Loaded n units) ds (declarationsOf linked)) (c : Config) : Mirror ds linked c where
  refused := by
    rintro hc before e after rfl hbefore
    -- The loaded declarations split at the place where the written ones do.
    have hfirst : List.Forall₂ (Loaded n units) before
        ((declarationsOf linked).take before.length) :=
      (List.forall₂_take_append _ _ _ hloaded.flip).flip
    obtain ⟨D, rest, hD, -, hrest⟩ :=
      List.forall₂_cons_right_iff.mp (List.forall₂_drop_append _ _ _ hloaded.flip)
    cases (Loaded.enum_iff hD).mp rfl
    have hsplit : declarationsOf linked =
        (declarationsOf linked).take before.length ++ .enum e :: rest := by
      rw [← hrest, List.take_append_drop]
    have hrefused : (Declaration.enum e).refusal? c = some (.enumInDeclarationMode e.name) :=
      if_pos hc
    exact emitUnits_of_refused hsplit (refusal?_eq_none_of_loaded hfirst fun _ => hbefore) hrefused
  complete h := emitUnits_of_accepted (refusal?_eq_none_of_loaded hloaded h)
  ofOk := text_eq_blocks
  alone d _ h buffer := by
    rw [Emitter.emit, Declaration.blockText_eq, Declaration.refusal?_eq_none h]
  inPlace := run_writeInPlace c linked
  toString _ := emitToString_eq_ok

/-- **The output mirrors the input**, for every list of dumps that loads: the body of the i-th
block shows the i-th written declaration, and under every configuration the output is made of a
keyword and these bodies. -/
theorem output_mirrors_input {catalog : Catalog} {dumps : List (String × Dump)} {p : Project}
    (h : Project.ofDumps catalog dumps = .ok p) :
    List.Forall₂ (fun d D => Shows ⟨Project.registryOf dumps, catalog⟩ d D.body)
        (written dumps) (declarationsOf p.units) ∧
      ∀ c, Mirror (written dumps) p.units c := by
  obtain ⟨units, hunits, hlink⟩ := Project.ofDumps_ok h
  have hloaded := Project.loaded_written hunits hlink
  refine ⟨hloaded.imp fun _ _ => shows_body, fun c => mirror_of_loaded hloaded c⟩

/-- Two units: a point and a color, then a line. -/
def drawing : List (String × Dump) :=
  [("points",
      ⟨[.type .classType { name := "Point", members := [{ name := "X", type := .simple "int" }] },
        .enum { name := "Color", members := [{ name := "Red" }] }]⟩),
    ("lines", ⟨[.type .classType { name := "Line", base := some (.simple "Point") }]⟩)]

/-- The drawing, loaded. -/
def loadedDrawing : Project :=
  { units :=
      [{ name := "points"
         declarations :=
          [.type { name := "Point", kind := .classType
                   members := [{ name := "X", type := .builtin "int" }] },
           .enum { name := "Color", members := [{ name := "Red" }] }] },
       { name := "lines"
         declarations :=
          [.type { name := "Line", kind := .classType
                   base := some (.ofDeclared "Point" .classType []) }] }]
    registry := Project.registryOf drawing }

theorem ofDumps_drawing : Project.ofDumps { entries := [] } drawing = .ok loadedDrawing := by cbv

theorem output_mirrors_input_drawing :
    Project.ofDumps { entries := [] } drawing = .ok loadedDrawing ∧
      emitUnits { declarationMode := true } loadedDrawing.units =
        { text := "declare interface Point \x7b\n  X: number;\n\x7d\n\n"
          outcome := .error (.enumInDeclarationMode "Color") } ∧
      emitUnits {} loadedDrawing.units =
        { text := "export interface Point \x7b\n  X: number;\n\x7d\n\n" ++
            "export enum Color \x7b\n  Red = 0\n\x7d\n\n" ++
            "export interface Line extends Point \x7b\n\x7d\n\n"
          outcome := .ok () } := by
  obtain ⟨-, hmirror⟩ := output_mirrors_input ofDumps_drawing
  refine ⟨ofDumps_drawing, ?_, ?_⟩
  · have h := (hmirror { declarationMode := true }).refused rfl [_]
      { name := "Color", members := _ } _ rfl (by simp)
    rw [h]
    cbv
  · have h := (hmirror {}).complete fun hc => absurd hc (by decide)
    rw [h]
    cbv

end Emission

end DeclGen
