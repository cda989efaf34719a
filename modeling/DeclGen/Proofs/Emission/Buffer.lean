import DeclGen.Emission

/-!
# One buffer for all blocks

`DeclGen.Declaration.blockText` gives the text of a block as a whole. An emitter that runs has one
*buffer* for all blocks: it clears the buffer, puts the pieces of a block into it one after the
other, and a writer then hands the content of the buffer on to a *sink*. A refused enum ends the run
after its buffer was cleared, and nothing of it is handed on.

This file is that emitter and that writer. What is in the buffer before a block has no influence on
the block (`DeclGen.Emission.run_emitInPlace`), and so the sink gets what
`DeclGen.Emitter.write` writes (`DeclGen.Emission.run_writeInPlace`). All that has to be said of a
piece of the program for this is which text it *appends* to the buffer
(`DeclGen.Emission.Appends`).
-/

namespace DeclGen

namespace Emission

/-- The buffer that blocks are made in, and what has been handed on. -/
structure Output where
  buffer : String := ""
  sink : String := ""

/-! ### The emitter -/

/-- Puts a piece of text into the buffer. -/
def push (text : String) : StateM Output Unit :=
  modify fun o => { o with buffer := o.buffer ++ text }

/-- Puts an indented line into the buffer. -/
def pushLine (line : String) : StateM Output Unit := do
  push "  "
  push line
  push "\n"

/-- Empties the buffer. -/
def clear : StateM Output Unit :=
  modify fun o => { o with buffer := "" }

/-- Hands the content of the buffer on. -/
def handOn : StateM Output Unit :=
  modify fun o => { o with sink := o.sink ++ o.buffer }

/-- Names the parent of a block, if it has one. -/
def pushParent : Option String → StateM Output Unit
  | none => pure ()
  | some base => do
    push " extends "
    push base

/-- Puts the lines of an enum into the buffer, with commas between them. -/
def pushValues : List String → StateM Output Unit
  | [] => pure ()
  | lines => do
    push (",\n".intercalate lines)
    push "\n"

/-- Makes the block of a type in the buffer. -/
def emitType (c : Config) (d : TypeDecl) : StateM Output Unit := do
  push c.keyword
  push " interface "
  push d.name
  pushParent d.parent?
  push " \x7b\n"
  d.indexSignature?.toList.forM fun signature => pushLine signature.text
  d.members.forM fun m => pushLine m.line.text
  push "\x7d\n\n"

/-- Makes the block of an enum in the buffer. -/
def emitEnum (c : Config) (d : EnumDecl) : StateM Output Unit := do
  push c.keyword
  push " enum "
  push d.name
  push " \x7b\n"
  pushValues (d.values.map fun v => Block.indent (v.1 ++ " = " ++ toString v.2.toInt))
  push "\x7d\n\n"

/-- Makes a declaration's block in the buffer, in place of what was there. -/
def emitInPlace (c : Config) : Declaration → ExceptT EmissionError (StateM Output) Unit
  | .type d => do
    clear
    emitType c d
  | .enum d => do
    clear
    if c.refusesEnums then throw (.enumInDeclarationMode d.name)
    emitEnum c d

/-- Makes a declaration's block and hands it on. -/
def writeOne (c : Config) (d : Declaration) : ExceptT EmissionError (StateM Output) Unit := do
  emitInPlace c d
  handOn

/-- Makes the blocks of all units, and hands each on before the next is made. -/
def writeInPlace (c : Config) (units : List SourceUnit) :
    ExceptT EmissionError (StateM Output) Unit :=
  forM units fun u => forM u.declarations (writeOne c)

/-! ### What is appended -/

/-- A program **appends** a text to the buffer, whatever the buffer holds, and does nothing else. -/
def Appends (program : StateM Output Unit) (text : String) : Prop :=
  ∀ o, program.run o = ((), { o with buffer := o.buffer ++ text })

theorem appends_push (text : String) : Appends (push text) text :=
  fun _ => rfl

theorem appends_nothing : Appends (pure ()) "" := by
  intro o
  rw [String.append_empty]
  rfl

/-- Programs one after the other append their texts one after the other. -/
theorem Appends.andThen {first later : StateM Output Unit} {s t : String} (hs : Appends first s)
    (ht : Appends later t) : Appends (first >>= fun _ => later) (s ++ t) := by
  intro o
  rw [StateT.run_bind, hs o, ← String.append_assoc]
  exact ht _

theorem appends_pushLine (line : String) : Appends (pushLine line) (Block.indent line ++ "\n") := by
  have h := (appends_push "  ").andThen ((appends_push line).andThen (appends_push "\n"))
  rwa [← String.append_assoc] at h

theorem appends_forM {α : Type} {f : α → StateM Output Unit} {g : α → String}
    (h : ∀ a, Appends (f a) (g a)) (l : List α) : Appends (l.forM f) (String.join (l.map g)) := by
  induction l with
  | nil => exact appends_nothing
  | cons a l ih =>
    rw [List.map_cons, String.join_cons]
    exact (h a).andThen ih

theorem appends_pushParent (parent? : Option String) :
    Appends (pushParent parent?)
      (match parent? with | some p => " extends " ++ p | none => "") := by
  cases parent? with
  | none => exact appends_nothing
  | some p => exact (appends_push " extends ").andThen (appends_push p)

theorem appends_pushValues (lines : List String) :
    Appends (pushValues lines)
      (match lines with | [] => "" | lines => ",\n".intercalate lines ++ "\n") := by
  cases lines with
  | nil => exact appends_nothing
  | cons line lines => exact (appends_push _).andThen (appends_push "\n")

/-- **The block of a type is appended** as `DeclGen.Block.text` lays it out. -/
theorem appends_emitType (c : Config) (d : TypeDecl) :
    Appends (emitType c d) ((Declaration.type d).block.text c.keyword) := by
  have h := (appends_push c.keyword).andThen <| (appends_push " interface ").andThen <|
    (appends_push d.name).andThen <| (appends_pushParent d.parent?).andThen <|
    (appends_push " \x7b\n").andThen <|
    (appends_forM (fun s => appends_pushLine s.text) d.indexSignature?.toList).andThen <|
    (appends_forM (fun m => appends_pushLine m.line.text) d.members).andThen <|
    appends_push "\x7d\n\n"
  have hlines : String.join ((Block.interfaceLines
        { name := d.name, parent? := d.parent?, signature? := d.indexSignature?
          members := d.members.map Member.line }).map fun line => Block.indent line ++ "\n") =
      String.join (d.indexSignature?.toList.map fun s => Block.indent s.text ++ "\n") ++
        String.join (d.members.map fun m => Block.indent m.line.text ++ "\n") := by
    cases d.indexSignature? <;> simp [Block.interfaceLines, Function.comp_def]
  rw [emitType, Declaration.block, Block.text, hlines]
  simp only [String.append_assoc] at h ⊢
  exact h

/-- **The block of an enum is appended** as `DeclGen.Block.text` lays it out. -/
theorem appends_emitEnum (c : Config) (d : EnumDecl) :
    Appends (emitEnum c d) ((Declaration.enum d).block.text c.keyword) := by
  have h := (appends_push c.keyword).andThen <| (appends_push " enum ").andThen <|
    (appends_push d.name).andThen <| (appends_push " \x7b\n").andThen <|
    (appends_pushValues (d.values.map fun v =>
      Block.indent (v.1 ++ " = " ++ toString v.2.toInt))).andThen <| appends_push "\x7d\n\n"
  have hlines : Block.enumBody { name := d.name, values := d.values } =
      match d.values.map fun v => Block.indent (v.1 ++ " = " ++ toString v.2.toInt) with
      | [] => ""
      | lines => ",\n".intercalate lines ++ "\n" := by
    rw [Block.enumBody, Block.enumLines, List.map_map]
    rfl
  rw [emitEnum, Declaration.block, Block.text, hlines]
  simp only [String.append_assoc] at h ⊢
  exact h

/-! ### The emitter and the writer -/

/-- **What the buffer held before has no influence on a block.** A refused enum leaves the buffer
empty. -/
theorem run_emitInPlace (c : Config) (d : Declaration) (o : Output) :
    (emitInPlace c d).run.run o =
      match d.blockText c with
      | .ok block => (.ok (), { o with buffer := block })
      | .error e => (.error e, { o with buffer := "" }) := by
  have hcleared : ∀ {program : StateM Output Unit} {text : String}, Appends program text →
      program.run { o with buffer := "" } = ((), { o with buffer := text }) := by
    intro program text h
    rw [h, String.empty_append]
  cases d with
  | type d =>
    have h := hcleared (appends_emitType c d)
    exact congrArg (fun r : Unit × Output => ((.ok r.1 : Except EmissionError Unit), r.2)) h
  | enum d =>
    rw [Declaration.blockText]
    cases hc : c.refusesEnums with
    | true =>
      simp only [emitInPlace, hc]
      rfl
    | false =>
      simp only [emitInPlace, hc]
      have h := hcleared (appends_emitEnum c d)
      exact congrArg (fun r : Unit × Output => ((.ok r.1 : Except EmissionError Unit), r.2)) h

theorem run_writeOne (c : Config) (d : Declaration) (o : Output) :
    (writeOne c d).run.run o =
      match d.blockText c with
      | .ok block => (.ok (), { buffer := block, sink := o.sink ++ block })
      | .error r => (.error r, { o with buffer := "" }) := by
  rw [writeOne, ExceptT.run_bind, StateT.run_bind, run_emitInPlace]
  cases d.blockText c <;> rfl

/-- Handing the blocks of a list of declarations on gives the sink what is written for the list,
after what it had, whatever was in the buffer. -/
theorem run_forM_writeOne (e : Emitter) (ds : List Declaration) (o : Output) :
    ∃ buffer, (forM ds (writeOne e.config)).run.run o =
      ((e.write ds).outcome, { buffer, sink := o.sink ++ (e.write ds).text }) := by
  induction ds generalizing e o with
  | nil => exact ⟨o.buffer, by rw [Emitter.write, String.append_empty]; rfl⟩
  | cons d ds ih =>
    rw [List.forM_cons, ExceptT.run_bind, StateT.run_bind, run_writeOne, Emitter.write,
      Emitter.emit]
    cases d.blockText e.config with
    | ok block =>
      -- Both sides go on with this block in the buffer.
      obtain ⟨buffer, h⟩ :=
        ih { e with buffer := block } { buffer := block, sink := o.sink ++ block }
      refine ⟨buffer, h.trans ?_⟩
      rw [String.append_assoc]
    | error r => exact ⟨"", by rw [String.append_empty]; rfl⟩

theorem writeInPlace_eq_forM (c : Config) (units : List SourceUnit) :
    writeInPlace c units = forM (declarationsOf units) (writeOne c) := by
  induction units with
  | nil => rfl
  | cons u units ih =>
    rw [writeInPlace, List.forM_cons, declarationsOf, List.flatMap_cons, List.forM_append]
    exact congrArg (fun later => forM u.declarations (writeOne c) >>= fun _ => later) ih

/-- **The sink gets what is written**, after what it had, whatever was in the buffer. -/
theorem run_writeInPlace (c : Config) (units : List SourceUnit) (o : Output) :
    ∃ buffer, (writeInPlace c units).run.run o =
      ((emitUnits c units).outcome, { buffer, sink := o.sink ++ (emitUnits c units).text }) := by
  rw [writeInPlace_eq_forM]
  exact run_forM_writeOne (Emitter.mk c "") (declarationsOf units) o

end Emission

end DeclGen
