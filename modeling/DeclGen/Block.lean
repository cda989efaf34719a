import DeclGen.EnumValue
import DeclGen.IndexSignature
import DeclGen.MemberName

/-!
# Blocks

The output is a sequence of *blocks*, one per declaration. A block is first a value, which says
what is emitted: a name, a parent, an index signature, members with their shapes, or an enum's
values. `Block.text` then lays it out under a leading keyword. A block ends with an empty line.
-/

namespace DeclGen

/-- One member of an interface block. -/
structure MemberLine where
  name : String
  isOptional : Bool
  shape : Shape
  deriving DecidableEq

/-- The block of a class, struct or interface. -/
structure InterfaceBlock where
  name : String
  parent? : Option String
  signature? : Option IndexSignature
  members : List MemberLine
  deriving DecidableEq

/-- The block of an enum. -/
structure EnumBlock where
  name : String
  values : List (String × Int64)
  deriving DecidableEq

/-- What is emitted for one declaration. -/
inductive Block where
  | interface (block : InterfaceBlock)
  | enum (block : EnumBlock)
  deriving DecidableEq

/-- The line of a member: its name, a question mark if it is optional, and its type. -/
def Member.line (m : Member) : MemberLine :=
  { name := m.outputName, isOptional := m.isOptional, shape := m.type.shape }

/-- What is emitted for a declaration. -/
def Declaration.block : Declaration → Block
  | .type d =>
    .interface
      { name := d.name, parent? := d.parent?, signature? := d.indexSignature?
        members := d.members.map Member.line }
  | .enum d => .enum { name := d.name, values := d.values }

/-! ### Layout -/

namespace MemberLine

/-- The text of a member line, without indentation and line end. -/
def text (m : MemberLine) : String :=
  m.name ++ (if m.isOptional then "?" else "") ++ ": " ++ m.shape.text ++ ";"

end MemberLine

namespace Block

/-- The lines of a block's body are indented by two blanks. -/
def indent (line : String) : String := "  " ++ line

/-- The lines of an interface body: the index signature comes before the members. -/
def interfaceLines (b : InterfaceBlock) : List String :=
  (b.signature?.map IndexSignature.text).toList ++ b.members.map MemberLine.text

/-- The lines of an enum body, without the commas between them. -/
def enumLines (b : EnumBlock) : List String :=
  b.values.map fun v => v.1 ++ " = " ++ toString v.2.toInt

/-- The text between the braces of an enum: its lines with commas between them, and nothing at all
where there is no line. -/
def enumBody (b : EnumBlock) : String :=
  match (enumLines b).map indent with
  | [] => ""
  | lines => ",\n".intercalate lines ++ "\n"

/-- The text of a block that opens with the given keyword. -/
def text (keyword : String) : Block → String
  | .interface b =>
    keyword ++ " interface " ++ b.name
      ++ (match b.parent? with | some p => " extends " ++ p | none => "")
      ++ " \x7b\n"
      ++ String.join ((interfaceLines b).map fun line => indent line ++ "\n")
      ++ "\x7d\n\n"
  | .enum b => keyword ++ " enum " ++ b.name ++ " \x7b\n" ++ enumBody b ++ "\x7d\n\n"

end Block

end DeclGen
