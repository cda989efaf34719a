import DeclGen.Declaration

/-!
# Values of enum members

A member with an initializer takes its value. Any other takes one more than the member before it,
the first one zero. Values are 64-bit words, so one past the greatest is the least.
-/

namespace DeclGen

namespace EnumDecl

/-- Members with their values, where `next` is the value of a first member without an
initializer. -/
def valuesFrom (next : Int64) : List EnumMember → List (String × Int64)
  | [] => []
  | m :: rest =>
    let value := m.value.getD next
    (m.name, value) :: valuesFrom (value + 1) rest

/-- The members of an enum with their values, in declaration order. -/
def values (d : EnumDecl) : List (String × Int64) :=
  valuesFrom 0 d.members

end EnumDecl

end DeclGen
