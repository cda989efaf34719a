import DeclGen.Text.Split

/-!
# Paths

A path is a text whose *parts* stand between slashes. Two parts are special: `.` is the directory
itself and `..` is the directory above.

The *file name* is the last part, where trailing slashes and parts `.` do not count. The file name
of the output decides whether ambient declarations are wanted.
-/

namespace DeclGen.Path

/-- The parts of a path. Slashes beside each other count as one. -/
def parts (path : String) : List String :=
  ((Text.split '/' path.toList).filter (· ≠ [])).map String.ofList

/-- Whether a path starts from the root. -/
def isAbsolute (path : String) : Bool :=
  path.toList.head? == some '/'

/-- Whether a path ends in a slash. -/
def endsInSlash (path : String) : Bool :=
  path.toList.getLast? == some '/'

/-- The file name of a path. A path that leads upwards at its end has none, nor has one without
parts. -/
def fileName? (path : String) : Option String :=
  ((parts path).filter (· ≠ ".")).getLast?.filter (· ≠ "..")

/-- The endings of file names that call for ambient declarations. -/
def declarationEndings : List String := [".d.ts", ".d.mts", ".d.cts"]

/-- Whether an output of that path holds ambient declarations. Case matters. -/
def isDeclarationFile (path : String) : Bool :=
  (fileName? path).any fun name =>
    declarationEndings.any fun ending => ending.toList.isSuffixOf name.toList

end DeclGen.Path
