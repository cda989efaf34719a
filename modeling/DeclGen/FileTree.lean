import DeclGen.FileFault
import DeclGen.Path

/-!
# Trees of files

A `FileTree` is a value that holds directories and files. A node has a *place*, which is the list
of names on the way to it from the root, and a path leads to a place: part by part, from the root
or from the current directory, each part but the last through a directory that is there. Two paths
are the same file exactly when they lead to the same place.

There is nothing above the root, so `..` leads from the root to itself.
-/

namespace DeclGen

/-- Where a node is: the names on the way to it from the root. -/
abbrev Place := List String

/-- A node of a tree. -/
inductive Node where
  | directory
  | file (content : ByteArray)

/-- Directories and files by their places. -/
structure FileTree where
  nodes : List (Place × Node) := []
  /-- The directory that paths start from, unless they start from the root. -/
  current : Place := []

namespace FileTree

/-- The node at a place. The root is always a directory. -/
def node? (t : FileTree) (place : Place) : Option Node :=
  if place = [] then some .directory else t.nodes.lookup place

/-- Puts a node at a place. -/
def put (t : FileTree) (place : Place) (node : Node) : FileTree :=
  { t with nodes := (place, node) :: t.nodes }

/-! ### From paths to places -/

/-- How many bytes a name can have. -/
def maxNameSize : Nat := 255

/-- How many bytes a path can have. -/
def maxPathSize : Nat := 4095

/-- The place that a part leads to from a directory. -/
def follow (place : Place) (part : String) : Place :=
  if part = "." then place else if part = ".." then place.dropLast else place ++ [part]

/-- Refuses a place that is no directory. -/
def requireDirectory (t : FileTree) (place : Place) : Except FileFault Unit :=
  match t.node? place with
  | none => .error .notFound
  | some (.file _) => .error .notDirectory
  | some .directory => .ok ()

/-- The place that a part leads to from a place, which has to be a directory. -/
def step (t : FileTree) (place : Place) (part : String) : Except FileFault Place := do
  t.requireDirectory place
  if maxNameSize < part.utf8ByteSize then .error .nameTooLong else .ok (follow place part)

/-- The directory that a path starts from. -/
def start (t : FileTree) (path : String) : Place :=
  if Path.isAbsolute path then [] else t.current

/-- The directory that a path starts from, unless the path leads nowhere because it is empty, too
long or holds a null character. -/
def checkedStart (t : FileTree) (path : String) : Except FileFault Place :=
  if path.toList.contains '\x00' then .error .nullCharacter
  else if path = "" then .error .notFound
  else if maxPathSize < path.utf8ByteSize then .error .nameTooLong
  else .ok (t.start path)

/-- The place that a path leads to, where a node may be or not. -/
def place (t : FileTree) (path : String) : Except FileFault Place := do
  (Path.parts path).foldlM t.step (← t.checkedStart path)

/-! ### Building a tree -/

/-- Puts a directory at a place, unless there is a node. -/
def addDirectory (t : FileTree) (place : Place) : FileTree :=
  if (t.node? place).isSome then t else t.put place .directory

/-- Puts directories on the way from a place along some parts, and tells where they lead. -/
def addDirectoriesFrom (t : FileTree) (place : Place) : List String → FileTree × Place
  | [] => (t, place)
  | part :: rest =>
    let next := follow place part
    (t.addDirectory next).addDirectoriesFrom next rest

/-- Puts a directory, and the directories on the way to it. -/
def addDirectories (t : FileTree) (path : String) : FileTree :=
  (t.addDirectoriesFrom (t.start path) (Path.parts path)).1

/-- Puts a file, and the directories on the way to it. -/
def addFile (t : FileTree) (path : String) (content : ByteArray) : FileTree :=
  let (t, directory) := t.addDirectoriesFrom (t.start path) (Path.parts path).dropLast
  t.put (directory ++ (Path.parts path).getLast?.toList) (.file content)

/-- Goes to a directory, which is put if it is not there. -/
def enter (t : FileTree) (place : Place) : FileTree :=
  { (t.addDirectoriesFrom [] place).1 with current := place }

/-! ### Reading and writing -/

/-- The text of a file. A path that ends in a slash leads to no file. -/
def readText (t : FileTree) (path : String) : Except FileFault String := do
  match t.node? (← t.place path) with
  | none => .error .notFound
  | some .directory => .error .isDirectory
  | some (.file content) =>
    if Path.endsInSlash path then .error .notDirectory
    else
      match String.fromUTF8? content with
      | some text => .ok text
      | none => .error .notText

/-- The place of a file that can be created, or is there to be emptied. A path that ends in a slash
asks for a directory, and the last name on it is not looked at. -/
def creatable (t : FileTree) (path : String) : Except FileFault Place := do
  let parts := Path.parts path
  let directory ← parts.dropLast.foldlM t.step (← t.checkedStart path)
  t.requireDirectory directory
  if Path.endsInSlash path then .error .isDirectory
  else
    let place ← parts.getLast?.elim (.ok directory) (t.step directory)
    match t.node? place with
    | some .directory => .error .isDirectory
    | _ => .ok place

/-- Puts a file with a text at a place. -/
def putText (t : FileTree) (place : Place) (text : String) : FileTree :=
  t.put place (.file text.toUTF8)

end FileTree

end DeclGen
