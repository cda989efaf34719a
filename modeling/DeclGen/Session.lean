import DeclGen.FileTree
import DeclGen.Host

/-!
# Sessions

A run on a tree of files is a step from one *session* to another: the tree changes, and events are
added. What a run does can be seen by comparing the two.
-/

namespace DeclGen

/-- The state of a run on a tree: the tree, and the events so far. -/
structure Session where
  tree : FileTree
  events : List Log.Event := []

namespace Session

/-- A host whose files are those of a tree. -/
def host : Host (StateM Session) Place where
  create path := do
    let s ← get
    match s.tree.creatable path with
    | .error fault => pure (.error fault)
    | .ok place => do
      set { s with tree := s.tree.putText place "" }
      pure (.ok place)
  readText path := do pure ((← get).tree.readText path)
  write place text := do
    modify fun s => { s with tree := s.tree.putText place text }
    pure (.ok ())
  record event := modify fun s => { s with events := s.events ++ [event] }

end Session

end DeclGen
