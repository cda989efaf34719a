import DeclGen.FileFault
import DeclGen.Log.Event

/-!
# Hosts

A run reads and writes files and tells what it does. A `Host` is what it does this on: the system,
or a tree of files that is given as a value. A run is written once, for any host.
-/

namespace DeclGen

/-- What a run needs, where effects are in `m` and `File` stands for a file that is open for
writing. -/
structure Host (m : Type → Type) (File : Type) where
  /-- Creates the file of a path, or empties the one that is there. -/
  create : String → m (Except FileFault File)
  /-- The text of the file of a path. -/
  readText : String → m (Except FileFault String)
  /-- Writes a text to a file that has just been created. -/
  write : File → String → m (Except FileFault Unit)
  /-- Takes note of an event. -/
  record : Log.Event → m Unit

namespace Host

variable {m : Type → Type} {File : Type}

/-- Takes note of several events in order. -/
def recordAll [Monad m] (h : Host m File) (events : List Log.Event) : m Unit :=
  events.forM h.record

end Host

end DeclGen
