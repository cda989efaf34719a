/-!
# Splitting a text

A text is split at every occurrence of a separator. There is one part more than there are
separators, so parts may be empty. The lines of a text are its parts between newlines.
-/

namespace DeclGen.Text

/-- The parts of a text between separators. -/
def split (separator : Char) : List Char → List (List Char)
  | [] => [[]]
  | c :: rest =>
    if c = separator then [] :: split separator rest
    else
      match split separator rest with
      | [] => [[c]]
      | part :: parts => (c :: part) :: parts

/-- A line without the carriage return at its end. -/
def dropReturn (line : List Char) : List Char :=
  if line.getLast? = some '\r' then line.dropLast else line

/-- The lines of a text that is followed by a newline. -/
def lines (s : String) : List String :=
  (split '\n' s.toList).map fun line => String.ofList (dropReturn line)

end DeclGen.Text
