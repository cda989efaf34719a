/-!
# Ranges of characters

A class of characters is given by a table: the ranges of its code points in ascending order, both
ends included, where no two ranges meet. So one range decides whether a character belongs to the
class, the first that does not end before it.
-/

namespace DeclGen.Text

/-- Whether a character lies within the ranges of a table. -/
def isWithin (table : List (Nat × Nat)) (c : Char) : Bool :=
  (table.find? fun range => c.toNat ≤ range.2).any fun range => range.1 ≤ c.toNat

end DeclGen.Text
