/-!
Sets of code points given by ascending boundaries at which membership turns on and off.
-/

namespace EmbeddingIndex

abbrev Boundaries := List Nat

def Boundaries.contains (boundaries : Boundaries) (point : Nat) : Bool :=
  boundaries.countP (· ≤ point) % 2 == 1

end EmbeddingIndex
