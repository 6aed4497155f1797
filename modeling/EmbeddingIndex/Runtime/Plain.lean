import EmbeddingIndex.Memory
import EmbeddingIndex.Runtime
import EmbeddingIndex.Sorting
/-!
The runtime of the program. Numbers wrap around, and the library compares a direction with every node.
It crashes on a node for whose neighbours no memory can be asked, and on a direction that is not
finite.
-/

namespace EmbeddingIndex

/-- A level factor below the fiftieth power of two keeps the highest layer low enough, because no
capacity has a logarithm above forty-five. -/
def Tuning.isModest (t : Tuning) : Bool := t.levelFactor.bits < 0x4310000000000000

/-- Whether a node's lists of neighbours can be asked for: eight bytes for a neighbour, and forty for
the list of each layer above the lowest. -/
def Shape.isHeld (shape : Shape) : Bool :=
  Memory.holds shape.baseNeighbors 8 && Memory.holds shape.tuning.neighbors 8 &&
    (shape.tuning.isModest || Memory.holds shape.tuning.topLevel 40)

/-- The `count` nodes nearest to a direction, nearest first; nodes at equal distances keep their
order. -/
def nearest (direction : Embedding) (nodes : List Embedding) (count : Nat) : List Nat :=
  let distances := (nodes.map (direction.squaredDistance ·)).zipIdx
  ((sortBy (·.1.rankKey) distances).take count).map (·.2)

def GraphLibrary.exhaustive : GraphLibrary where
  insert shape nodes _ :=
    if shape.slots ≤ nodes.length + 1 then
      .refused "The number of elements exceeds the specified limit"
    else if shape.isHeld then .taken
    else .crashed
  link _ _ := .taken
  find _ nodes direction count :=
    if direction.isFinite then some (nearest direction nodes count) else none

instance Runtime.plain : Runtime := ⟨.wrap, .exhaustive⟩

end EmbeddingIndex
