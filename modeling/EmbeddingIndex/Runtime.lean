import EmbeddingIndex.Entries
import EmbeddingIndex.Settings
/-!
What the index runs on and does not decide by itself: the arithmetic of machine words, and the library
that keeps the proximity graph.
-/

namespace EmbeddingIndex

/-- What becomes of a number that no machine word holds. -/
inductive Overflow
  | crash
  | wrap
  deriving DecidableEq, Repr

def wordLimit : Nat := 0x10000000000000000

def Overflow.word (overflow : Overflow) (n : Nat) : Except Halt Nat :=
  if n < wordLimit then .ok n
  else
    match overflow with
    | crash => .error .crash
    | wrap => .ok (n % wordLimit)

inductive Reply
  | taken
  | refused (reason : String)
  | crashed
  deriving DecidableEq, Repr

def Reply.outcome : Reply → Except Halt Unit
  | taken => .ok ()
  | refused reason => .error (.fault (.graph (.described reason)))
  | crashed => .error .crash

/-- A graph as it is ordered from the library: for how many nodes, and with room for how many
neighbours of each on the lowest layer. -/
structure Shape where
  tuning : Tuning
  slots : Nat
  baseNeighbors : Nat
  deriving DecidableEq, Repr

/-- A library of graphs. A graph is told by the nodes it has got so far; the place of a node among
them is its slot. -/
structure GraphLibrary where
  insert : Shape → List Embedding → Embedding → Reply
  link : Shape → List Embedding → Reply
  /-- Slots of so many nodes in a direction; there are none to tell if the library crashes. -/
  find : Tuning → List Embedding → Embedding → Nat → Option (List Nat)

class Runtime where
  overflow : Overflow
  library : GraphLibrary

variable [Runtime]

def word (n : Nat) : Except Halt Nat := Runtime.overflow.word n

/-- The shape of a graph. The library never fills its last slot, so there is one more. -/
def Tuning.shape (t : Tuning) : Except Halt Shape :=
  match word (t.capacity + 1), word (2 * t.neighbors) with
  | .ok slots, .ok baseNeighbors => .ok ⟨t, slots, baseNeighbors⟩
  | .error halt, _ => .error halt
  | _, .error halt => .error halt

/-- Inserts nodes one by one behind those that are there, and links them. Whatever comes of it, the
graph keeps the nodes that it got. -/
def Shape.grow (shape : Shape) : List Embedding → List Embedding → Attempt Halt (List Embedding)
  | nodes, [] => ((Runtime.library.link shape nodes).outcome, nodes)
  | nodes, node :: rest =>
    match Runtime.library.insert shape nodes node with
    | .taken => shape.grow (nodes ++ [node]) rest
    | reply => (reply.outcome, nodes)

end EmbeddingIndex
