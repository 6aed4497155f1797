import EmbeddingIndex.Number.Binary32
import EmbeddingIndex.Fault
/-!
Embedding vectors and the arithmetic on them, in single precision and element order.
-/

namespace EmbeddingIndex

abbrev Embedding := List Binary32

structure Entry where
  id : String
  vector : Embedding
  deriving DecidableEq, Repr

namespace Embedding

structure Moments where
  dot : Binary32
  left : Binary32
  right : Binary32
  deriving DecidableEq, Repr

def Moments.add (m : Moments) (pair : Binary32 × Binary32) : Moments :=
  ⟨m.dot + pair.1 * pair.2, m.left + pair.1 * pair.1, m.right + pair.2 * pair.2⟩

def moments (a b : Embedding) : Moments :=
  (a.zip b).foldl Moments.add ⟨.zero, .zero, .zero⟩

/-- Zero when either side has no length, also when its square underflows. -/
def cosine (a b : Embedding) : Binary32 :=
  let m := moments a b
  if m.left.isZero || m.right.isZero then .zero else m.dot / (m.left.sqrt * m.right.sqrt)

def similarity (a b : Embedding) : Except Fault Binary32 :=
  if a.length = b.length then .ok (cosine a b) else .error (.dimensionMismatch a.length b.length)

def norm (v : Embedding) : Binary32 := (v.foldl (fun sum x => sum + x * x) Binary32.zero).sqrt

def unit (v : Embedding) : Embedding :=
  let length := v.norm
  if length.isZero then v else v.map (· / length)

def squaredDistance (a b : Embedding) : Binary32 :=
  (a.zip b).foldl (fun sum pair => sum + (pair.1 - pair.2) * (pair.1 - pair.2)) Binary32.zero

def isFinite (v : Embedding) : Bool := v.all Binary32.isFinite

end Embedding

def widthFault (vector : Embedding) (established : Option Nat) : Option Fault :=
  match established with
  | none => none
  | some width =>
    if width = vector.length then none else some (.dimensionMismatch width vector.length)

def rejection (id : String) (vector : Embedding) (established : Option Nat) : Option Fault :=
  if vector.isEmpty then some (.emptyVector id)
  else if vector.isFinite then widthFault vector established
  else some (.nonFinite id)

end EmbeddingIndex
