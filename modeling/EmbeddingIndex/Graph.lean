import EmbeddingIndex.Hit
import EmbeddingIndex.Runtime
/-!
The proximity graph with its bookkeeping. The graph itself cannot drop or change a node, so every
insertion takes a fresh slot, and a slot whose entry was replaced or removed stays behind as a
tombstone until the graph is rebuilt from the live entries. What the graph itself does is up to the
library.
-/

namespace EmbeddingIndex

structure Graph where
  tuning : Tuning
  /-- Unit vectors of the library's nodes, one for each slot; absent until the first insertion. -/
  nodes : Option (List Embedding)
  /-- The entry stored at each slot; a tombstone has none. -/
  slots : List (Option Entry)
  places : List (String × Nat)
  tombstones : Nat
  deriving DecidableEq, Repr

namespace Graph

/-- Tombstones that are tolerated whatever the number of live entries. -/
def tombstoneFloor : Nat := 64

def empty (tuning : Tuning) : Graph := ⟨tuning.effective, none, [], [], 0⟩

def size (g : Graph) : Nat := g.places.length

def entryAt (g : Graph) (slot : Nat) : Option Entry := (g.slots[slot]?).join

def width (g : Graph) : Option Nat :=
  g.places.head?.bind fun place => (g.entryAt place.2).map (·.vector.length)

def entries (g : Graph) : Entries := g.slots.filterMap id

def isFull (g : Graph) : Bool := g.tuning.capacity ≤ g.slots.length

def clear (g : Graph) : Graph := ⟨g.tuning, none, [], [], 0⟩

variable [Runtime]

/-- A graph of exactly the given entries. The old one is dropped before anything else, so nothing is
held after a failure. -/
def rebuild (g : Graph) (entries : Entries) : Attempt Halt Graph :=
  if entries.isEmpty then .done g.clear
  else if g.tuning.capacity < entries.length then .failed (.fault (.graph .full)) g.clear
  else
    match g.tuning.shape with
    | .error halt => .failed halt g.clear
    | .ok shape =>
      match shape.grow [] (entries.map (·.vector.unit)) with
      | (.error halt, _) => .failed halt g.clear
      | (.ok _, nodes) =>
        .done ⟨g.tuning, some nodes, entries.map some,
          entries.zipIdx.map fun pair => (pair.1.id, pair.2), 0⟩

def compact (g : Graph) : Attempt Halt Graph := g.rebuild g.entries

/-- Compacts once tombstones pass the floor and outnumber the live entries. -/
def tidy (g : Graph) : Attempt Halt Graph :=
  if tombstoneFloor < g.tombstones ∧ g.size < g.tombstones then g.compact else .done g

def slotOf (g : Graph) (id : String) : Option Nat := g.places.lookup id

def bury (g : Graph) (slot : Nat) : Graph :=
  { g with slots := g.slots.set slot none, tombstones := g.tombstones + 1 }

def setPlace (id : String) (slot : Nat) : List (String × Nat) → List (String × Nat)
  | [] => [(id, slot)]
  | place :: rest => if place.1 = id then (id, slot) :: rest else place :: setPlace id slot rest

def store (g : Graph) (id : String) (vector : Embedding) : Attempt Halt Graph :=
  let slot := g.slots.length
  let grown : Graph :=
    { g with
      slots := g.slots ++ [some ⟨id, vector⟩]
      places := setPlace id slot g.places }
  match g.slotOf id with
  | none => .done grown
  | some old => (grown.bury old).tidy

/-- Has the library make a node for an entry. If it refuses, it may have kept a node for which there is
no slot, so the graph is rebuilt; that the rebuild succeeds does not undo the refusal. -/
def append (g : Graph) (id : String) (vector : Embedding) : Attempt Halt Graph :=
  match g.tuning.shape with
  | .error halt => .failed halt g
  | .ok shape =>
    match shape.grow (g.nodes.getD []) [vector.unit] with
    | (.ok _, nodes) => { g with nodes := some nodes }.store id vector
    | (.error .crash, nodes) => .failed .crash { g with nodes := some nodes }
    | (.error (.fault cause), _) => (g.rebuild g.entries).andThen (.failed (.fault cause))

/-- A graph left with nothing but tombstones starts afresh, so vectors of another width may
follow; a full one is compacted if that frees a slot. -/
def add (g : Graph) (id : String) (vector : Embedding) : Attempt Halt Graph :=
  match rejection id vector g.width with
  | some fault => .failed (.fault fault) g
  | none =>
    (if g.places.isEmpty && g.nodes.isSome then g.rebuild [] else .done g).andThen fun g =>
      (if g.isFull && 0 < g.tombstones then g.compact else .done g).andThen fun g =>
        if g.isFull then .failed (.fault (.graph .full)) g else g.append id vector

def remove (g : Graph) (id : String) : Attempt Halt Graph :=
  match g.slotOf id with
  | none => .done g
  | some slot => ({ g with places := g.places.filter (·.1 ≠ id) }.bury slot).tidy

/-- The slots that a search looks at. They make up for tombstones among them. -/
def fetch (g : Graph) (nodes : List Embedding) (query : Embedding) (count : Nat) :
    Except Halt (List Nat) :=
  match word (count + g.tombstones) with
  | .error halt => .error halt
  | .ok asked =>
    match Runtime.library.find g.tuning nodes query.unit (min asked g.slots.length) with
    | none => .error .crash
    | some slots => .ok slots

def search (g : Graph) (query : Embedding) (count : Nat) : Except Halt (List Hit) :=
  if query.isEmpty || count = 0 || g.places.isEmpty then .ok []
  else
    match widthFault query g.width with
    | some fault => .error (.fault fault)
    | none =>
      match g.nodes with
      | none => .ok []
      | some nodes =>
        match g.fetch nodes query count with
        | .error halt => .error halt
        | .ok slots =>
          match (slots.filterMap g.entryAt).mapM (Entry.score query) with
          | .ok hits => .ok (rank hits count)
          | .error fault => .error (.fault fault)

/-- The last vector given for each id, or the first entry that cannot stand beside the one before
it. -/
def gather : Option Nat → Entries → Entries → Except Fault Entries
  | _, live, [] => .ok live
  | established, live, entry :: rest =>
    match rejection entry.id entry.vector established with
    | some fault => .error fault
    | none => gather (some entry.vector.length) (live.put entry.id entry.vector) rest

def ofEntries (tuning : Tuning) (entries : Entries) : Except Halt Graph :=
  match gather none [] entries with
  | .error fault => .error (.fault fault)
  | .ok live =>
    match (empty tuning).rebuild live with
    | (.ok _, g) => .ok g
    | (.error halt, _) => .error halt

end Graph

end EmbeddingIndex
