import EmbeddingIndex.Promoted
/-!
The tiered index. It scans while it is small and is promoted for good once it holds more entries
than its threshold.
-/

namespace EmbeddingIndex

variable [Runtime]

inductive Active
  | scan (s : Scan)
  | promoted (p : Promoted)
  deriving DecidableEq, Repr

inductive Mode
  | exact
  | promoted
  deriving DecidableEq, Repr

def Mode.name : Mode → String
  | exact => "exact"
  | promoted => "promoted"

/-- `closed` is set by closing, `poisoned` by an operation that crashed. -/
structure Tiered where
  settings : Settings
  active : Active
  closed : Bool
  poisoned : Bool
  deriving DecidableEq, Repr

structure Step (α : Type) where
  answer : α
  index : Tiered
  files : FileTree

namespace Active

def entries : Active → Entries
  | scan s => s.entries
  | promoted p => p.entries

def size : Active → Nat
  | scan s => s.size
  | promoted p => p.size

def width : Active → Option Nat
  | scan s => s.width
  | promoted p => p.width

def add (id : String) (vector : Embedding) : Active → Attempt Halt Active
  | scan s => let (outcome, s) := s.add id vector; (outcome.mapError .fault, scan s)
  | promoted p => let (outcome, p) := p.add id vector; (outcome, promoted p)

def remove (id : String) : Active → Attempt Halt Active
  | scan s => .done (scan (s.remove id))
  | promoted p => let (outcome, p) := p.remove id; (outcome, promoted p)

def search (query : Embedding) (count : Nat) : Active → Except Halt (List Hit)
  | scan s => (s.search query count).mapError .fault
  | promoted p => p.search query count

def saveUnder (refusals : SnapshotFile.Refusals) (files : FileTree) :
    Active → Except Fault Unit × FileTree
  | scan _ => (.ok (), files)
  | promoted p => p.saveUnder refusals files

/-- A scan keeps its entries when it is closed. -/
def close : Active → Attempt Fault Active
  | scan s => .done (scan s)
  | promoted p => let (outcome, p) := p.close; (outcome, promoted p)

end Active

namespace Tiered

def resource : String := "tiered index"

/-- Starts promoted if the directory holds a snapshot, and as an empty scan otherwise. -/
def create (settings : Settings) (files : FileTree) : Except Halt Tiered × FileTree :=
  let settings := settings.effective
  let restored := match settings.dir with
    | some dir => SnapshotFile.existsIn files dir
    | none => false
  if restored then
    match Promoted.restore settings files with
    | (.error halt, files) => (.error halt, files)
    | (.ok p, files) => (.ok ⟨settings, .promoted p, false, false⟩, files)
  else (.ok ⟨settings, .scan .empty, false, false⟩, files)

def mode (t : Tiered) : Mode :=
  match t.active with
  | .scan _ => .exact
  | .promoted _ => .promoted

def engine (t : Tiered) : Option Engine :=
  match t.active with
  | .scan _ => none
  | .promoted p => some p.engine

def entries (t : Tiered) : Entries := t.active.entries

def width (t : Tiered) : Option Nat := t.active.width

def size (t : Tiered) : Nat := if t.closed then 0 else t.active.size

def barrier (t : Tiered) : Option Fault :=
  if t.poisoned then some (.lockPoisoned resource) else if t.closed then some .closed else none

/-- Ends an operation; a crash leaves the index poisoned. -/
def conclude {α : Type} (answer : Except Halt α) (t : Tiered) (files : FileTree) :
    Step (Except Halt α) :=
  match answer with
  | .error .crash => ⟨.error .crash, { t with poisoned := true }, files⟩
  | _ => ⟨answer, t, files⟩

def within {α : Type} (op : String) : Except Halt α → Except Halt α :=
  Except.mapError (Halt.within (.backend op))

def promote (settings : Settings) (s : Scan) (files : FileTree) :
    Except Halt Promoted × FileTree :=
  match Promoted.create settings files with
  | (.error fault, files) => (.error (.fault fault), files)
  | (.ok p, files) => (p.copyAll s.entries, files)

/-- Stores the vector, then tries to promote a scan that has outgrown the threshold. A promotion
that fails leaves the scan, with the new vector in it. -/
def add (t : Tiered) (id : String) (vector : Embedding) (files : FileTree) :
    Step (Except Halt Unit) :=
  match t.barrier with
  | some fault => ⟨.error (.fault fault), t, files⟩
  | none =>
    let (outcome, active) := t.active.add id vector
    let stored := { t with active }
    match outcome with
    | .error halt => conclude (within "add" (.error halt)) stored files
    | .ok _ =>
      if active.size ≤ t.settings.threshold then ⟨.ok (), stored, files⟩
      else
        match active with
        | .promoted _ => ⟨.ok (), stored, files⟩
        | .scan s =>
          match promote t.settings s files with
          | (.error halt, files) => conclude (.error halt) stored files
          | (.ok p, files) => ⟨.ok (), { t with active := .promoted p }, files⟩

def remove (t : Tiered) (id : String) (files : FileTree) : Step (Except Halt Unit) :=
  match t.barrier with
  | some fault => ⟨.error (.fault fault), t, files⟩
  | none =>
    let (outcome, active) := t.active.remove id
    conclude (within "remove" outcome) { t with active } files

def search (t : Tiered) (query : Embedding) (count : Nat) (files : FileTree) :
    Step (Except Halt (List Hit)) :=
  match t.barrier with
  | some fault => ⟨.error (.fault fault), t, files⟩
  | none => conclude (within "search" (t.active.search query count)) t files

def saveUnder (refusals : SnapshotFile.Refusals) (t : Tiered) (files : FileTree) :
    Step (Except Fault Unit) :=
  match t.barrier with
  | some fault => ⟨.error fault, t, files⟩
  | none =>
    let (outcome, files) := t.active.saveUnder refusals files
    ⟨outcome.mapError (.backend "save"), t, files⟩

def save (t : Tiered) (files : FileTree) : Step (Except Fault Unit) := t.saveUnder .none files

def close (t : Tiered) (files : FileTree) : Step (Except Fault Unit) :=
  if t.poisoned then ⟨.error (.lockPoisoned resource), t, files⟩
  else if t.closed then ⟨.ok (), t, files⟩
  else
    match t.active.close with
    | (.error fault, active) => ⟨.error (.backend "close" fault), { t with active }, files⟩
    | (.ok _, active) => ⟨.ok (), { t with active, closed := true }, files⟩

end Tiered

end EmbeddingIndex
