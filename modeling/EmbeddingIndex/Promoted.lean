import EmbeddingIndex.Engine
import EmbeddingIndex.Scan
import EmbeddingIndex.Graph
import EmbeddingIndex.Snapshot.Store
/-!
The index behind a promotion: the proximity graph, or the scan in its place, with an optional
directory to keep a snapshot in.
-/

namespace EmbeddingIndex

variable [Runtime]

inductive Backend
  | graph (g : Graph)
  | scan (s : Scan)
  deriving DecidableEq, Repr

namespace Backend

def empty (tuning : Tuning) : Engine → Backend
  | .graph => graph (Graph.empty tuning)
  | .scan => scan Scan.empty

def engine : Backend → Engine
  | graph _ => .graph
  | scan _ => .scan

def entries : Backend → Entries
  | graph g => g.entries
  | scan s => s.entries

def size : Backend → Nat
  | graph g => g.size
  | scan s => s.size

def width : Backend → Option Nat
  | graph g => g.width
  | scan s => s.width

def add (id : String) (vector : Embedding) : Backend → Attempt Halt Backend
  | graph g => let (outcome, g) := g.add id vector; (outcome, graph g)
  | scan s => let (outcome, s) := s.add id vector; (outcome.mapError .fault, scan s)

def remove (id : String) : Backend → Attempt Halt Backend
  | graph g => let (outcome, g) := g.remove id; (outcome, graph g)
  | scan s => .done (scan (s.remove id))

def search (query : Embedding) (count : Nat) : Backend → Except Halt (List Hit)
  | graph g => g.search query count
  | scan s => (s.search query count).mapError .fault

def clear : Backend → Backend
  | graph g => graph g.clear
  | scan _ => scan Scan.empty

/-- Holds the given entries and nothing else; the graph is built at once, the scan one by one. -/
def load (tuning : Tuning) (entries : Entries) : Backend → Except Halt Backend
  | graph _ => (Graph.ofEntries tuning entries).map graph
  | scan _ =>
    match Scan.empty.addAll entries with
    | (.ok _, s) => .ok (scan s)
    | (.error fault, _) => .error (.fault fault)

end Backend

/-- `poisoned` is set by a change that crashed. -/
structure Promoted where
  backend : Backend
  dir : Option String
  tuning : Tuning
  poisoned : Bool
  deriving DecidableEq, Repr

namespace Promoted

def resource : String := "graph index"

def unusable (dir : String) (fault : FileFault) : Fault :=
  .construction ("cannot use " ++ dir ++ " as index directory: " ++ (IoFault.file fault).message)

def prepare (files : FileTree) (dir : String) : Except Fault Unit × FileTree :=
  match files.makeDirectories dir with
  | (.error fault, files) => (.error (unusable dir fault), files)
  | (.ok _, files) =>
    (if files.isDirectory dir then .ok () else .error (.construction (dir ++ " is not a directory")),
      files)

/-- An empty index; a snapshot that lies in its directory is left alone. -/
def create (settings : Settings) (files : FileTree) : Except Fault Promoted × FileTree :=
  let settings := settings.effective
  let fresh : Promoted :=
    ⟨.empty settings.tuning (Engine.choose settings.preference .here), settings.dir,
      settings.tuning, false⟩
  match settings.dir with
  | none => (.ok fresh, files)
  | some dir =>
    match prepare files dir with
    | (.error fault, files) => (.error fault, files)
    | (.ok _, files) => (.ok fresh, files)

def load (p : Promoted) (entries : Entries) : Except Halt Promoted :=
  (p.backend.load p.tuning entries).map fun backend => { p with backend }

def restore (settings : Settings) (files : FileTree) : Except Halt Promoted × FileTree :=
  match create settings files with
  | (.error fault, files) => (.error (.fault fault), files)
  | (.ok p, files) =>
    match p.dir with
    | none => (.ok p, files)
    | some dir =>
      if SnapshotFile.existsIn files dir then
        match SnapshotFile.read files dir with
        | .error halt => (.error halt, files)
        | .ok snapshot => (p.load snapshot.entries, files)
      else (.ok p, files)

def engine (p : Promoted) : Engine := p.backend.engine

def entries (p : Promoted) : Entries := p.backend.entries

def size (p : Promoted) : Nat := if p.poisoned then 0 else p.backend.size

def width (p : Promoted) : Option Nat := if p.poisoned then none else p.backend.width

def barrier (p : Promoted) : Option Fault :=
  if p.poisoned then some (.lockPoisoned resource) else none

def listing (p : Promoted) : Except Fault Entries :=
  match p.barrier with
  | some fault => .error fault
  | none => .ok p.entries

/-- Changes what is held; a change that crashes poisons the index. -/
def change (p : Promoted) (f : Backend → Attempt Halt Backend) : Attempt Halt Promoted :=
  match p.barrier with
  | some fault => .failed (.fault fault) p
  | none =>
    match f p.backend with
    | (.error .crash, backend) => .failed .crash { p with backend, poisoned := true }
    | (outcome, backend) => (outcome, { p with backend })

def add (p : Promoted) (id : String) (vector : Embedding) : Attempt Halt Promoted :=
  p.change (Backend.add id vector)

def remove (p : Promoted) (id : String) : Attempt Halt Promoted := p.change (Backend.remove id)

/-- A search only looks, so one that crashes does no harm. -/
def search (p : Promoted) (query : Embedding) (count : Nat) : Except Halt (List Hit) :=
  match p.barrier with
  | some fault => .error (.fault fault)
  | none => p.backend.search query count

def saveUnder (refusals : SnapshotFile.Refusals) (p : Promoted) (files : FileTree) :
    Except Fault Unit × FileTree :=
  match p.dir with
  | none => (.ok (), files)
  | some dir =>
    match p.listing with
    | .error fault => (.error fault, files)
    | .ok entries => SnapshotFile.writeUnder refusals files dir (.ofEntries p.width entries)

def save (p : Promoted) (files : FileTree) : Except Fault Unit × FileTree :=
  p.saveUnder .none files

def close (p : Promoted) : Attempt Fault Promoted :=
  match p.barrier with
  | some fault => .failed fault p
  | none => .done { p with backend := p.backend.clear }

def copyAll (p : Promoted) : Entries → Except Halt Promoted
  | [] => .ok p
  | entry :: rest =>
    match p.add entry.id entry.vector with
    | (.ok _, p) => copyAll p rest
    | (.error halt, _) => .error (halt.within (.copy entry.id))

end Promoted

end EmbeddingIndex
