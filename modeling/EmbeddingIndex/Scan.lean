import EmbeddingIndex.Entries
import EmbeddingIndex.Hit
/-!
The linear scan: every stored vector is scored against every query.
-/

namespace EmbeddingIndex

structure Scan where
  entries : Entries
  deriving DecidableEq, Repr

namespace Scan

def empty : Scan := ⟨[]⟩

def size (s : Scan) : Nat := s.entries.length

def width (s : Scan) : Option Nat := s.entries.width

def add (s : Scan) (id : String) (vector : Embedding) : Attempt Fault Scan :=
  match rejection id vector s.width with
  | some fault => .failed fault s
  | none => .done ⟨s.entries.put id vector⟩

def remove (s : Scan) (id : String) : Scan := ⟨s.entries.erase id⟩

/-- An empty query and a count of zero have no hits, whatever the query's width. -/
def search (s : Scan) (query : Embedding) (count : Nat) : Except Fault (List Hit) :=
  if query.isEmpty || count = 0 then .ok []
  else
    match widthFault query s.width with
    | some fault => .error fault
    | none => (s.entries.mapM (Entry.score query)).map (rank · count)

def addAll (s : Scan) : Entries → Attempt Fault Scan
  | [] => .done s
  | entry :: rest => (s.add entry.id entry.vector).andThen fun s => s.addAll rest

end Scan

end EmbeddingIndex
