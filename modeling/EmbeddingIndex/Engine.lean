import EmbeddingIndex.Settings
/-!
The choice between the proximity graph and the linear scan behind a promoted index.
-/

namespace EmbeddingIndex

inductive Engine
  | graph
  | scan
  deriving DecidableEq, Repr

inductive Availability
  | available
  | unavailable
  deriving DecidableEq, Repr

def Availability.here : Availability := available

def Engine.choose : Preference → Availability → Engine
  | .exact, _ => scan
  | .auto, .available | .graph, .available => graph
  | .auto, .unavailable | .graph, .unavailable => scan

def Engine.name : Engine → String
  | graph => "graph"
  | scan => "exact_fallback"

end EmbeddingIndex
