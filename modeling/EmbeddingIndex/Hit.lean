import EmbeddingIndex.Embedding
import EmbeddingIndex.Sorting
/-!
Ranked answers to a query.
-/

namespace EmbeddingIndex

structure Hit where
  id : String
  score : Binary32
  deriving DecidableEq, Repr

/-- The `count` best hits, best first; equal scores keep their order. -/
def rank (hits : List Hit) (count : Nat) : List Hit :=
  (sortBy (·.score.descendingKey) hits).take count

theorem sortBy_descending (hits : List Hit) :
    (sortBy (·.score.descendingKey) hits).Pairwise fun a b => b.score.rankKey ≤ a.score.rankKey := by
  have sorted := sortBy_pairwise (fun hit : Hit => hit.score.descendingKey) hits
  exact sorted.imp fun ordered => (Binary32.descendingKey_le_iff _ _).mp ordered

def Entry.score (query : Embedding) (entry : Entry) : Except Fault Hit :=
  (query.similarity entry.vector).map (⟨entry.id, ·⟩)

end EmbeddingIndex
