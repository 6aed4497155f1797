import EmbeddingIndex.Main
import EmbeddingIndex.Proofs.Entries
import EmbeddingIndex.Proofs.Contents
import EmbeddingIndex.Proofs.Settings
import EmbeddingIndex.Proofs.Runtime
import EmbeddingIndex.Proofs.Loading
import EmbeddingIndex.Proofs.Graph.Wiring
import EmbeddingIndex.Proofs.Graph.Soundness
import EmbeddingIndex.Proofs.Graph.Shelf
import EmbeddingIndex.Proofs.Graph.Reached
import EmbeddingIndex.Proofs.Files.Tree
import EmbeddingIndex.Proofs.Snapshot.RoundTrip
import EmbeddingIndex.Proofs.Snapshot.Store
import EmbeddingIndex.Proofs.Backend
import EmbeddingIndex.Proofs.Search
import EmbeddingIndex.Proofs.Promoted
import EmbeddingIndex.Proofs.Active
import EmbeddingIndex.Proofs.Tiered.Addition
import EmbeddingIndex.Proofs.Tiered.Reachable
import EmbeddingIndex.Proofs.Tiered.Contents
import EmbeddingIndex.Proofs.Tiered.Restart
import EmbeddingIndex.Proofs.Snapshot.Truncated
import EmbeddingIndex.Proofs.Tiered.Promotion
import EmbeddingIndex.Proofs.Tiered.Query
import EmbeddingIndex.Proofs.Tiered.Failure
import EmbeddingIndex.Proofs.Opening
import EmbeddingIndex.Proofs.Tiered.Clients
import EmbeddingIndex.Proofs.Files.Widening
import EmbeddingIndex.Proofs.CommandLine
import EmbeddingIndex.Proofs.Tiered.Filling
import EmbeddingIndex.Proofs.Run
import EmbeddingIndex.Proofs.Program
import EmbeddingIndex.Proofs.Tiered.Ending
import EmbeddingIndex.Proofs.Promoted.Replacement
import EmbeddingIndex.Proofs.Tiered.Saving
import EmbeddingIndex.Proofs.Ranking
import EmbeddingIndex.Proofs.Ranking.Selection
import EmbeddingIndex.Proofs.Scan
import EmbeddingIndex.Proofs.Number.Order
import EmbeddingIndex.Proofs.Number.Operations
import EmbeddingIndex.Proofs.Number.Value
import EmbeddingIndex.Proofs.Number.TotalOrder
import EmbeddingIndex.Proofs.Embedding
import EmbeddingIndex.Proofs.Graph.Fetching
import EmbeddingIndex.Proofs.Graph.Recall
import EmbeddingIndex.Proofs.Record
