import EmbeddingIndex.Proofs.Embedding
import EmbeddingIndex.Proofs.Graph.Fetching
import EmbeddingIndex.Proofs.Scan
/-!
A search in a graph beside a scan of its entries. The graph cuts by the distance between unit
vectors and the scan by the cosine, so the graph overlooks a better entry where the two disagree, as
they do about a vector whose length underflows.
-/

namespace EmbeddingIndex.Graph

/-- A stored vector is left out that scores above one of the hits. -/
def Overlooks (g : Graph) (query : Embedding) (hits : List Hit) : Prop :=
  ∃ entry ∈ g.entries, entry.id ∉ hits.map (·.id) ∧
    ∃ hit ∈ hits, hit.score.rankKey < (query.cosine entry.vector).rankKey

/-- Of two live entries, the one that scores higher is nearer. -/
def Aligned (g : Graph) (query : Embedding) : Prop :=
  ∀ near far a b, g.entryAt near = some a → g.entryAt far = some b →
    (query.cosine b.vector).rankKey < (query.cosine a.vector).rankKey →
      farness query.unit (g.nodes.getD []) near < farness query.unit (g.nodes.getD []) far

theorem aligned_iff (g : Graph) (query : Embedding) :
    g.Aligned query ↔ ∀ near < g.slots.length, ∀ far < g.slots.length, ∀ a ∈ g.entryAt near,
      ∀ b ∈ g.entryAt far, (query.cosine b.vector).rankKey < (query.cosine a.vector).rankKey →
        farness query.unit (g.nodes.getD []) near < farness query.unit (g.nodes.getD []) far := by
  constructor
  · exact fun aligned near _ far _ a atNear b atFar => aligned near far a b atNear atFar
  · intro aligned near far a b atNear atFar
    exact aligned near (lt_of_entryAt atNear) far (lt_of_entryAt atFar) a atNear b atFar

instance (g : Graph) (query : Embedding) : Decidable (g.Aligned query) :=
  decidable_of_iff _ (aligned_iff g query).symm

variable {g : Graph} {inserted : Entries} {query : Embedding} {count : Nat} {best : List Hit}
  {slots : List Nat}

theorem Sound.overlooks_iff (sound : g.Sound inserted) (fetched : g.Fetched query count slots)
    (kept : Best ((g.entriesAt slots).hits query) best count) :
    g.Overlooks query best ↔
      ∃ hit ∈ best, ∃ entry ∈ g.entriesAt (g.missed slots),
        hit.score.rankKey < (query.cosine entry.vector).rankKey := by
  have parted := entries_parted sound.toWired fetched
  have unique := (sound.entries_sound.perm parted.symm).ids_nodup
  rw [Entries.ids, List.map_append, List.nodup_append] at unique
  obtain ⟨dropped, whole, bound⟩ := kept.parted
  constructor
  · rintro ⟨entry, member, absent, hit, present, higher⟩
    refine ⟨hit, present, ?_⟩
    rcases List.mem_append.mp (parted.mem_iff.mpr member) with near | far
    · have listed : (⟨entry.id, query.cosine entry.vector⟩ : Hit) ∈ best ++ dropped :=
        whole.mem_iff.mpr (List.mem_map_of_mem near)
      rcases List.mem_append.mp listed with inside | outside
      · exact absurd (List.mem_map_of_mem inside) absent
      · exact absurd (bound hit present _ outside) (Nat.not_le.mpr higher)
    · exact ⟨entry, far, higher⟩
  · rintro ⟨hit, present, entry, far, higher⟩
    refine ⟨entry, parted.subset (List.mem_append_right _ far), ?_, hit, present, higher⟩
    intro listed
    obtain ⟨twin, member, same⟩ := List.mem_map.mp listed
    obtain ⟨close, near, rfl⟩ := List.mem_map.mp (kept.subperm.subset member)
    exact unique.2.2 _ (List.mem_map_of_mem near) _ (List.mem_map_of_mem far) same

theorem Sound.scores_eq_iff (sound : g.Sound inserted) (fetched : g.Fetched query count slots)
    (kept : Best ((g.entriesAt slots).hits query) best count)
    {order : Entries} (same : g.entries.Perm order) {exact : List Hit}
    (full : Best (order.hits query) exact count) :
    best.map (·.score) = exact.map (·.score) ↔ ¬ g.Overlooks query best := by
  have whole : ((g.entriesAt slots).hits query ++
      (g.entriesAt (g.missed slots)).hits query).Perm (order.hits query) := by
    rw [Entries.hits, Entries.hits, ← List.map_append]
    exact ((entries_parted sound.toWired fetched).trans same).map _
  rw [sound.overlooks_iff fetched kept]
  constructor
  · rintro equal ⟨hit, present, entry, far, higher⟩
    have bound := kept.bounds_missing full whole equal hit present _ (List.mem_map_of_mem far)
    exact Nat.not_le.mpr higher bound
  · intro none_better
    have enough := length_entriesAt sound.toWired fetched
    have top : Best (order.hits query) best count := by
      apply kept.widen whole
      · rw [Entries.length_hits, Entries.length_hits, ← same.length_eq]
        exact enough
      · intro hit present other lost
        obtain ⟨entry, far, rfl⟩ := List.mem_map.mp lost
        by_contra higher
        exact none_better ⟨hit, present, entry, far, Nat.lt_of_not_le higher⟩
    exact top.scores_eq full (List.Perm.refl _)

theorem Sound.not_overlooks_of_aligned (sound : g.Sound inserted)
    (fetched : g.Fetched query count slots)
    (kept : Best ((g.entriesAt slots).hits query) best count)
    (aligned : g.Aligned query) : ¬ g.Overlooks query best := by
  rw [sound.overlooks_iff fetched kept]
  rintro ⟨hit, present, entry, late, higher⟩
  obtain ⟨scored, early, rfl⟩ := List.mem_map.mp (kept.subperm.subset present)
  obtain ⟨near, first, held⟩ := (mem_entriesAt_iff _ _ _).mp early
  obtain ⟨far, absent, live⟩ := (mem_entriesAt_missed_iff _ _ _).mp late
  have inside := sound.length_nodes ▸ lt_of_entryAt live
  have nearer := fetched.closest near first far inside absent
  have farther := aligned far near entry scored live held higher
  omega

theorem Sound.not_overlooks_of_all (sound : g.Sound inserted) (fetched : g.Fetched query count slots)
    (kept : Best ((g.entriesAt slots).hits query) best count)
    (all : g.size ≤ count) : ¬ g.Overlooks query best := by
  rw [sound.overlooks_iff fetched kept]
  rintro ⟨_, _, entry, far, _⟩
  have enough := length_entriesAt sound.toWired fetched
  have entries := (entries_parted sound.toWired fetched).length_eq
  have some_missed := List.length_pos_of_mem far
  rw [List.length_append] at entries
  rw [sound.size_eq] at all
  omega

section

variable [Runtime] {tuning : Tuning} {given : Entries}

theorem Sound.exists_finds (sound : g.Sound inserted) (nearest : Runtime.library.Nearest)
    (live : 0 < g.size) (finite : query.isFinite = true) (fits : g.width = some query.length)
    (word : count + g.tombstones < wordLimit) : ∃ slots, g.Finds query count slots := by
  have filled : g.entries ≠ [] := by
    rw [← List.length_pos_iff, ← sound.size_eq]
    exact live
  have passes : widthFault query g.entries.width = none := by
    simp [← sound.width_eq, fits, widthFault]
  obtain ⟨nodes, built, _, widths⟩ := sound.node_fits filled passes
  obtain ⟨slots, found, closest⟩ := nearest g.tuning nodes query.unit
    (min (count + g.tombstones) g.slots.length) (Embedding.isFinite_unit finite) widths
  refine ⟨slots, word, ?_, ?_⟩
  · rwa [built, Option.getD_some]
  · rwa [Fetched, built, Option.getD_some]

/-- What a search overlooks is cut off by its distance. The scores are those of a scan if and only if
nothing is overlooked, and nothing is where the distances tell the higher scores or everything is
asked for. -/
theorem Reached.search_beside_scan (reached : Reached tuning g given)
    (nearest : Runtime.library.Nearest) (live : 0 < g.size) (query : Embedding)
    (finite : query.isFinite = true) (fits : g.width = some query.length) (count : Nat)
    (asked : 0 < count) (word : count + g.tombstones < wordLimit) :
    ∃ slots hits, g.Finds query count slots ∧ g.search query count = .ok hits ∧
      (∀ order, g.entries.Perm order →
        ∃ exact, (Scan.mk order).search query count = .ok exact ∧
          (hits.map (·.score) = exact.map (·.score) ↔ ¬ g.Overlooks query hits)) ∧
      (g.Overlooks query hits ↔
        ∃ hit ∈ hits, ∃ slot entry, g.entryAt slot = some entry ∧ slot ∉ slots ∧
          hit.score.rankKey < (query.cosine entry.vector).rankKey) ∧
      (g.Aligned query ∨ g.size ≤ count → ¬ g.Overlooks query hits) := by
  obtain ⟨_, inserted, sound, _⟩ := reached.sound
  obtain ⟨slots, finds⟩ := sound.exists_finds nearest live finite fits word
  have fetched := finds.fetched
  have kept := rank_best ((g.entriesAt slots).hits query) count
  refine ⟨slots, _, finds, sound.search_eq live asked fits finds, ?_, ?_, ?_⟩
  · intro order same
    have together := sound.entries_sound
    have passes : widthFault query (Scan.mk order).width = none := by
      rw [Scan.width, ← together.width_perm same, ← sound.width_eq, fits]
      simp [widthFault]
    have filled := sound.query_filled live fits
    exact ⟨_, Scan.search_of_fitting (together.perm same) filled asked passes,
      sound.scores_eq_iff fetched kept same (rank_best _ count)⟩
  · rw [sound.overlooks_iff fetched kept]
    simp only [mem_entriesAt_missed_iff]
    constructor
    · rintro ⟨hit, present, entry, ⟨slot, absent, held⟩, higher⟩
      exact ⟨hit, present, slot, entry, held, absent, higher⟩
    · rintro ⟨hit, present, slot, entry, held, absent, higher⟩
      exact ⟨hit, present, entry, ⟨slot, absent, held⟩, higher⟩
  · rintro (aligned | all)
    · exact sound.not_overlooks_of_aligned fetched kept aligned
    · exact sound.not_overlooks_of_all fetched kept all

end

def faint : Graph :=
  let first := ((empty .standard).apply (.add "a" [⟨0x40e00000⟩, ⟨0x41c00000⟩])).2
  (first.apply (.add "b" [⟨0⟩, ⟨0x0d800000⟩])).2

theorem faint_reached :
    Reached .standard faint
      [⟨"a", [⟨0x40e00000⟩, ⟨0x41c00000⟩]⟩, ⟨"b", [⟨0⟩, ⟨0x0d800000⟩]⟩] :=
  (Reached.fresh.changed (.add "a" [⟨0x40e00000⟩, ⟨0x41c00000⟩]) (by decide +kernel)).changed
    (.add "b" [⟨0⟩, ⟨0x0d800000⟩]) (by decide +kernel)

/-- Along the second axis the distances tell which of the two scores higher, and the one hit that is
asked for is the right one. -/
theorem search_beside_scan_faint :
    1 < faint.size ∧ faint.Aligned [⟨0⟩, ⟨0x3f800000⟩] ∧
      ∃ hits, faint.search [⟨0⟩, ⟨0x3f800000⟩] 1 = .ok hits ∧
        (∀ order, faint.entries.Perm order →
          ∃ exact, (Scan.mk order).search [⟨0⟩, ⟨0x3f800000⟩] 1 = .ok exact ∧
            hits.map (·.score) = exact.map (·.score)) ∧
        ¬ faint.Overlooks [⟨0⟩, ⟨0x3f800000⟩] hits := by
  have aligned : faint.Aligned [⟨0⟩, ⟨0x3f800000⟩] := by decide +kernel
  obtain ⟨_, hits, _, answered, scores, _, nothing⟩ := Reached.search_beside_scan faint_reached
    GraphLibrary.exhaustive_nearest (by decide +kernel) [⟨0⟩, ⟨0x3f800000⟩] (by decide)
    (by decide +kernel) 1 (by decide) (by decide +kernel)
  refine ⟨by decide +kernel, aligned, hits, answered, ?_, nothing (Or.inl aligned)⟩
  intro order same
  obtain ⟨exact, scanned, scores_iff⟩ := scores order same
  exact ⟨exact, scanned, scores_iff.mpr (nothing (Or.inl aligned))⟩

/-- The vector without length is at distance one from the query and scores zero, and it displaces the
other one, which is farther and scores higher. -/
theorem search_overlooks_of_faint :
    ¬ ∀ (tuning : Tuning) (g : Graph) (given : Entries), Reached tuning g given → 0 < g.size →
      ∀ query : Embedding, g.width = some query.length → query.isFinite = true →
        ∀ count, 0 < count → ∀ hits, g.search query count = .ok hits →
          ¬ g.Overlooks query hits := by
  intro overlooks_nothing
  have answered : faint.search [⟨0x3f800000⟩, ⟨0⟩] 1 = .ok [⟨"b", ⟨0⟩⟩] := by decide +kernel
  apply overlooks_nothing _ faint _ faint_reached (by decide +kernel) [⟨0x3f800000⟩, ⟨0⟩]
    (by decide +kernel) (by decide +kernel) 1 (by decide) _ answered
  exact ⟨⟨"a", [⟨0x40e00000⟩, ⟨0x41c00000⟩]⟩, by decide +kernel, by decide, ⟨"b", ⟨0⟩⟩, by decide,
    by decide +kernel⟩

end EmbeddingIndex.Graph
