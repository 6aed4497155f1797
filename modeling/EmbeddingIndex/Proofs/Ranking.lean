import EmbeddingIndex.Proofs.Search
/-!
Which hits a ranking keeps. Their scores depend on nothing but the scores that were ranked, and to
rank fewer hits changes the scores only where a better one is left out.
-/

namespace EmbeddingIndex

/-- As many of the hits as are asked for, best first, and none is worse than one that is dropped. -/
structure Best (hits best : List Hit) (count : Nat) : Prop where
  length_eq : best.length = min count hits.length
  sorted : best.Pairwise fun a b => b.score.rankKey ≤ a.score.rankKey
  parted : ∃ dropped : List Hit, (best ++ dropped).Perm hits ∧
    ∀ kept ∈ best, ∀ other ∈ dropped, other.score.rankKey ≤ kept.score.rankKey

/-- Whatever order sorting leaves equal scores in, the beginning is as good. -/
theorem best_take {hits ordered : List Hit} (whole : ordered.Perm hits)
    (sorted : ordered.Pairwise fun a b => b.score.rankKey ≤ a.score.rankKey) (count : Nat) :
    Best hits (ordered.take count) count := by
  have parts := List.take_append_drop count ordered
  refine ⟨?_, sorted.sublist (List.take_sublist _ _), ordered.drop count, ?_, ?_⟩
  · rw [List.length_take, whole.length_eq]
  · rwa [parts]
  · intro kept first other last
    rw [← parts, List.pairwise_append] at sorted
    exact sorted.2.2 kept first other last

theorem rank_best (hits : List Hit) (count : Nat) : Best hits (rank hits count) count :=
  best_take (sortBy_perm _ hits) (sortBy_descending hits) count

theorem scores_eq_of_sorted {a b : List Hit} (same : (a.map (·.score)).Perm (b.map (·.score)))
    (sortedA : a.Pairwise fun x y => y.score.rankKey ≤ x.score.rankKey)
    (sortedB : b.Pairwise fun x y => y.score.rankKey ≤ x.score.rankKey) :
    a.map (·.score) = b.map (·.score) := by
  have one_place (x y : Binary32) (down : y.rankKey ≤ x.rankKey) (up : x.rankKey ≤ y.rankKey) :
      x = y := Binary32.rankKey_injective (Nat.le_antisymm up down)
  exact List.Perm.eq_of_pairwise (fun x y _ _ => one_place x y) (List.pairwise_map.mpr sortedA)
    (List.pairwise_map.mpr sortedB) same

variable {hits others best top : List Hit} {count : Nat}

namespace Best

theorem subperm (kept : Best hits best count) : best.Subperm hits := by
  obtain ⟨dropped, whole, _⟩ := kept.parted
  exact (List.sublist_append_left best dropped).subperm.trans whole.subperm

theorem extends_sorted (kept : Best hits best count) :
    ∃ rest, (best ++ rest).Perm hits ∧
      (best ++ rest).Pairwise fun a b => b.score.rankKey ≤ a.score.rankKey := by
  obtain ⟨dropped, whole, bound⟩ := kept.parted
  refine ⟨sortBy (·.score.descendingKey) dropped, ?_, ?_⟩
  · exact ((sortBy_perm _ dropped).append_left best).trans whole
  · refine List.pairwise_append.mpr ⟨kept.sorted, sortBy_descending dropped, ?_⟩
    intro first member last later
    exact bound first member last ((sortBy_perm _ dropped).subset later)

theorem scores_eq (kept : Best hits best count) (other : Best others top count)
    (same : (hits.map (·.score)).Perm (others.map (·.score))) :
    best.map (·.score) = top.map (·.score) := by
  obtain ⟨rest, whole, sorted⟩ := kept.extends_sorted
  obtain ⟨remains, all, ordered⟩ := other.extends_sorted
  have joined : (best ++ rest).map (·.score) = (top ++ remains).map (·.score) := by
    refine scores_eq_of_sorted ?_ sorted ordered
    exact (whole.map _).trans (same.trans (all.map _).symm)
  have lengths : best.length = top.length := by
    have counted := same.length_eq
    simp only [List.length_map] at counted
    rw [kept.length_eq, other.length_eq, counted]
  rw [List.map_append, List.map_append] at joined
  exact (List.append_inj joined (by simpa using lengths)).1

theorem widen {missing : List Hit} (kept : Best hits best count)
    (whole : (hits ++ missing).Perm others) (enough : min count others.length ≤ hits.length)
    (bound : ∀ hit ∈ best, ∀ other ∈ missing, other.score.rankKey ≤ hit.score.rankKey) :
    Best others best count := by
  obtain ⟨dropped, parts, lower⟩ := kept.parted
  refine ⟨?_, kept.sorted, dropped ++ missing, ?_, ?_⟩
  · have counted := kept.length_eq
    have total := whole.length_eq
    rw [List.length_append] at total
    omega
  · rw [← List.append_assoc]
    exact (parts.append_right missing).trans whole
  · intro hit member other last
    rcases List.mem_append.mp last with inside | outside
    · exact lower hit member other inside
    · exact bound hit member other outside

theorem filter_above (kept : Best hits best count) {hit : Hit} (member : hit ∈ best) :
    (best.filter fun h => hit.score.rankKey < h.score.rankKey).Perm
      (hits.filter fun h => hit.score.rankKey < h.score.rankKey) := by
  obtain ⟨dropped, parts, lower⟩ := kept.parted
  have none_dropped : (dropped.filter fun h => hit.score.rankKey < h.score.rankKey) = [] := by
    apply List.filter_eq_nil_iff.mpr
    intro h last
    simpa using lower hit member h last
  have whole := parts.filter fun h => hit.score.rankKey < h.score.rankKey
  rwa [List.filter_append, none_dropped, List.append_nil] at whole

theorem countP_above (kept : Best hits best count) {hit : Hit} (member : hit ∈ best) :
    (best.countP fun h => hit.score.rankKey < h.score.rankKey) =
      hits.countP fun h => hit.score.rankKey < h.score.rankKey := by
  rw [List.countP_eq_length_filter, List.countP_eq_length_filter]
  exact (kept.filter_above member).length_eq

theorem bounds_missing {missing : List Hit} (kept : Best hits best count)
    (full : Best others top count) (whole : (hits ++ missing).Perm others)
    (same : best.map (·.score) = top.map (·.score)) :
    ∀ hit ∈ best, ∀ other ∈ missing, other.score.rankKey ≤ hit.score.rankKey := by
  intro hit member other lost
  by_contra higher
  -- Count the hits above this one: all of them are among the best, and the missing one is not.
  let above (h : Hit) : Bool := hit.score.rankKey < h.score.rankKey
  have by_score (list : List Hit) :
      list.countP above = (list.map (·.score)).countP (hit.score.rankKey < ·.rankKey) := by
    rw [List.countP_map]
    rfl
  obtain ⟨twin, listed, equal⟩ : ∃ twin ∈ top, twin.score = hit.score := by
    rw [← List.mem_map, ← same]
    exact List.mem_map_of_mem member
  have all_above : top.countP above = others.countP above := by
    have counted := full.countP_above listed
    rwa [equal] at counted
  have few_above : best.countP above ≤ hits.countP above := kept.subperm.countP_le above
  have one_missing : 0 < missing.countP above :=
    List.countP_pos_iff.mpr ⟨other, lost, by simpa [above] using higher⟩
  have total : hits.countP above + missing.countP above = others.countP above := by
    rw [← List.countP_append, whole.countP_eq]
  have agreed : best.countP above = top.countP above := by rw [by_score, by_score, same]
  omega

end Best

/-- Hits of distinct stored ids, best first, each scored by the vector that its id leads to. -/
structure Entries.Scored (entries : Entries) (query : Embedding) (hits : List Hit) : Prop where
  ids_nodup : (hits.map (·.id)).Nodup
  current : ∀ hit ∈ hits, ∃ vector,
    entries.lookup hit.id = some vector ∧ query.similarity vector = .ok hit.score
  sorted : hits.Pairwise fun a b => b.score.rankKey ≤ a.score.rankKey

theorem Entries.ids_hits (entries : Entries) (query : Embedding) :
    (entries.hits query).map (·.id) = entries.ids := by
  simp [hits, ids]

theorem Entries.Sound.scored {entries part : Entries} (sound : entries.Sound) {query : Embedding}
    (fits : widthFault query entries.width = none) (unique : part.ids.Nodup)
    (inside : part ⊆ entries) (kept : Best (part.hits query) best count) :
    entries.Scored query best := by
  refine ⟨?_, ?_, kept.sorted⟩
  · obtain ⟨dropped, whole, _⟩ := kept.parted
    have listed := whole.map (·.id)
    rw [ids_hits, List.map_append] at listed
    exact (listed.nodup_iff.mpr unique).of_append_left
  · intro hit member
    obtain ⟨entry, present, rfl⟩ := List.mem_map.mp (kept.subperm.subset member)
    have stored := inside present
    refine ⟨entry.vector, (lookup_eq_some_iff _ sound.ids_nodup _ _).mpr stored, ?_⟩
    rw [Embedding.similarity, if_pos (sound.fits fits entry stored)]

end EmbeddingIndex
