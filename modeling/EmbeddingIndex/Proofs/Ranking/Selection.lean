import EmbeddingIndex.Proofs.Number.TotalOrder
import EmbeddingIndex.Proofs.Ranking
/-!
Ranking as a selection. Sorting may leave hits of equal scores in any order, and the cut may part
them; what is selected is told by the hits all the same, up to those of the last score, and parts
of the hits may be ranked first.
-/

namespace EmbeddingIndex

/-- What may come of sorting by descending scores and keeping the first hits. Hits of equal scores
may be left in any order. -/
inductive Ranking (hits : List Hit) (count : Nat) : List Hit → Prop
  | cut (sorted : List Hit) (whole : sorted.Perm hits)
      (descending : sorted.Pairwise fun a b => b.score.AtMost a.score) :
      Ranking hits count (sorted.take count)

def aboveLast (hits : List Hit) : List Hit :=
  match (hits.map (·.score)).getLast? with
  | none => []
  | some last => hits.filter fun hit => ¬ hit.score.AtMost last

variable {hits others best top joined : List Hit} {count : Nat}

theorem ranking_rank (hits : List Hit) (count : Nat) : Ranking hits count (rank hits count) :=
  .cut _ (sortBy_perm _ hits) ((sortBy_descending hits).imp Binary32.atMost_iff.mpr)

theorem Ranking.toBest (ranking : Ranking hits count best) : Best hits best count := by
  cases ranking with
  | cut sorted whole descending => exact best_take whole (descending.imp Binary32.atMost_iff.mp) count

namespace Best

/-- The hits above the last one that is kept are all kept, so the cut parts equal scores alone. -/
theorem aboveLast_perm (kept : Best hits best count) (other : Best others top count)
    (same : hits.Perm others) : (aboveLast best).Perm (aboveLast top) := by
  have scores := kept.scores_eq other (same.map _)
  rw [aboveLast, aboveLast, ← scores]
  cases ends : (best.map (·.score)).getLast? with
  | none => exact List.Perm.refl _
  | some last =>
    have listed : last ∈ best.map (·.score) := List.mem_of_getLast? ends
    obtain ⟨hit, member, equal⟩ := List.mem_map.mp listed
    obtain ⟨twin, present, agrees⟩ := List.mem_map.mp (scores ▸ listed)
    have first := kept.filter_above member
    have second := other.filter_above present
    rw [equal] at first
    rw [agrees] at second
    simp only [Binary32.atMost_iff, Nat.not_le]
    exact first.trans ((same.filter _).trans second.symm)

theorem untrim (kept : Best hits best count) (joined : Best (best ++ others) top count) :
    Best (hits ++ others) top count := by
  obtain ⟨dropped, parts, lower⟩ := kept.parted
  have whole : (best ++ others ++ dropped).Perm (hits ++ others) := by
    calc
      (best ++ others ++ dropped).Perm (best ++ (others ++ dropped)) :=
        List.Perm.of_eq (List.append_assoc _ _ _)
      List.Perm _ (best ++ (dropped ++ others)) := List.perm_append_comm.append_left best
      List.Perm _ (best ++ dropped ++ others) := List.Perm.of_eq (List.append_assoc _ _ _).symm
      List.Perm _ (hits ++ others) := parts.append_right others
  have lengths := kept.length_eq
  have total := parts.length_eq
  rw [List.length_append] at total
  apply joined.widen whole
  · simp only [List.length_append]
    omega
  · intro hit member other lost
    by_contra higher
    -- The best hits are as many as are asked for, and all of them are above this one, which is kept.
    have some_dropped := List.length_pos_of_mem lost
    have all_above : (best.countP fun h => hit.score.rankKey < h.score.rankKey) = best.length := by
      apply List.countP_eq_length.mpr
      intro h first
      have bound := lower h first other lost
      simp only [decide_eq_true_eq]
      omega
    have one_not : (top.countP fun h => hit.score.rankKey < h.score.rankKey) < top.length :=
      List.countP_lt_length_iff.mpr ⟨hit, member, by simp⟩
    have among := joined.countP_above member
    rw [List.countP_append] at among
    have limit := joined.length_eq
    omega

theorem of_perm (kept : Best hits best count) (same : hits.Perm others) : Best others best count := by
  obtain ⟨dropped, parts, lower⟩ := kept.parted
  exact ⟨same.length_eq ▸ kept.length_eq, kept.sorted, dropped, parts.trans same, lower⟩

theorem join (kept : Best hits best count) (other : Best others top count)
    (final : Best (best ++ top) joined count) : Best (hits ++ others) joined count := by
  have half := (kept.untrim final).of_perm List.perm_append_comm
  exact (other.untrim half).of_perm List.perm_append_comm

end Best

/-- A ranking, however it leaves equal scores, is a selection of the hits that are best by the total
order of all scores. Hits in another order have a ranking of the same scores with the same hits above
the last one, and to rank the rankings of two parts gives the scores of ranking both together. -/
theorem rank_selects (hits : List Hit) (count : Nat) :
    Ranking hits count (rank hits count) ∧
      ∀ best, Ranking hits count best →
        best.length = min count hits.length ∧
        (best.Pairwise fun a b => b.score.AtMost a.score) ∧
        (∃ dropped, (best ++ dropped).Perm hits ∧
          ∀ kept ∈ best, ∀ other ∈ dropped, other.score.AtMost kept.score) ∧
        (∀ order, hits.Perm order → ∀ top, Ranking order count top →
          best.map (·.score) = top.map (·.score) ∧ (aboveLast best).Perm (aboveLast top)) ∧
        ∀ others top, Ranking others count top →
          ∀ joined, Ranking (best ++ top) count joined →
            ∀ full, Ranking (hits ++ others) count full →
              joined.map (·.score) = full.map (·.score) := by
  refine ⟨ranking_rank hits count, ?_⟩
  intro best ranking
  have kept := ranking.toBest
  refine ⟨kept.length_eq, kept.sorted.imp Binary32.atMost_iff.mpr, ?_, ?_, ?_⟩
  · obtain ⟨dropped, parts, lower⟩ := kept.parted
    exact ⟨dropped, parts, fun hit first other last =>
      Binary32.atMost_iff.mpr (lower hit first other last)⟩
  · intro order same top again
    exact ⟨kept.scores_eq again.toBest (same.map _), kept.aboveLast_perm again.toBest same⟩
  · intro others top other joined final full whole
    exact (kept.join other.toBest final.toBest).scores_eq whole.toBest (List.Perm.refl _)

def mixed : List Hit :=
  [⟨"a", ⟨0x3f800000⟩⟩, ⟨"b", ⟨0x80000000⟩⟩, ⟨"c", ⟨0xffc00000⟩⟩, ⟨"d", ⟨0x7f800000⟩⟩,
    ⟨"b", ⟨0⟩⟩, ⟨"e", ⟨0x3f800000⟩⟩, ⟨"f", ⟨0x7fc00001⟩⟩]

theorem rank_selects_mixed :
    mixed.Perm mixed.reverse ∧ rank mixed 3 ≠ rank mixed.reverse 3 ∧
      (rank mixed 3).map (·.score) = (rank mixed.reverse 3).map (·.score) ∧
      (aboveLast (rank mixed 3)).Perm (aboveLast (rank mixed.reverse 3)) ∧
      (rank (rank mixed 3 ++ rank mixed.reverse 3) 3).map (·.score) =
        (rank (mixed ++ mixed.reverse) 3).map (·.score) := by
  have turned : mixed.Perm mixed.reverse := (List.reverse_perm mixed).symm
  obtain ⟨ranked, selected⟩ := rank_selects mixed 3
  obtain ⟨_, _, _, reordered, joined⟩ := selected _ ranked
  obtain ⟨scores, above⟩ := reordered _ turned _ (ranking_rank mixed.reverse 3)
  refine ⟨turned, by decide +kernel, scores, above, ?_⟩
  exact joined _ _ (ranking_rank mixed.reverse 3) _ (ranking_rank _ 3) _ (ranking_rank _ 3)

end EmbeddingIndex
