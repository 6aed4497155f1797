import EmbeddingIndex.Proofs.Ranking
/-!
The linear scan as a search. Its table lists the entries in any order, and the first of them tells
the width that a query must have; neither shows in what is found.
-/

namespace EmbeddingIndex.Scan

def apply (s : Scan) : Change → Attempt Fault Scan
  | .add id vector => s.add id vector
  | .remove id => .done (s.remove id)
  | .clear => .done empty

/-- The scans that changes lead to, also those that fail. A table may list its entries anew at any
time. -/
inductive Reached : Scan → Prop
  | fresh : Reached empty
  | changed {s : Scan} (reached : Reached s) (change : Change) : Reached (s.apply change).2
  | relisted {s : Scan} (reached : Reached s) (order : Entries) (same : s.entries.Perm order) :
      Reached ⟨order⟩

theorem apply_sound (s : Scan) (sound : s.entries.Sound) (change : Change) :
    (s.apply change).2.entries.Sound := by
  cases change with
  | add id vector =>
    rw [apply, add, width]
    cases accepted : rejection id vector s.entries.width with
    | some fault => exact sound
    | none => exact sound.put id vector accepted
  | remove id => exact sound.erase id
  | clear => exact Entries.sound_nil

variable {s : Scan} {query : Embedding} {count : Nat}

theorem Reached.sound (reached : Reached s) : s.entries.Sound := by
  induction reached with
  | fresh => exact Entries.sound_nil
  | changed _ change ih => exact apply_sound _ ih change
  | relisted _ order same ih => exact ih.perm same

structure Mismatched (s : Scan) (query : Embedding) (count width : Nat) : Prop where
  query_filled : query ≠ []
  some_asked : 0 < count
  some_held : s.entries ≠ []
  common : ∀ entry ∈ s.entries, entry.vector.length = width
  other : query.length ≠ width

/-- As many hits as there can be, and no entry that is left out scores above one of them. -/
structure Found (s : Scan) (query : Embedding) (count : Nat) (hits : List Hit) : Prop
    extends s.entries.Scored query hits where
  length_eq : hits.length = if query = [] then 0 else min count s.size
  none_better : ∀ entry ∈ s.entries, entry.id ∉ hits.map (·.id) →
    ∀ hit ∈ hits, (query.cosine entry.vector).rankKey ≤ hit.score.rankKey

theorem Mismatched.widthFault_eq {width : Nat} (mismatched : s.Mismatched query count width) :
    widthFault query s.width = some (.dimensionMismatch width query.length) := by
  obtain ⟨entry, rest, held⟩ := List.exists_cons_of_ne_nil mismatched.some_held
  have first : entry.vector.length = width := mismatched.common entry (by simp [held])
  simp [Scan.width, Entries.width, held, widthFault, first, mismatched.other.symm]

theorem search_of_mismatched {width : Nat} (mismatched : s.Mismatched query count width) :
    s.search query count = .error (.dimensionMismatch width query.length) := by
  have asked := mismatched.some_asked
  have live : ¬ (query.isEmpty || decide (count = 0)) = true := by
    simp [mismatched.query_filled]
    omega
  rw [search, if_neg live, mismatched.widthFault_eq]

theorem search_of_blank (blank : query = [] ∨ count = 0) : s.search query count = .ok [] := by
  rw [search, if_pos]
  simpa using blank

theorem search_of_fitting (sound : s.entries.Sound) (filled : query ≠ []) (asked : 0 < count)
    (fits : widthFault query s.width = none) :
    s.search query count = .ok (rank (s.entries.hits query) count) := by
  have live : ¬ (query.isEmpty || decide (count = 0)) = true := by
    simp [filled]
    omega
  rw [search, if_neg live, fits]
  simp only [mapM_score (sound.fits fits)]
  rfl

theorem fits_or_mismatched (sound : s.entries.Sound) (filled : query ≠ []) (asked : 0 < count) :
    widthFault query s.width = none ∨ ∃ width, s.Mismatched query count width := by
  cases held : s.entries with
  | nil => simp [Scan.width, Entries.width, held, widthFault]
  | cons first rest =>
    have member : first ∈ s.entries := by simp [held]
    have established : s.width = some first.vector.length := sound.width_eq first member
    by_cases fits : first.vector.length = query.length
    · simp [established, widthFault, fits]
    · right
      refine ⟨first.vector.length, filled, asked, List.ne_nil_of_mem member, ?_, Ne.symm fits⟩
      intro entry present
      exact sound.even entry present first member

theorem found_of_blank (blank : query = [] ∨ count = 0) : s.Found query count [] where
  ids_nodup := List.nodup_nil
  current := by simp
  sorted := List.Pairwise.nil
  length_eq := by
    rcases blank with rfl | rfl <;> simp
  none_better := by simp

theorem found_of_best (sound : s.entries.Sound) (filled : query ≠ [])
    (fits : widthFault query s.width = none) {best : List Hit}
    (kept : Best (s.entries.hits query) best count) : s.Found query count best where
  toScored := sound.scored fits sound.ids_nodup (List.Subset.refl _) kept
  length_eq := by
    rw [if_neg filled, kept.length_eq, Entries.length_hits]
    rfl
  none_better := by
    intro entry member absent hit present
    obtain ⟨dropped, whole, bound⟩ := kept.parted
    have listed : (⟨entry.id, query.cosine entry.vector⟩ : Hit) ∈ best ++ dropped :=
      whole.mem_iff.mpr (List.mem_map_of_mem member)
    rcases List.mem_append.mp listed with inside | outside
    · exact absurd (List.mem_map_of_mem inside) absent
    · exact bound hit present _ outside

theorem search_relisted (sound : s.entries.Sound) (order : Entries) (same : s.entries.Perm order)
    (query : Embedding) (count : Nat) :
    ((Scan.mk order).search query count).map (List.map (·.score)) =
      (s.search query count).map (List.map (·.score)) := by
  by_cases blank : query = [] ∨ count = 0
  · rw [search_of_blank blank, search_of_blank blank]
  · obtain ⟨filled, asked⟩ := not_or.mp blank
    have some_asked : 0 < count := Nat.pos_of_ne_zero asked
    rcases fits_or_mismatched sound filled some_asked with fits | ⟨width, mismatched⟩
    · have width_kept : s.width = (Scan.mk order).width := sound.width_perm same
      rw [search_of_fitting sound filled some_asked fits,
        search_of_fitting (sound.perm same) filled some_asked (width_kept ▸ fits)]
      have scores := (rank_best ((Scan.mk order).entries.hits query) count).scores_eq
        (rank_best (s.entries.hits query) count) ((same.symm.map _).map _)
      exact congrArg Except.ok scores
    · have some_listed : order ≠ [] := by
        rintro rfl
        exact mismatched.some_held same.eq_nil
      have still : (Scan.mk order).Mismatched query count width :=
        ⟨filled, some_asked, some_listed,
          fun entry member => mismatched.common entry (same.mem_iff.mpr member), mismatched.other⟩
      rw [search_of_mismatched mismatched, search_of_mismatched still]

/-- A search fails exactly for a query of another width than all entries, and finds the best entries
otherwise. Where the table lists its entries in another order, the fault is the same one, and so are
the scores. -/
theorem Reached.search_found (reached : Reached s) (query : Embedding) (count : Nat) :
    (∀ fault, s.search query count = .error fault ↔
        ∃ width, s.Mismatched query count width ∧
          fault = .dimensionMismatch width query.length) ∧
      ((∀ width, ¬ s.Mismatched query count width) →
        ∃ hits, s.search query count = .ok hits ∧ s.Found query count hits) ∧
      (widthFault query s.width = none →
        ∀ entry ∈ s.entries, ∃ hit, entry.score query = .ok hit) ∧
      ∀ order, s.entries.Perm order →
        ((Scan.mk order).search query count).map (List.map (·.score)) =
          (s.search query count).map (List.map (·.score)) := by
  have sound := reached.sound
  have answered (fine : ∀ width, ¬ s.Mismatched query count width) :
      ∃ hits, s.search query count = .ok hits ∧ s.Found query count hits := by
    by_cases blank : query = [] ∨ count = 0
    · exact ⟨[], search_of_blank blank, found_of_blank blank⟩
    · obtain ⟨filled, asked⟩ := not_or.mp blank
      have some_asked : 0 < count := Nat.pos_of_ne_zero asked
      have fits := (fits_or_mismatched sound filled some_asked).resolve_right fun ⟨width, other⟩ =>
        fine width other
      exact ⟨_, search_of_fitting sound filled some_asked fits,
        found_of_best sound filled fits (rank_best _ count)⟩
  refine ⟨?_, answered, ?_, ?_⟩
  · intro fault
    constructor
    · intro failed
      by_cases fine : ∃ width, s.Mismatched query count width
      · obtain ⟨width, mismatched⟩ := fine
        rw [search_of_mismatched mismatched] at failed
        exact ⟨width, mismatched, (Except.error.inj failed).symm⟩
      · obtain ⟨hits, found, _⟩ := answered (not_exists.mp fine)
        rw [found] at failed
        cases failed
    · rintro ⟨width, mismatched, rfl⟩
      exact search_of_mismatched mismatched
  · intro fits entry member
    rw [Entry.score, Embedding.similarity, if_pos (sound.fits fits entry member)]
    exact ⟨_, rfl⟩
  · intro order same
    exact search_relisted sound order same query count

def tied : Scan :=
  let first := ((empty.apply (.add "z" [⟨0x3f800000⟩, ⟨0⟩])).2.apply (.remove "z")).2
  ((first.apply (.add "a" [⟨0x3f800000⟩])).2.apply (.add "b" [⟨0x40000000⟩])).2

theorem tied_reached : Reached tied := by
  have start := (Reached.fresh.changed (.add "z" [⟨0x3f800000⟩, ⟨0⟩])).changed (.remove "z")
  exact (start.changed (.add "a" [⟨0x3f800000⟩])).changed (.add "b" [⟨0x40000000⟩])

theorem search_found_tied :
    (∃ hits, tied.search [⟨0x40400000⟩] 1 = .ok hits ∧ tied.Found [⟨0x40400000⟩] 1 hits) ∧
      tied.search [⟨0x7fc00000⟩, ⟨0⟩] 1 = .error (.dimensionMismatch 1 2) ∧
      ∀ order, tied.entries.Perm order →
        ((Scan.mk order).search [⟨0x40400000⟩] 1).map (List.map (·.score)) =
          (tied.search [⟨0x40400000⟩] 1).map (List.map (·.score)) := by
  obtain ⟨failed, _⟩ := Reached.search_found tied_reached [⟨0x7fc00000⟩, ⟨0⟩] 1
  obtain ⟨_, answered, _, relisted⟩ := Reached.search_found tied_reached [⟨0x40400000⟩] 1
  refine ⟨answered ?_, (failed _).mpr ⟨1, ?_, rfl⟩, relisted⟩
  · intro width mismatched
    exact mismatched.other (mismatched.common ⟨"a", [⟨0x3f800000⟩]⟩ (by decide +kernel))
  · exact ⟨by decide, by decide, by decide +kernel, by decide +kernel, by decide⟩

end EmbeddingIndex.Scan
