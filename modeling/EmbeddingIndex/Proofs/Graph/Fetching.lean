import EmbeddingIndex.Proofs.Ranking
/-!
Searches that fetch the nearest nodes of a graph, whichever of the nodes at equal distances these
are. Tombstones among them are made up for, so that live entries lose their places to nearer live
entries alone.
-/

namespace EmbeddingIndex.Graph

theorem lt_of_entryAt {g : Graph} {slot : Nat} {entry : Entry} (held : g.entryAt slot = some entry) :
    slot < g.slots.length := by
  by_contra beyond
  rw [entryAt, List.getElem?_eq_none (Nat.le_of_not_lt beyond)] at held
  cases held

def missed (g : Graph) (slots : List Nat) : List Nat :=
  (List.range g.slots.length).filter (· ∉ slots)

def entriesAt (g : Graph) (slots : List Nat) : Entries := slots.filterMap g.entryAt

theorem mem_entriesAt_iff (g : Graph) (slots : List Nat) (entry : Entry) :
    entry ∈ g.entriesAt slots ↔ ∃ slot ∈ slots, g.entryAt slot = some entry := List.mem_filterMap

theorem mem_entriesAt_missed_iff (g : Graph) (slots : List Nat) (entry : Entry) :
    entry ∈ g.entriesAt (g.missed slots) ↔ ∃ slot ∉ slots, g.entryAt slot = some entry := by
  rw [mem_entriesAt_iff]
  apply exists_congr
  intro slot
  simp only [missed, List.mem_filter, List.mem_range, decide_eq_true_eq, and_congr_left_iff,
    and_iff_right_iff_imp]
  exact fun held _ => lt_of_entryAt held

variable {g : Graph} {inserted : Entries} {direction : Embedding} {count : Nat} {slots : List Nat}

theorem fetched_append_missed (wired : g.Wired inserted)
    (close : Closest direction (g.nodes.getD []) count slots) :
    (slots ++ g.missed slots).Perm (List.range g.slots.length) := by
  have nodup : (slots ++ g.missed slots).Nodup := by
    apply close.nodup.append (List.nodup_range.filter _)
    intro slot member left
    have outside := (List.mem_filter.mp left).2
    exact of_decide_eq_true outside member
  apply (List.perm_ext_iff_of_nodup nodup List.nodup_range).mpr
  intro slot
  have bound := close.inside slot
  rw [wired.length_nodes] at bound
  simp only [missed, List.mem_append, List.mem_filter, List.mem_range, decide_eq_true_eq]
  tauto

theorem entries_parted (wired : g.Wired inserted)
    (close : Closest direction (g.nodes.getD []) count slots) :
    (g.entriesAt slots ++ g.entriesAt (g.missed slots)).Perm g.entries := by
  rw [entriesAt, entriesAt, ← List.filterMap_append, ← filterMap_range_entryAt g]
  exact (fetched_append_missed wired close).filterMap g.entryAt

theorem length_entriesAt (wired : g.Wired inserted)
    (close : Closest direction (g.nodes.getD [])
      (min (count + g.tombstones) g.slots.length) slots) :
    min count g.entries.length ≤ (g.entriesAt slots).length := by
  have asked := close.length_eq
  have parted := (fetched_append_missed wired close).length_eq
  have entries := (entries_parted wired close).length_eq
  have total := wired.slots_length
  have live : (g.entriesAt (g.missed slots)).length ≤ (g.missed slots).length :=
    List.length_filterMap_le _ _
  rw [wired.length_nodes] at asked
  simp only [List.length_append, List.length_range] at parted entries
  omega

variable {query : Embedding}

theorem Sound.fetched_sound (sound : g.Sound inserted)
    (close : Closest direction (g.nodes.getD []) count slots) : (g.entriesAt slots).Sound := by
  have parted := entries_parted sound.toWired close
  apply (sound.entries_sound.perm parted.symm).subperm
  · have unique := (sound.entries_sound.perm parted.symm).ids_nodup
    rw [Entries.ids, List.map_append] at unique
    exact unique.of_append_left
  · exact List.subset_append_left _ _

theorem Sound.query_filled (sound : g.Sound inserted) (live : 0 < g.size)
    (fits : g.width = some query.length) : query ≠ [] := by
  obtain ⟨entry, member⟩ := List.exists_mem_of_length_pos (sound.size_eq ▸ live)
  have filled := (sound.entries_sound.storable entry member).1
  rw [sound.width_eq, sound.entries_sound.width_eq entry member, Option.some.injEq] at fits
  simpa [← List.length_eq_zero_iff, ← fits] using filled

abbrev Fetched (g : Graph) (query : Embedding) (count : Nat) (slots : List Nat) : Prop :=
  Closest query.unit (g.nodes.getD []) (min (count + g.tombstones) g.slots.length) slots

/-- As many hits as there can be, with the scores of what is stored now, and an entry that was not
scored is outdone: so many scored ones as were asked for are no farther than it. -/
structure Sifted (g : Graph) (query : Embedding) (count : Nat) (slots : List Nat)
    (hits : List Hit) : Prop extends g.entries.Scored query hits where
  length_eq : hits.length = min count g.size
  outdone : ∀ slot, (g.entryAt slot).isSome = true → slot ∉ slots →
    count ≤ slots.countP fun other => (g.entryAt other).isSome &&
      farness query.unit (g.nodes.getD []) other ≤ farness query.unit (g.nodes.getD []) slot

theorem Sound.outdone (sound : g.Sound inserted) (fetched : g.Fetched query count slots) (slot : Nat)
    (live : (g.entryAt slot).isSome = true) (absent : slot ∉ slots) :
    count ≤ slots.countP fun other => (g.entryAt other).isSome &&
      farness query.unit (g.nodes.getD []) other ≤ farness query.unit (g.nodes.getD []) slot := by
  obtain ⟨entry, held⟩ := Option.isSome_iff_exists.mp live
  have inside : slot < g.slots.length := lt_of_entryAt held
  have same_count : (g.entriesAt slots).length =
      slots.countP fun other => (g.entryAt other).isSome &&
        farness query.unit (g.nodes.getD []) other ≤
          farness query.unit (g.nodes.getD []) slot := by
    rw [entriesAt, List.length_filterMap_eq_countP]
    apply List.countP_congr
    intro other member
    have nearer := fetched.closest other member slot (sound.length_nodes ▸ inside) absent
    simp [nearer]
  -- A slot is left out, so the search got all that it asked for, tombstones and `count` more.
  have parted := (fetched_append_missed sound.toWired fetched).length_eq
  have entries := (entries_parted sound.toWired fetched).length_eq
  have left : 0 < (g.missed slots).length := by
    apply List.length_pos_of_mem (a := slot)
    simp [missed, inside, absent]
  have few : (g.entriesAt (g.missed slots)).length ≤ (g.missed slots).length :=
    List.length_filterMap_le _ _
  have total := sound.slots_length
  have asked := fetched.length_eq
  rw [sound.length_nodes] at asked
  rw [← same_count]
  simp only [List.length_append, List.length_range] at parted entries
  omega

theorem Sound.sifted (sound : g.Sound inserted) (fits : g.width = some query.length)
    (fetched : g.Fetched query count slots) {best : List Hit}
    (kept : Best ((g.entriesAt slots).hits query) best count) :
    g.Sifted query count slots best where
  toScored := by
    have passes : widthFault query g.entries.width = none := by
      simp [← sound.width_eq, fits, widthFault]
    have parted := entries_parted sound.toWired fetched
    exact sound.entries_sound.scored passes (sound.fetched_sound fetched).ids_nodup
      (fun entry member => parted.subset (List.mem_append_left _ member)) kept
  length_eq := by
    have enough := length_entriesAt sound.toWired fetched
    have entries := (entries_parted sound.toWired fetched).length_eq
    rw [List.length_append] at entries
    rw [kept.length_eq, Entries.length_hits, sound.size_eq]
    omega
  outdone := sound.outdone fetched

section

variable [Runtime]

/-- A search gets slots from the library, none of the others being nearer. -/
structure Finds (g : Graph) (query : Embedding) (count : Nat) (slots : List Nat) : Prop where
  word : count + g.tombstones < wordLimit
  found : Runtime.library.find g.tuning (g.nodes.getD []) query.unit
    (min (count + g.tombstones) g.slots.length) = some slots
  fetched : g.Fetched query count slots

theorem Sound.search_eq (sound : g.Sound inserted) (live : 0 < g.size) (asked : 0 < count)
    (fits : g.width = some query.length) (finds : g.Finds query count slots) :
    g.search query count = .ok (rank ((g.entriesAt slots).hits query) count) := by
  have query_filled : query.isEmpty = false := by simpa using sound.query_filled live fits
  have some_live : g.places.isEmpty = false := by
    simpa [size, List.length_pos_iff] using live
  have passes : widthFault query g.width = none := by simp [fits, widthFault]
  have filled : g.entries ≠ [] := by
    rw [← List.length_pos_iff, ← sound.size_eq]
    exact live
  obtain ⟨nodes, built, _⟩ := sound.node_fits filled (sound.width_eq ▸ passes)
  have fetched : g.fetch nodes query count = .ok slots := by
    have found := finds.found
    rw [built, Option.getD_some] at found
    simp only [fetch, word_of_lt finds.word, found]
  have scored : (slots.filterMap g.entryAt).mapM (Entry.score query) =
      .ok ((g.entriesAt slots).hits query) := by
    apply mapM_score
    intro entry member
    have stored := (entries_parted sound.toWired finds.fetched).subset
      (List.mem_append_left _ member)
    exact sound.entries_sound.fits (sound.width_eq ▸ passes) entry stored
  have some_asked : decide (count = 0) = false := by
    simp
    omega
  rw [search, query_filled, some_asked, some_live]
  simp only [Bool.or_false, Bool.false_eq_true, if_false, passes, built, fetched, scored]

variable {tuning : Tuning} {given : Entries}

/-- Tombstones do not crowd out what is live, whichever of the nearest slots the library finds. -/
theorem Reached.search_sifted (reached : Reached tuning g given) (live : 0 < g.size)
    (query : Embedding) (fits : g.width = some query.length) (count : Nat) (asked : 0 < count)
    (slots : List Nat) (finds : g.Finds query count slots) :
    ∃ hits, g.search query count = .ok hits ∧ g.Sifted query count slots hits := by
  obtain ⟨_, inserted, sound, _⟩ := reached.sound
  exact ⟨_, sound.search_eq live asked fits finds, sound.sifted fits finds.fetched (rank_best _ _)⟩

end

theorem finds_nearest (g : Graph) {query : Embedding} (finite : query.unit.isFinite = true)
    {count : Nat} (word : count + g.tombstones < wordLimit) :
    g.Finds query count
      (nearest query.unit (g.nodes.getD []) (min (count + g.tombstones) g.slots.length)) :=
  ⟨word, GraphLibrary.exhaustive_find _ _ finite _, nearest_closest _ _ _⟩

def turned : Graph :=
  let first := ((empty .standard).apply (.add "a" [⟨0x3f800000⟩])).2
  ((first.apply (.add "b" [⟨0x40000000⟩])).2.apply (.add "a" [⟨0xbf800000⟩])).2

theorem turned_reached :
    Reached .standard turned
      [⟨"a", [⟨0x3f800000⟩]⟩, ⟨"b", [⟨0x40000000⟩]⟩, ⟨"a", [⟨0xbf800000⟩]⟩] :=
  ((Reached.fresh.changed (.add "a" [⟨0x3f800000⟩]) (by decide +kernel)).changed
    (.add "b" [⟨0x40000000⟩]) (by decide +kernel)).changed (.add "a" [⟨0xbf800000⟩])
      (by decide +kernel)

/-- The tombstone is as near as any node, and the search still has its hit. -/
theorem search_sifted_turned :
    turned.tombstones = 1 ∧ turned.Finds [⟨0x3f800000⟩] 1 [0, 1] ∧
      ∃ hits, turned.search [⟨0x3f800000⟩] 1 = .ok hits ∧
        turned.Sifted [⟨0x3f800000⟩] 1 [0, 1] hits := by
  have finite : Embedding.isFinite (Embedding.unit [⟨0x3f800000⟩]) = true := by decide +kernel
  have word : 1 + turned.tombstones < wordLimit := by decide +kernel
  have finds := turned.finds_nearest finite word
  rw [show nearest _ (turned.nodes.getD []) _ = [0, 1] by decide +kernel] at finds
  exact ⟨by decide +kernel, finds, Reached.search_sifted turned_reached (by decide +kernel)
    [⟨0x3f800000⟩] (by decide +kernel) 1 (by decide) [0, 1] finds⟩

end EmbeddingIndex.Graph
