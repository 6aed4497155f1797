import EmbeddingIndex.Proofs.Backend
import Mathlib.Data.List.Sort
/-!
A search that asks for at least as many hits as there are entries scores all of them, whatever the
engine and the order of its tables. Only hits of equal scores may change places.
-/

namespace EmbeddingIndex

theorem Binary32.descendingKey_injective : Function.Injective Binary32.descendingKey := by
  intro x y same
  have boundX := x.rankKey_lt
  have boundY := y.rankKey_lt
  apply rankKey_injective
  unfold descendingKey at same
  omega

theorem sortBy_map_key {α : Type} (key : α → Nat) {a b : List α} (same : a.Perm b) :
    (sortBy key a).map key = (sortBy key b).map key := by
  have sorted (values : List α) : ((sortBy key values).map key).Pairwise (· ≤ ·) :=
    List.pairwise_map.mpr (sortBy_pairwise key values)
  have moved : (sortBy key a).Perm (sortBy key b) := by
    calc
      (sortBy key a).Perm a := sortBy_perm key a
      a.Perm b := same
      b.Perm (sortBy key b) := (sortBy_perm key b).symm
  exact (moved.map key).eq_of_pairwise' (sorted a) (sorted b)

/-- Hits that differ by the order of equal scores alone. -/
structure SameHits (a b : List Hit) : Prop where
  perm : a.Perm b
  scores_eq : a.map (·.score) = b.map (·.score)

theorem rank_same {a b : List Hit} (same : a.Perm b) (count : Nat) (all : a.length ≤ count) :
    SameHits (rank a count) (rank b count) := by
  have whole (hits : List Hit) (all : hits.length ≤ count) :
      rank hits count = sortBy (·.score.descendingKey) hits := by
    rw [rank, List.take_of_length_le]
    rwa [length_sortBy]
  rw [whole a all, whole b (same.length_eq ▸ all)]
  constructor
  · exact ((sortBy_perm _ a).trans same).trans (sortBy_perm _ b).symm
  · have keys := sortBy_map_key (fun hit : Hit => hit.score.descendingKey) same
    have split : (fun hit : Hit => hit.score.descendingKey) = Binary32.descendingKey ∘ Hit.score := rfl
    rw [split, ← List.map_map, ← List.map_map] at keys
    exact (List.map_injective_iff.mpr Binary32.descendingKey_injective) keys

inductive SameFind : Except Halt (List Hit) → Except Halt (List Hit) → Prop
  | hits {a b : List Hit} (same : SameHits a b) : SameFind (.ok a) (.ok b)
  | halt (cause : Halt) : SameFind (.error cause) (.error cause)

theorem SameFind.refl (answer : Except Halt (List Hit)) : SameFind answer answer := by
  cases answer with
  | ok hits => exact .hits ⟨List.Perm.refl _, rfl⟩
  | error cause => exact .halt cause

theorem SameFind.symm {a b : Except Halt (List Hit)} (same : SameFind a b) : SameFind b a := by
  cases same with
  | hits same => exact .hits ⟨same.perm.symm, same.scores_eq.symm⟩
  | halt cause => exact .halt cause

theorem SameFind.trans {a b c : Except Halt (List Hit)} (first : SameFind a b)
    (second : SameFind b c) : SameFind a c := by
  cases first with
  | hits first =>
    cases second with
    | hits second =>
      exact .hits ⟨first.perm.trans second.perm, first.scores_eq.trans second.scores_eq⟩
  | halt cause => exact second

def Entries.hits (entries : Entries) (query : Embedding) : List Hit :=
  entries.map fun entry => ⟨entry.id, query.cosine entry.vector⟩

theorem Entries.length_hits (entries : Entries) (query : Embedding) :
    (entries.hits query).length = entries.length := List.length_map _

theorem mapM_score {entries : Entries} {query : Embedding}
    (fits : ∀ entry ∈ entries, query.length = entry.vector.length) :
    entries.mapM (Entry.score query) = .ok (entries.hits query) := by
  induction entries with
  | nil => rfl
  | cons entry rest ih =>
    have first : Entry.score query entry = .ok ⟨entry.id, query.cosine entry.vector⟩ := by
      rw [Entry.score, Embedding.similarity, if_pos (fits entry List.mem_cons_self)]
      rfl
    rw [List.mapM_cons, first, ih fun other member => fits other (List.mem_cons_of_mem entry member)]
    rfl

def Entries.found (entries : Entries) (query : Embedding) (count : Nat) :
    Except Halt (List Hit) :=
  if query.isEmpty || count = 0 || entries.isEmpty then .ok []
  else
    match widthFault query entries.width with
    | some fault => .error (.fault fault)
    | none => .ok (rank (entries.hits query) count)

theorem Entries.Sound.found_same {a b : Entries} (sound : a.Sound) (same : a.Perm b)
    (query : Embedding) (count : Nat) (all : a.length ≤ count) :
    SameFind (a.found query count) (b.found query count) := by
  have empty : a.isEmpty = b.isEmpty := by
    rw [Bool.eq_iff_iff, List.isEmpty_iff, List.isEmpty_iff]
    exact ⟨fun none => (none ▸ same).nil_eq.symm, fun none => (none ▸ same).eq_nil⟩
  rw [found, found, empty, sound.width_perm same]
  split
  · exact .refl _
  · cases widthFault query b.width with
    | some fault => exact .halt _
    | none =>
      have counted : (a.hits query).length ≤ count := by rwa [length_hits]
      exact .hits (rank_same (same.map _) count counted)

theorem Entries.Sound.fits {entries : Entries} (sound : entries.Sound) {query : Embedding}
    (fits : widthFault query entries.width = none) :
    ∀ entry ∈ entries, query.length = entry.vector.length := by
  intro entry member
  rw [sound.width_eq entry member, widthFault] at fits
  split at fits
  · rename_i same
    exact same.symm
  · cases fits

theorem Scan.search_eq (s : Scan) (sound : s.entries.Sound) (query : Embedding) (count : Nat) :
    (s.search query count).mapError .fault = s.entries.found query count := by
  rw [search, Entries.found, width]
  by_cases blank : (query.isEmpty || decide (count = 0)) = true
  · rw [if_pos blank, if_pos (by rw [blank, Bool.true_or])]
    rfl
  · rw [if_neg blank]
    cases filled : s.entries with
    | nil =>
      rw [if_pos (by rw [List.isEmpty_nil, Bool.or_true])]
      simp only [Entries.width, List.head?_nil, Option.map_none, widthFault, List.mapM_nil]
      change Except.ok (rank [] count) = _
      rw [rank, sortBy, List.take_nil]
    | cons head tail =>
      rw [← filled]
      have live : ¬ (query.isEmpty || decide (count = 0) || s.entries.isEmpty) = true := by
        rw [filled, List.isEmpty_cons, Bool.or_false]
        exact blank
      rw [if_neg live]
      cases fault : widthFault query s.entries.width with
      | some fault => rfl
      | none =>
        rw [mapM_score (sound.fits fault)]
        rfl

theorem Scan.search_ne_crash (s : Scan) (query : Embedding) (count : Nat) :
    (s.search query count).mapError Halt.fault ≠ .error .crash := by
  rcases s.search query count with fault | hits <;> simp [Except.mapError]

namespace Graph

variable {g : Graph} {inserted : Entries}

theorem filterMap_range_entryAt (g : Graph) :
    (List.range g.slots.length).filterMap g.entryAt = g.entries := by
  have each (slots : List (Option Entry)) :
      (List.range slots.length).filterMap (fun slot => (slots[slot]?).join) = slots.filterMap id := by
    induction slots with
    | nil => rfl
    | cons head rest ih =>
      rw [List.length_cons, List.range_succ_eq_map, List.filterMap_cons, List.filterMap_map]
      cases head <;> simp [ih]
  exact each g.slots

theorem Sound.node_fits (sound : g.Sound inserted) {query : Embedding} (filled : g.entries ≠ [])
    (fits : widthFault query g.entries.width = none) :
    ∃ nodes, g.nodes = some nodes ∧ nodes.length = g.slots.length ∧
      ∀ node ∈ nodes, node.length = query.unit.length := by
  obtain ⟨entry, member⟩ := List.exists_mem_of_ne_nil _ filled
  have live : 0 < g.size := by
    rw [sound.size_eq]
    exact List.length_pos_of_mem member
  have made : g.nodes.isSome = true := by
    rw [sound.nodes_isSome_iff]
    intro none_made
    have total := sound.slots_length
    rw [none_made, List.length_nil, ← sound.size_eq] at total
    omega
  obtain ⟨nodes, built⟩ := Option.isSome_iff_exists.mp made
  refine ⟨nodes, built, ?_, ?_⟩
  · rw [← sound.length_nodes, built, Option.getD_some]
  · intro node inside
    have width := sound.node_width live node (by rwa [built, Option.getD_some])
    rw [sound.width_eq, sound.entries_sound.width_eq entry member, Option.some.injEq] at width
    rw [← width, length_unit, sound.entries_sound.fits fits entry member]

variable [Runtime]

theorem Sound.search_same (sound : g.Sound inserted) (complete : Runtime.library.Complete)
    {query : Embedding} (finite : query.unit.isFinite = true) {count : Nat}
    (word : count + g.tombstones < wordLimit) (all : g.entries.length ≤ count) :
    SameFind (g.search query count) (g.entries.found query count) := by
  have none_live : g.places.isEmpty = g.entries.isEmpty := by
    rw [Bool.eq_iff_iff, List.isEmpty_iff, List.isEmpty_iff, sound.entries_eq_nil_iff]
  rw [search, Entries.found, none_live, sound.width_eq]
  by_cases blank : (query.isEmpty || decide (count = 0) || g.entries.isEmpty) = true
  · rw [if_pos blank, if_pos blank]
    exact .refl _
  · rw [if_neg blank, if_neg blank]
    cases fault : widthFault query g.entries.width with
    | some fault => exact .halt _
    | none =>
      have live : g.entries ≠ [] := by
        rintro none
        apply blank
        rw [none, List.isEmpty_nil, Bool.or_true]
      obtain ⟨nodes, built, length_eq, widths⟩ := sound.node_fits live fault
      obtain ⟨slots, found, every⟩ := complete g.tuning nodes query.unit finite widths
      have fetched : g.fetch nodes query count = .ok slots := by
        have total := sound.slots_length
        have whole : min (count + g.tombstones) g.slots.length = nodes.length := by omega
        simp only [fetch, word_of_lt word, whole, found]
      have reached : (slots.filterMap g.entryAt).Perm g.entries := by
        rw [← filterMap_range_entryAt g, ← length_eq]
        exact every.filterMap g.entryAt
      have fits := (sound.entries_sound.perm reached.symm).fits
        ((sound.entries_sound.width_perm reached.symm) ▸ fault)
      simp only [built, fetched, mapM_score fits]
      apply SameFind.hits
      apply rank_same (reached.map _) count
      rw [List.length_map, reached.length_eq]
      exact all

end Graph

namespace Backend

def tombstones : Backend → Nat
  | graph g => g.tombstones
  | scan _ => 0

variable [Runtime] {b : Backend} {tuning : Tuning}

theorem Sound.search_same (sound : b.Sound tuning) (complete : Runtime.library.Complete)
    {query : Embedding} (finite : query.unit.isFinite = true) {count : Nat}
    (word : count + b.tombstones < wordLimit) (all : b.entries.length ≤ count) :
    SameFind (b.search query count) (b.entries.found query count) := by
  cases b with
  | graph g =>
    rcases sound with ⟨_, inserted, sound⟩
    exact sound.search_same complete finite word all
  | scan s =>
    have eq := Scan.search_eq s sound query count
    change SameFind ((s.search query count).mapError .fault) (s.entries.found query count)
    rw [eq]
    exact .refl _

end Backend

end EmbeddingIndex
