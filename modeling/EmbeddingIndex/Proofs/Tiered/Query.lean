import EmbeddingIndex.Proofs.Tiered.Reachable
import EmbeddingIndex.Proofs.Search
/-!
Queries. One that asks for every entry gets what a scan of the entries would find. Only a query without
a finite direction, or for more slots than a machine word tells, can harm the index, when a graph
answers it.
-/

namespace EmbeddingIndex

/-- A graph of these entries, with so many tombstones, cannot look for what it is asked. -/
structure Embedding.Strays [Runtime] (query : Embedding) (entries : Entries) (tombstones count : Nat) :
    Prop where
  query_filled : query ≠ []
  some_asked : count ≠ 0
  some_held : entries ≠ []
  fits : widthFault query entries.width = none
  beyond : query.unit.isFinite = false ∨
    Runtime.overflow = .crash ∧ wordLimit ≤ count + tombstones

section

variable [Runtime]

theorem Graph.fetch_eq_crash_iff (strict : Runtime.library.Strict) (g : Graph)
    {nodes : List Embedding} {query : Embedding}
    (widths : ∀ node ∈ nodes, node.length = query.unit.length) (count : Nat) :
    g.fetch nodes query count = .error .crash ↔
      query.unit.isFinite = false ∨ Runtime.overflow = .crash ∧ wordLimit ≤ count + g.tombstones := by
  rw [fetch]
  cases fetched : word (count + g.tombstones) with
  | error halt =>
    obtain ⟨strictly, beyond, rfl⟩ := (word_eq_error_iff _ _).mp fetched
    simp [strictly, beyond]
  | ok asked =>
    have within : ¬ (Runtime.overflow = .crash ∧ wordLimit ≤ count + g.tombstones) := by
      rintro ⟨strictly, beyond⟩
      have overflown := (word_eq_error_iff _ .crash).mpr ⟨strictly, beyond, rfl⟩
      rw [fetched] at overflown
      cases overflown
    have lost_iff := strict g.tuning nodes query.unit (min asked g.slots.length) widths
    simp only [within, or_false, ← lost_iff]
    cases Runtime.library.find g.tuning nodes query.unit (min asked g.slots.length) <;> simp

theorem Graph.Sound.search_eq_crash_iff {g : Graph} {inserted : Entries} (sound : g.Sound inserted)
    (strict : Runtime.library.Strict) (query : Embedding) (count : Nat) :
    g.search query count = .error .crash ↔ query.Strays g.entries g.tombstones count := by
  have none_live : g.places.isEmpty = g.entries.isEmpty := by
    rw [Bool.eq_iff_iff, List.isEmpty_iff, List.isEmpty_iff, sound.entries_eq_nil_iff]
  rw [search, none_live, sound.width_eq]
  by_cases blank : (query.isEmpty || decide (count = 0) || g.entries.isEmpty) = true
  · rw [if_pos blank]
    refine ⟨fun answered => (by cases answered), fun strays => ?_⟩
    simp [strays.query_filled, strays.some_asked, strays.some_held] at blank
  · rw [if_neg blank]
    simp only [Bool.or_eq_true, List.isEmpty_iff, decide_eq_true_eq, not_or] at blank
    obtain ⟨⟨query_filled, some_asked⟩, some_held⟩ := blank
    cases fault : widthFault query g.entries.width with
    | some fault =>
      refine ⟨fun answered => (by cases answered), fun strays => ?_⟩
      have fits := strays.fits
      rw [fault] at fits
      cases fits
    | none =>
      obtain ⟨nodes, built, _, widths⟩ := sound.node_fits some_held fault
      have crash_iff := g.fetch_eq_crash_iff strict widths count
      simp only [built]
      constructor
      · intro answered
        refine ⟨query_filled, some_asked, some_held, fault, crash_iff.mp ?_⟩
        cases fetched : g.fetch nodes query count with
        | error halt =>
          simp only [fetched] at answered
          rw [Except.error.inj answered]
        | ok slots =>
          simp only [fetched] at answered
          split at answered <;> cases answered
      · intro strays
        rw [crash_iff.mpr strays.beyond]

theorem Backend.Sound.search_eq_crash_iff {b : Backend} {tuning : Tuning} (sound : b.Sound tuning)
    (strict : Runtime.library.Strict) (query : Embedding) (count : Nat) :
    b.search query count = .error .crash ↔
      b.engine = .graph ∧ query.Strays b.entries b.tombstones count := by
  cases b with
  | graph g =>
    rcases sound with ⟨_, inserted, sound⟩
    constructor
    · intro crash
      exact ⟨rfl, (sound.search_eq_crash_iff strict query count).mp crash⟩
    · rintro ⟨_, strays⟩
      exact (sound.search_eq_crash_iff strict query count).mpr strays
  | scan s =>
    constructor
    · intro crash
      exact absurd crash (s.search_ne_crash query count)
    · rintro ⟨graph, _⟩
      cases graph

end

theorem Entries.ids_of_found {entries : Entries} {query : Embedding} {count : Nat}
    {hits : List Hit} (answered : entries.found query count = .ok hits) (filled : query ≠ [])
    (all : entries.length ≤ count) : (hits.map (·.id)).Perm entries.ids := by
  rw [found] at answered
  split at answered
  · rename_i blank
    cases answered
    simp only [Bool.or_eq_true, List.isEmpty_iff, decide_eq_true_eq] at blank
    have none_held : entries = [] := by
      rcases blank with (empty | none_asked) | none_held
      · exact absurd empty filled
      · exact List.length_eq_zero_iff.mp (Nat.le_zero.mp (none_asked ▸ all))
      · exact none_held
    rw [none_held]
    exact List.Perm.refl _
  · split at answered
    · cases answered
    · cases answered
      have whole : rank (entries.hits query) count =
          sortBy (·.score.descendingKey) (entries.hits query) := by
        rw [rank, List.take_of_length_le]
        rwa [length_sortBy, length_hits]
      have listed : (entries.hits query).map (·.id) = entries.ids := by
        rw [hits, List.map_map]
        rfl
      rw [whole, ← listed]
      exact (sortBy_perm _ _).map _

namespace Active

def engine : Active → Engine
  | scan _ => .scan
  | promoted p => p.engine

def tombstones : Active → Nat
  | scan _ => 0
  | promoted p => p.backend.tombstones

variable [Runtime] {settings : Settings} {a : Active}

theorem search_promoted {p : Promoted} (sane : p.poisoned = false) (query : Embedding)
    (count : Nat) : (promoted p).search query count = p.backend.search query count := by
  simp [search, Promoted.search, Promoted.barrier, sane]

theorem Sound.search_eq_crash_iff (sound : a.Sound settings) (sane : a.poisoned = false)
    (strict : Runtime.library.Strict) (query : Embedding) (count : Nat) :
    a.search query count = .error .crash ↔
      a.engine = .graph ∧ query.Strays a.entries a.tombstones count := by
  cases a with
  | scan s =>
    constructor
    · intro crash
      exact absurd crash (s.search_ne_crash query count)
    · rintro ⟨graph, _⟩
      cases graph
  | promoted p =>
    rw [search_promoted sane]
    exact (Promoted.Sound.backend sound sane).search_eq_crash_iff strict query count

theorem Sound.search_same (sound : a.Sound settings) (sane : a.poisoned = false)
    (complete : Runtime.library.Complete) {query : Embedding} (finite : query.unit.isFinite = true)
    {count : Nat} (word : count + a.tombstones < wordLimit) (all : a.entries.length ≤ count) :
    SameFind (a.search query count) (a.entries.found query count) := by
  cases a with
  | scan s =>
    have eq := Scan.search_eq s sound query count
    change SameFind ((s.search query count).mapError .fault) (s.entries.found query count)
    rw [eq]
    exact .refl _
  | promoted p =>
    rw [search_promoted sane]
    exact (Promoted.Sound.backend sound sane).search_same complete finite word all

end Active

namespace Tiered

/-- The answer of a tiered index beside that of a scan. Hits differ by the order of equal scores at
the most, and faults by what they are wrapped in. -/
inductive SameOutcome : Except Halt (List Hit) → Except Fault (List Hit) → Prop
  | hits {a b : List Hit} (same : SameHits a b) : SameOutcome (.ok a) (.ok b)
  | fault (cause fault : Fault) (root_eq : cause.root = fault.root) :
      SameOutcome (.error (.fault cause)) (.error fault)

theorem SameOutcome.of_found {answer : Except Halt (List Hit)} {own : Except Fault (List Hit)}
    (same : SameFind answer (own.mapError Halt.fault)) :
    SameOutcome (within "search" answer) own := by
  rcases own with fault | hits
  · cases same
    exact .fault _ fault rfl
  · cases same with
    | hits same => exact .hits same

theorem engine_eq_graph_iff (t : Tiered) : t.engine = some .graph ↔ t.active.engine = .graph := by
  rw [engine]
  cases t.active with
  | scan s => simp [Active.engine]
  | promoted p => simp [Active.engine]

theorem ok_of_within {op : String} {answer : Except Halt (List Hit)} {hits : List Hit}
    (answered : within op answer = .ok hits) : answer = .ok hits := by
  cases answer with
  | error halt => cases answered
  | ok found => exact answered

section

variable [Runtime] {settings : Settings} {t : Tiered}

/-- Neither promotion nor tombstones show in a search that asks for every entry. It answers as a
scan of the same entries does, and finds each of them once unless the query is empty. -/
theorem Reachable.search_same_scan (reachable : Reachable settings t) (still_open : t.closed = false)
    (unharmed : t.poisoned = false) (complete : Runtime.library.Complete) (query : Embedding)
    (finite : query.unit.isFinite = true) (count : Nat) (all : t.size ≤ count)
    (word : count + t.active.tombstones < wordLimit) (files : FileTree) :
    (∀ s : Scan, s.entries.Perm t.entries →
        SameOutcome (t.search query count files).answer (s.search query count)) ∧
      t.entries.ids.Nodup ∧
      ∀ hits, (t.search query count files).answer = .ok hits → query ≠ [] →
        (hits.map (·.id)).Perm t.entries.ids := by
  have sound := reachable.sound
  have sane := sound.active_sane unharmed
  have together := sound.entries unharmed
  have free : t.barrier = none := (barrier_eq_none_iff t).mpr ⟨unharmed, still_open⟩
  have counted : t.entries.length ≤ count := by rwa [sound.size_eq still_open unharmed] at all
  -- Both sides are measured by what the entries alone determine.
  have found : SameFind (t.active.search query count) (t.entries.found query count) :=
    sound.active.search_same sane complete finite word counted
  rw [search_of_free free]
  refine ⟨?_, together.ids_nodup, ?_⟩
  · intro s same
    have scanned := Scan.search_eq s (together.perm same.symm) query count
    have listed := together.found_same same.symm query count counted
    rw [← scanned] at listed
    exact .of_found (found.trans listed)
  · intro hits answered filled
    rw [ok_of_within answered] at found
    generalize whole : t.entries.found query count = listed at found
    cases found with
    | hits same => exact (same.perm.map _).trans (Entries.ids_of_found whole filled counted)

end

def sifted : Tiered :=
  let start : Tiered := ⟨Settings.effective ⟨1, none, .graph, .unset⟩, .scan .empty, false, false⟩
  let grown := (start.after ⟨[], []⟩ (.add "a" [⟨0x3f800000⟩])).after ⟨[], []⟩ (.add "b" [⟨0x40000000⟩])
  grown.after ⟨[], []⟩ (.add "a" [⟨0x40400000⟩])

theorem sifted_reachable : Reachable ⟨1, none, .graph, .unset⟩ sifted := by
  have start : Reachable ⟨1, none, .graph, .unset⟩ _ := .created ⟨[], []⟩ _ (by rfl)
  exact ((start.stepped ⟨[], []⟩ (.add "a" [⟨0x3f800000⟩])).stepped ⟨[], []⟩
    (.add "b" [⟨0x40000000⟩])).stepped ⟨[], []⟩ (.add "a" [⟨0x40400000⟩])

theorem search_same_scan_sifted :
    sifted.mode = .promoted ∧
      (∀ s : Scan, s.entries.Perm sifted.entries →
        SameOutcome (sifted.search [⟨0xbf800000⟩] 2 ⟨[], []⟩).answer (s.search [⟨0xbf800000⟩] 2)) ∧
      sifted.entries.ids.Nodup ∧
      ∀ hits, (sifted.search [⟨0xbf800000⟩] 2 ⟨[], []⟩).answer = .ok hits →
        [(⟨0xbf800000⟩ : Binary32)] ≠ [] → (hits.map (·.id)).Perm sifted.entries.ids :=
  ⟨by rfl, Reachable.search_same_scan sifted_reachable (by rfl) (by rfl)
    GraphLibrary.exhaustive_complete _ (by decide +kernel) 2 (by decide +kernel) (by decide +kernel) _⟩

/-- The empty query has a finite direction, and finds nothing. -/
theorem search_of_empty_query :
    ¬ ∀ (settings : Settings) (t : Tiered), Reachable settings t → t.closed = false →
      t.poisoned = false → ∀ query : Embedding, query.unit.isFinite = true →
        ∀ count, t.size ≤ count → ∀ files hits,
          (t.search query count files).answer = .ok hits →
            (hits.map (·.id)).Perm t.entries.ids := by
  intro finds_all
  have found_none := finds_all _ sifted sifted_reachable (by rfl) (by rfl) [] (by decide) 2
    (by decide +kernel) ⟨[], []⟩ [] (by rfl)
  exact absurd found_none.length_eq (by decide +kernel)

section

variable [Runtime] {settings : Settings} {t : Tiered}

structure Refuses (t : Tiered) (fault : Fault) : Prop where
  add : ∀ id vector files, t.add id vector files = ⟨.error (.fault fault), t, files⟩
  remove : ∀ id files, t.remove id files = ⟨.error (.fault fault), t, files⟩
  search : ∀ query count files, t.search query count files = ⟨.error (.fault fault), t, files⟩
  save : ∀ files, t.save files = ⟨.error fault, t, files⟩
  close : ∀ files, t.close files = ⟨.error fault, t, files⟩

theorem refuses_of_poisoned (poisoned : t.poisoned = true) :
    t.Refuses (.lockPoisoned resource) := by
  have barred : t.barrier = some (.lockPoisoned resource) := by rw [barrier, if_pos poisoned]
  refine ⟨?_, ?_, ?_, ?_, ?_⟩
  · exact fun id vector files => add_of_barrier barred id vector files
  · exact fun id files => remove_of_barrier barred id files
  · exact fun query count files => search_of_barrier barred query count files
  · exact fun files => save_of_barrier barred files
  · intro files
    rw [Tiered.close, if_pos poisoned]

/-- A search crashes if a graph has to look for a direction that is not finite, or where machine words
may not overflow and one does. Then the index is poisoned and refuses everything from there on; any
other search leaves it as it was. -/
theorem Reachable.search_crash_iff (reachable : Reachable settings t) (still_open : t.closed = false)
    (unharmed : t.poisoned = false) (strict : Runtime.library.Strict) (query : Embedding) (count : Nat)
    (files : FileTree) :
    ((t.search query count files).answer = .error .crash ↔
        t.engine = some .graph ∧ query.Strays t.entries t.active.tombstones count) ∧
      ((t.search query count files).answer ≠ .error .crash →
        (t.search query count files).index = t) ∧
      ((t.search query count files).answer = .error .crash →
        (t.search query count files).index.Refuses (.lockPoisoned resource)) := by
  have sound := reachable.sound
  have sane := sound.active_sane unharmed
  have free : t.barrier = none := (barrier_eq_none_iff t).mpr ⟨unharmed, still_open⟩
  have crash_iff : (t.search query count files).answer = .error .crash ↔
      t.active.search query count = .error .crash := by
    rw [search_of_free free, ← crashed_eq_true_iff, crashed_within, crashed_eq_true_iff]
  refine ⟨?_, ?_, ?_⟩
  · rw [crash_iff, engine_eq_graph_iff]
    exact sound.active.search_eq_crash_iff sane strict query count
  · intro answered
    have calm : crashed (t.active.search query count) = false := by
      rw [Bool.eq_false_iff, Ne, crashed_eq_true_iff, ← crash_iff]
      exact answered
    rw [search_of_free free, calm, Bool.or_false]
  · intro crash
    have harmed : crashed (t.active.search query count) = true :=
      (crashed_eq_true_iff _).mpr (crash_iff.mp crash)
    apply refuses_of_poisoned
    rw [search_of_free free, harmed]
    exact Bool.or_true _

end

theorem search_crash_iff_sifted :
    ((sifted.search [⟨0x7fc00000⟩] 1 ⟨[], []⟩).answer = .error .crash ↔
        sifted.engine = some .graph ∧
          Embedding.Strays [⟨0x7fc00000⟩] sifted.entries sifted.active.tombstones 1) ∧
      ((sifted.search [⟨0x7fc00000⟩] 1 ⟨[], []⟩).answer ≠ .error .crash →
        (sifted.search [⟨0x7fc00000⟩] 1 ⟨[], []⟩).index = sifted) ∧
      ((sifted.search [⟨0x7fc00000⟩] 1 ⟨[], []⟩).answer = .error .crash →
        (sifted.search [⟨0x7fc00000⟩] 1 ⟨[], []⟩).index.Refuses (.lockPoisoned resource)) :=
  Reachable.search_crash_iff sifted_reachable (by rfl) (by rfl) GraphLibrary.exhaustive_strict _ 1 _

/-- A query that is not a number brings down an index that any other index would serve. -/
theorem search_crash_of_nan :
    ¬ ∀ (settings : Settings) (t : Tiered), Reachable settings t → t.closed = false →
      t.poisoned = false → ∀ query count files,
        (t.search query count files).answer ≠ .error .crash ∧
          ∀ id vector, ((t.search query count files).index.add id vector files).answer ≠
            .error (.fault (.lockPoisoned resource)) := by
  intro safe
  have answered := (safe _ sifted sifted_reachable (by rfl) (by rfl) [⟨0x7fc00000⟩] 1 ⟨[], []⟩).1
  exact answered (by rfl)

end Tiered

end EmbeddingIndex
