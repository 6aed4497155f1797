import EmbeddingIndex.Proofs.Graph.Wiring
import EmbeddingIndex.Proofs.Runtime
/-!
What the operations leave. Whatever the library does, a graph that an operation returns is sound, and
what one holds that was accepted depends on the live entries alone. Only a crash may leave a node that
no slot accounts for.
-/

namespace EmbeddingIndex.Graph

/-- Why an addition is refused whatever the library does, from the live entries. -/
def refusal (tuning : Tuning) (entries : Entries) (id : String) (vector : Embedding) :
    Option Fault :=
  match rejection id vector entries.width with
  | some fault => some fault
  | none => if entries.length = tuning.capacity then some (.graph .full) else none

theorem refusal_eq_none_iff (tuning : Tuning) (entries : Entries) (id : String)
    (vector : Embedding) : refusal tuning entries id vector = none ↔
      rejection id vector entries.width = none ∧ entries.length ≠ tuning.capacity := by
  rw [refusal]
  cases rejection id vector entries.width <;> simp

/-- What an attempt leaves whose slots are made for some of the given entries, in their order. It
holds the entries aimed at if it succeeds, and it is sound unless it crashed. It fails for no reason
that lies in the entries. -/
structure Lands (attempt : Attempt Halt Graph) (tuning : Tuning) (given aim : Entries) : Prop where
  tuning_eq : attempt.2.tuning = tuning
  kept : ∃ inserted, attempt.2.Kept inserted ∧ inserted.Sublist given
  sound : attempt.1 ≠ .error .crash → ∃ inserted, attempt.2.Sound inserted ∧ inserted.Sublist given
  entries_eq : attempt.1 = .ok () → attempt.2.entries = aim
  foreign : ∀ halt, attempt.1 = .error halt → halt.Foreign

theorem Lands.widen {attempt : Attempt Halt Graph} {tuning : Tuning} {given more aim : Entries}
    (lands : Lands attempt tuning given aim) (inside : given.Sublist more) :
    Lands attempt tuning more aim := by
  refine ⟨lands.tuning_eq, ?_, ?_, lands.entries_eq, lands.foreign⟩
  · obtain ⟨inserted, kept, sublist⟩ := lands.kept
    exact ⟨inserted, kept, sublist.trans inside⟩
  · intro returned
    obtain ⟨inserted, sound, sublist⟩ := lands.sound returned
    exact ⟨inserted, sound, sublist.trans inside⟩

theorem Sound.done {g : Graph} {inserted : Entries} (sound : g.Sound inserted) :
    Lands (.done g) g.tuning inserted g.entries :=
  ⟨rfl, ⟨inserted, sound.kept, List.Sublist.refl _⟩,
    fun _ => ⟨inserted, sound, List.Sublist.refl _⟩, fun _ => rfl, fun _ failed => by cases failed⟩

theorem Sound.failed {g : Graph} {inserted : Entries} (sound : g.Sound inserted) {halt : Halt}
    (foreign : halt.Foreign) (aim : Entries) : Lands (.failed halt g) g.tuning inserted aim :=
  ⟨rfl, ⟨inserted, sound.kept, List.Sublist.refl _⟩,
    fun _ => ⟨inserted, sound, List.Sublist.refl _⟩, fun done => (by cases done),
    fun _ same => Except.error.inj same ▸ foreign⟩

theorem Lands.andThen {attempt : Attempt Halt Graph} {next : Graph → Attempt Halt Graph}
    {tuning : Tuning} {given middle more aim : Entries} (lands : Lands attempt tuning given middle)
    (inside : given.Sublist more)
    (goes_on : ∀ g inserted, g.Sound inserted → inserted.Sublist given → g.tuning = tuning →
      g.entries = middle → attempt = .done g → Lands (next g) tuning more aim) :
    Lands (attempt.andThen next) tuning more aim := by
  rcases attempt with ⟨halt | _, g⟩
  · refine ⟨lands.tuning_eq, ?_, ?_, fun done => (by cases done), lands.foreign⟩
    · exact (lands.widen inside).kept
    · exact (lands.widen inside).sound
  · obtain ⟨inserted, sound, sublist⟩ := lands.sound (by simp)
    exact goes_on g inserted sound sublist lands.tuning_eq (lands.entries_eq rfl) rfl

theorem sound_clear (g : Graph) : g.clear.Sound [] where
  places_nodup := List.nodup_nil
  mem_places_iff := by simp [clear]
  tombstones_eq := rfl
  slots_le := Nat.zero_le _
  nodes_eq := rfl
  made := List.Forall₂.nil
  storable := by simp
  even := by simp
  tombstones_le := Nat.zero_le _

/-- The graph of a batch of entries, each at the slot of its place among them. -/
def batch (tuning : Tuning) (entries : Entries) : Graph :=
  ⟨tuning, some (entries.map (·.vector.unit)), entries.map some,
    entries.zipIdx.map fun pair => (pair.1.id, pair.2), 0⟩

theorem entries_batch (tuning : Tuning) (entries : Entries) :
    (batch tuning entries).entries = entries := by
  change (entries.map some).filterMap id = entries
  rw [List.filterMap_map]
  exact List.filterMap_some

theorem sound_batch (tuning : Tuning) (entries : Entries) (sound : entries.Sound)
    (filled : entries ≠ []) (small : entries.length ≤ tuning.capacity) :
    (batch tuning entries).Sound entries where
  places_nodup := by
    have keys : (batch tuning entries).places.map (·.1) = entries.ids := by
      rw [batch, List.map_map, Entries.ids]
      conv_rhs => rw [← List.zipIdx_map_fst 0 entries, List.map_map]
      rfl
    rw [keys]
    exact sound.ids_nodup
  mem_places_iff id slot := by
    simp only [batch, List.mem_map, Prod.exists, Prod.mk.injEq, List.mem_zipIdx_iff_getElem?,
      List.getElem?_map, Option.map_eq_some_iff, Option.some.injEq]
    constructor
    · rintro ⟨entry, _, held, rfl, rfl⟩
      exact ⟨entry.vector, entry, held, rfl⟩
    · rintro ⟨vector, entry, held, rfl⟩
      exact ⟨_, slot, held, rfl, rfl⟩
  tombstones_eq := by
    have all_live : none ∉ entries.map some := by simp
    exact (List.count_eq_zero.mpr all_live).symm
  slots_le := by simpa [batch] using small
  nodes_eq := (if_neg filled).symm
  made := by
    rw [batch, List.forall₂_map_left_iff, List.forall₂_same]
    exact fun entry _ => Or.inr rfl
  storable := sound.storable
  even := sound.even
  tombstones_le := Nat.zero_le _

theorem Sound.relisted {g : Graph} {inserted : Entries} (sound : g.Sound inserted)
    (places : List (String × Nat)) (same : g.places.Perm places) :
    Sound { g with places } inserted where
  places_nodup := (same.map _).nodup_iff.mp sound.places_nodup
  mem_places_iff id slot := same.symm.mem_iff.trans (sound.mem_places_iff id slot)
  tombstones_eq := sound.tombstones_eq
  slots_le := sound.slots_le
  nodes_eq := sound.nodes_eq
  made := sound.made
  storable := sound.storable
  even := sound.even
  tombstones_le := by
    have size_kept : places.length = g.size := same.length_eq.symm
    change g.tombstones ≤ max tombstoneFloor places.length
    rw [size_kept]
    exact sound.tombstones_le

def vacate (g : Graph) (id : String) (slot : Nat) : Graph :=
  { g with places := g.places.filter (·.1 ≠ id) }.bury slot

def extend (g : Graph) (entry : Entry) (places : List (String × Nat)) : Graph :=
  { g with
    nodes := some (g.nodes.getD [] ++ [entry.vector.unit])
    slots := g.slots ++ [some entry]
    places }

section

variable {g : Graph} {inserted : Entries}

theorem Wired.vacate (wired : g.Wired inserted) (id : String) (slot : Nat)
    (placed : (id, slot) ∈ g.places) : (g.vacate id slot).Wired inserted := by
  obtain ⟨vector, held⟩ := (wired.mem_places_iff id slot).mp placed
  have inside : slot < g.slots.length := (List.getElem?_eq_some_iff.mp held).1
  refine ⟨⟨wired.places_nodup.sublist (List.filter_sublist.map _), ?_, ?_, ?_, ?_,
    wired.storable, wired.even⟩, wired.nodes_eq⟩
  · intro key place
    change (key, place) ∈ g.places.filter (·.1 ≠ id) ↔
      ∃ vector, (g.slots.set slot none)[place]? = some (some ⟨key, vector⟩)
    rw [List.mem_filter, wired.mem_places_iff, List.getElem?_set]
    by_cases here : slot = place
    · subst here
      simp only [inside, if_true, held]
      constructor
      · rintro ⟨⟨_, same⟩, other⟩
        cases same
        simp at other
      · rintro ⟨_, none_live⟩
        cases none_live
    · simp only [if_neg here]
      constructor
      · exact And.left
      · intro found
        refine ⟨found, decide_eq_true fun same => here ?_⟩
        have other := (wired.mem_places_iff key place).mpr found
        exact place_unique g.places wired.places_nodup id slot place placed (same ▸ other)
  · change g.tombstones + 1 = (g.slots.set slot none).count none
    have live : g.slots[slot] = some ⟨id, vector⟩ := (List.getElem?_eq_some_iff.mp held).2
    rw [List.count_set inside, live, wired.tombstones_eq]
    simp
  · change (g.slots.set slot none).length ≤ g.tuning.capacity
    rw [List.length_set]
    exact wired.slots_le
  · exact forall₂_set_none wired.made slot

theorem Wired.entries_vacate (wired : g.Wired inserted) (id : String) (slot : Nat)
    (placed : (id, slot) ∈ g.places) : (g.vacate id slot).entries = g.entries.erase id := by
  obtain ⟨vector, held⟩ := (wired.mem_places_iff id slot).mp placed
  exact filterMap_set_none g.slots slot ⟨id, vector⟩ held wired.ids_nodup

theorem Wired.extend (wired : g.Wired inserted) (entry : Entry) (places : List (String × Nat))
    (table : places.Perm ((entry.id, g.slots.length) :: g.places))
    (absent : entry.id ∉ g.places.map (·.1)) (room : g.slots.length < g.tuning.capacity)
    (storable : entry.vector ≠ [] ∧ entry.vector.isFinite = true)
    (even : ∀ other ∈ inserted, other.vector.length = entry.vector.length) :
    (g.extend entry places).Wired (inserted ++ [entry]) := by
  refine ⟨⟨?_, ?_, ?_, ?_, ?_, ?_, ?_⟩, ?_⟩
  · exact (table.map _).nodup_iff.mpr (List.nodup_cons.mpr ⟨absent, wired.places_nodup⟩)
  · intro id slot
    change (id, slot) ∈ places ↔ ∃ vector, (g.slots ++ [some entry])[slot]? = some (some ⟨id, vector⟩)
    rw [table.mem_iff, List.mem_cons, wired.mem_places_iff]
    constructor
    · rintro (same | ⟨vector, live⟩)
      · obtain ⟨rfl, new⟩ := Prod.mk.inj same
        exact ⟨entry.vector, (getElem?_append_some_iff _ _ _ _).mpr (Or.inr ⟨new, rfl⟩)⟩
      · exact ⟨vector, (getElem?_append_some_iff _ _ _ _).mpr (Or.inl live)⟩
    · rintro ⟨vector, live⟩
      rcases (getElem?_append_some_iff _ _ _ _).mp live with old | ⟨new, same⟩
      · exact Or.inr ⟨vector, old⟩
      · exact Or.inl (by rw [← same, new])
  · change g.tombstones = (g.slots ++ [some entry]).count none
    rw [List.count_append, wired.tombstones_eq]
    rfl
  · change (g.slots ++ [some entry]).length ≤ g.tuning.capacity
    rw [List.length_append]
    exact room
  · exact List.rel_append wired.made (List.Forall₂.cons (Or.inr rfl) List.Forall₂.nil)
  · intro other member
    rcases List.mem_append.mp member with old | new
    · exact wired.storable other old
    · rw [List.mem_singleton.mp new]
      exact storable
  · intro a ha b hb
    have width (other : Entry) (member : other ∈ inserted ++ [entry]) :
        other.vector.length = entry.vector.length := by
      rcases List.mem_append.mp member with old | new
      · exact even other old
      · rw [List.mem_singleton.mp new]
    rw [width a ha, width b hb]
  · change some (g.nodes.getD [] ++ [entry.vector.unit]) = _
    rw [if_neg (List.append_ne_nil_of_right_ne_nil _ (List.cons_ne_nil _ _)), wired.nodes_getD,
      List.map_append]
    rfl

theorem entries_extend (g : Graph) (entry : Entry) (places : List (String × Nat)) :
    (g.extend entry places).entries = g.entries ++ [entry] := by
  simp only [Graph.entries, Graph.extend, List.filterMap_append]
  rfl

theorem Booked.even_with (booked : g.Booked inserted) {id : String} {vector : Embedding}
    (accepted : rejection id vector g.entries.width = none)
    (restarted : g.entries = [] → inserted = []) (other : Entry) (member : other ∈ inserted) :
    other.vector.length = vector.length := by
  obtain ⟨_, _, fits⟩ := (rejection_eq_none_iff id vector _).mp accepted
  cases live : g.entries with
  | nil => exact absurd (restarted live ▸ member) List.not_mem_nil
  | cons head tail =>
    have inside : head ∈ g.entries := live ▸ List.mem_cons_self
    rw [booked.even other member head (booked.entries_sublist.subset inside)]
    exact fits _ (booked.entries_sound.width_eq head inside)

end

variable [Runtime]

theorem rebuild_cases (g : Graph) (entries : Entries) :
    entries = [] ∧ g.rebuild entries = .done g.clear ∨
      (∃ halt : Halt, halt.Foreign ∧ g.rebuild entries = .failed halt g.clear) ∨
      entries ≠ [] ∧ entries.length ≤ g.tuning.capacity ∧
        g.rebuild entries = .done (batch g.tuning entries) := by
  rw [rebuild]
  split
  · rename_i nothing
    exact Or.inl ⟨List.isEmpty_iff.mp nothing, rfl⟩
  · rename_i filled
    right
    split
    · exact Or.inl ⟨_, .graph _, rfl⟩
    · rename_i small
      cases shaped : g.tuning.shape with
      | error halt => exact Or.inl ⟨halt, Tuning.shape_foreign shaped, rfl⟩
      | ok shape =>
        have grown_eq := shape.grow_of_ok [] (entries.map (·.vector.unit))
        have foreign (halt : Halt) := @Shape.grow_foreign _ shape [] (entries.map (·.vector.unit)) halt
        rcases grown : shape.grow [] (entries.map (·.vector.unit)) with ⟨halt | _, nodes⟩
        · rw [grown] at foreign
          exact Or.inl ⟨halt, foreign halt rfl, by simp only [grown]⟩
        · rw [grown] at grown_eq
          have nodes_eq : nodes = entries.map (·.vector.unit) := grown_eq rfl
          refine Or.inr ⟨mt List.isEmpty_iff.mpr filled, Nat.not_lt.mp small, ?_⟩
          simp only [grown, nodes_eq]
          rfl

theorem rebuild_lands (g : Graph) (entries : Entries) (sound : entries.Sound) :
    Lands (g.rebuild entries) g.tuning entries entries := by
  rcases rebuild_cases g entries with ⟨rfl, done⟩ | ⟨halt, foreign, failed⟩ | ⟨filled, small, done⟩
  · rw [done]
    exact (sound_clear g).done
  · rw [failed]
    exact ((sound_clear g).failed foreign entries).widen (List.nil_sublist _)
  · have lands := (sound_batch g.tuning entries sound filled small).done
    rw [entries_batch] at lands
    rw [done]
    exact lands

theorem slots_rebuild {g h : Graph} {entries : Entries} (built : g.rebuild entries = .done h) :
    h.slots = entries.map some := by
  rcases rebuild_cases g entries with ⟨rfl, done⟩ | ⟨halt, foreign, failed⟩ | ⟨filled, small, done⟩
  · rw [done] at built
    cases built
    rfl
  · rw [failed] at built
    cases built
  · rw [done] at built
    cases built
    rfl

theorem rebuild_ok (g : Graph) (supported : g.tuning.Supported) (entries : Entries)
    (sound : entries.Sound) (small : entries.length ≤ g.tuning.capacity) :
    (g.rebuild entries).1 = .ok () := by
  have even : ∀ a ∈ [] ++ entries.map (·.vector.unit), ∀ b ∈ [] ++ entries.map (·.vector.unit),
      a.length = b.length := by
    intro a ha b hb
    rw [List.nil_append] at ha hb
    obtain ⟨first, firstIn, rfl⟩ := List.mem_map.mp ha
    obtain ⟨second, secondIn, rfl⟩ := List.mem_map.mp hb
    rw [length_unit, length_unit, sound.even first firstIn second secondIn]
  obtain ⟨shape, shaped, takes⟩ := supported
  have grown := takes.grow_eq [] (entries.map (·.vector.unit)) (by simpa using small) even
  rw [rebuild]
  split
  · rfl
  · rw [if_neg (Nat.not_lt.mpr small), shaped]
    simp only [grown, Attempt.done]

variable {g : Graph} {inserted : Entries}

theorem Booked.compact_lands (booked : g.Booked inserted) :
    Lands g.compact g.tuning inserted g.entries :=
  (rebuild_lands g g.entries booked.entries_sound).widen booked.entries_sublist

theorem Booked.compact_ok (booked : g.Booked inserted) (supported : g.tuning.Supported) :
    g.compact.1 = .ok () :=
  rebuild_ok g supported g.entries booked.entries_sound booked.length_le

theorem Wired.tidy_lands (wired : g.Wired inserted) : Lands g.tidy g.tuning inserted g.entries := by
  rw [tidy]
  split
  · exact wired.compact_lands
  · rename_i few
    have bound : g.tombstones ≤ max tombstoneFloor g.size := by omega
    exact Sound.done ⟨wired, bound⟩

theorem Wired.tidy_ok (wired : g.Wired inserted) (supported : g.tuning.Supported) :
    g.tidy.1 = .ok () := by
  rw [tidy]
  split
  · exact wired.compact_ok supported
  · rfl

theorem Sound.remove_lands (sound : g.Sound inserted) (id : String) :
    Lands (g.remove id) g.tuning inserted (g.entries.erase id) := by
  rw [remove]
  cases found : g.slotOf id with
  | none =>
    have absent : id ∉ g.entries.ids := by
      rw [sound.mem_ids_iff]
      exact (slotOf_eq_none_iff g id).mp found
    rw [Entries.erase_of_absent _ _ absent]
    exact sound.done
  | some slot =>
    have placed := (slotOf_eq_some_iff g sound.places_nodup id slot).mp found
    have lands := (sound.toWired.vacate id slot placed).tidy_lands
    rw [sound.toWired.entries_vacate id slot placed] at lands
    exact lands

theorem Sound.remove_ok (sound : g.Sound inserted) (supported : g.tuning.Supported) (id : String) :
    (g.remove id).1 = .ok () := by
  rw [remove]
  cases found : g.slotOf id with
  | none => rfl
  | some slot =>
    have placed := (slotOf_eq_some_iff g sound.places_nodup id slot).mp found
    exact (sound.toWired.vacate id slot placed).tidy_ok supported

def supply (g : Graph) (vector : Embedding) : Graph :=
  { g with nodes := some (g.nodes.getD [] ++ [vector.unit]) }

/-- Storing an entry that has its node comes to an extension of what is left without its id. That is
tidied if the id was there. -/
theorem Sound.store_eq (sound : g.Sound inserted) (id : String) (vector : Embedding)
    (accepted : rejection id vector g.entries.width = none)
    (room : g.slots.length < g.tuning.capacity) (restarted : g.entries = [] → inserted = []) :
    ∃ h : Graph, h.Wired (inserted ++ [⟨id, vector⟩]) ∧ h.tuning = g.tuning ∧
      h.entries = g.entries.push id vector ∧
      ((g.supply vector).store id vector = h.tidy ∨
        h.tombstones ≤ max tombstoneFloor h.size ∧ (g.supply vector).store id vector = .done h) := by
  obtain ⟨filled, finite, _⟩ := (rejection_eq_none_iff id vector _).mp accepted
  have even := sound.toBooked.even_with accepted restarted
  have table := setPlace_perm g.places sound.places_nodup id g.slots.length
  have vacant : id ∉ (g.places.filter (·.1 ≠ id)).map (·.1) := by simp
  have lookup : (g.supply vector).slotOf id = g.slotOf id := rfl
  rw [store, lookup]
  cases found : g.slotOf id with
  | none =>
    have absent := (slotOf_eq_none_iff g id).mp found
    have all_stay : g.places.filter (·.1 ≠ id) = g.places := by
      apply List.filter_eq_self.mpr
      intro place member
      have other : place.1 ≠ id := fun same => absent (List.mem_map.mpr ⟨place, member, same⟩)
      simpa using other
    rw [all_stay] at table
    have wired := sound.toWired.extend ⟨id, vector⟩ _ table absent room ⟨filled, finite⟩ even
    have grown : (setPlace id g.slots.length g.places).length = g.size + 1 := table.length_eq
    have bound : g.tombstones ≤ max tombstoneFloor (setPlace id g.slots.length g.places).length := by
      have before := sound.tombstones_le
      omega
    refine ⟨_, wired, rfl, ?_, Or.inr ⟨bound, rfl⟩⟩
    rw [entries_extend, Entries.push,
      Entries.erase_of_absent g.entries id (by rwa [sound.mem_ids_iff])]
  | some old =>
    have placed := (slotOf_eq_some_iff g sound.places_nodup id old).mp found
    obtain ⟨_, held⟩ := (sound.mem_places_iff id old).mp placed
    have inside : old < g.slots.length := (List.getElem?_eq_some_iff.mp held).1
    have length_kept : (g.vacate id old).slots.length = g.slots.length := List.length_set
    have wired := (sound.toWired.vacate id old placed).extend ⟨id, vector⟩
      (setPlace id g.slots.length g.places) (length_kept ▸ table) vacant (length_kept ▸ room)
      ⟨filled, finite⟩ even
    refine ⟨_, wired, rfl, ?_, Or.inl ?_⟩
    · rw [entries_extend, sound.toWired.entries_vacate id old placed, Entries.push]
    · simp only [supply, vacate, bury, Graph.extend, List.set_append_left _ _ inside]

theorem Sound.append_lands (sound : g.Sound inserted) (id : String) (vector : Embedding)
    (accepted : rejection id vector g.entries.width = none)
    (room : g.slots.length < g.tuning.capacity) (restarted : g.entries = [] → inserted = []) :
    Lands (g.append id vector) g.tuning (inserted ++ [⟨id, vector⟩]) (g.entries.push id vector) := by
  have inside : inserted.Sublist (inserted ++ [⟨id, vector⟩]) := List.sublist_append_left _ _
  rw [append]
  cases shaped : g.tuning.shape with
  | error halt => exact (sound.failed (Tuning.shape_foreign shaped) _).widen inside
  | ok shape =>
    have foreign {halt : Halt} := @Shape.grow_foreign _ shape (g.nodes.getD []) [vector.unit] halt
    have nodes_eq := shape.grow_of_ok (g.nodes.getD []) [vector.unit]
    have longer := shape.prefix_grow (g.nodes.getD []) [vector.unit]
    simp only
    rcases grown : shape.grow (g.nodes.getD []) [vector.unit] with ⟨halt | _, nodes⟩
    · cases halt with
      | fault cause =>
        apply sound.toBooked.compact_lands.andThen inside
        intro h made kept sublist tuning_eq _ _
        rw [grown] at foreign
        rw [← tuning_eq]
        exact (kept.failed (foreign rfl) _).widen (sublist.trans inside)
      | crash =>
        rw [grown] at longer
        exact ⟨rfl, ⟨inserted, sound.kept_with longer, inside⟩, fun returned => absurd rfl returned,
          fun done => (by cases done), fun _ same => Except.error.inj same ▸ .crash⟩
    · rw [grown] at nodes_eq
      rw [show nodes = g.nodes.getD [] ++ [vector.unit] from nodes_eq rfl]
      obtain ⟨h, wired, tuning_eq, entries_eq, stored⟩ :=
        sound.store_eq id vector accepted room restarted
      have lands : Lands ((g.supply vector).store id vector) h.tuning (inserted ++ [⟨id, vector⟩])
          h.entries := by
        rcases stored with tidied | ⟨bound, done⟩
        · rw [tidied]
          exact wired.tidy_lands
        · rw [done]
          exact Sound.done ⟨wired, bound⟩
      rw [tuning_eq, entries_eq] at lands
      exact lands

theorem Sound.append_ok (sound : g.Sound inserted) (supported : g.tuning.Supported) (id : String)
    (vector : Embedding) (accepted : rejection id vector g.entries.width = none)
    (room : g.slots.length < g.tuning.capacity) (restarted : g.entries = [] → inserted = []) :
    (g.append id vector).1 = .ok () := by
  have width (node : Embedding) (member : node ∈ g.nodes.getD [] ++ [vector.unit]) :
      node.length = vector.length := by
    rcases List.mem_append.mp member with old | new
    · rw [sound.nodes_getD] at old
      obtain ⟨other, inside, rfl⟩ := List.mem_map.mp old
      rw [length_unit]
      exact sound.toBooked.even_with accepted restarted other inside
    · rw [List.mem_singleton.mp new, length_unit]
  have small : (g.nodes.getD [] ++ [vector.unit]).length ≤ g.tuning.capacity := by
    rw [List.length_append, sound.length_nodes]
    exact room
  have ⟨shape, shaped, takes⟩ := supported
  have grown := takes.grow_eq (g.nodes.getD []) [vector.unit] small fun a ha b hb =>
    (width a ha).trans (width b hb).symm
  obtain ⟨h, wired, tuning_eq, _, stored⟩ := sound.store_eq id vector accepted room restarted
  rw [append, shaped]
  simp only [grown, Attempt.done]
  change ((g.supply vector).store id vector).1 = .ok ()
  rcases stored with tidied | ⟨_, done⟩
  · rw [tidied]
    exact wired.tidy_ok (tuning_eq ▸ supported)
  · rw [done]
    rfl

/-- The first preparation for an insertion: nothing but tombstones counts as nothing. -/
def restart (g : Graph) : Attempt Halt Graph :=
  if g.places.isEmpty && g.nodes.isSome then g.rebuild [] else .done g

/-- The second preparation: tombstones make way where no slot is left. -/
def makeRoom (g : Graph) : Attempt Halt Graph :=
  if g.isFull && 0 < g.tombstones then g.compact else .done g

def insert (g : Graph) (id : String) (vector : Embedding) : Attempt Halt Graph :=
  if g.isFull then .failed (.fault (.graph .full)) g else g.append id vector

theorem add_eq (g : Graph) (id : String) (vector : Embedding) :
    g.add id vector =
      match rejection id vector g.width with
      | some fault => .failed (.fault fault) g
      | none => g.restart.andThen fun g => g.makeRoom.andThen fun g => g.insert id vector := rfl

theorem Sound.restart_eq (sound : g.Sound inserted) :
    ∃ h, g.restart = .done h ∧ Lands (.done h) g.tuning inserted g.entries ∧
      (g.entries = [] → h.slots = []) := by
  rw [restart]
  by_cases dead : (g.places.isEmpty && g.nodes.isSome) = true
  · have none_live : g.entries = [] := by
      rw [sound.entries_eq_nil_iff]
      exact List.isEmpty_iff.mp (Bool.and_eq_true_iff.mp dead).1
    rw [if_pos dead, none_live]
    exact ⟨g.clear, rfl, (sound_clear g).done.widen (List.nil_sublist _), fun _ => rfl⟩
  · rw [if_neg dead]
    refine ⟨g, rfl, sound.done, ?_⟩
    intro none_live
    have no_places := sound.entries_eq_nil_iff.mp none_live
    have no_nodes : g.nodes.isSome = false := by simpa [no_places] using dead
    rw [sound.nodes_eq] at no_nodes
    apply sound.slots_eq_nil_iff.mpr
    by_contra filled
    simp [filled] at no_nodes

theorem Sound.makeRoom_lands (sound : g.Sound inserted) :
    Lands g.makeRoom g.tuning inserted g.entries := by
  rw [makeRoom]
  split
  · exact sound.compact_lands
  · exact sound.done

theorem Sound.makeRoom_ok (sound : g.Sound inserted) (supported : g.tuning.Supported) :
    g.makeRoom.1 = .ok () := by
  rw [makeRoom]
  split
  · exact sound.compact_ok supported
  · rfl

theorem Sound.makeRoom_full (sound : g.Sound inserted) {h : Graph} (made : g.makeRoom = .done h) :
    (h.isFull = true ↔ g.entries.length = g.tuning.capacity) ∧ (g.slots = [] → h.slots = []) := by
  have total := sound.slots_length
  have bound := sound.slots_le
  rw [makeRoom] at made
  split at made
  · rename_i crowded
    have some_dead : 0 < g.tombstones := of_decide_eq_true (Bool.and_eq_true_iff.mp crowded).2
    have lands := sound.toBooked.compact_lands
    have packed : h.slots.length = g.entries.length := by
      rw [slots_rebuild made, List.length_map]
    rw [made] at lands
    have tuning_eq : h.tuning = g.tuning := lands.tuning_eq
    constructor
    · rw [isFull, packed, tuning_eq, decide_eq_true_eq]
      omega
    · intro none_made
      rw [none_made, List.length_nil] at total
      omega
  · rename_i roomy
    cases made
    refine ⟨?_, id⟩
    simp only [isFull, Bool.and_eq_true, decide_eq_true_eq] at roomy
    change decide (g.tuning.capacity ≤ g.slots.length) = true ↔ _
    rw [decide_eq_true_eq]
    omega

/-- What the addition of a vector that fits leaves depends on nothing but the live entries. -/
theorem Sound.add_lands (sound : g.Sound inserted) (id : String) (vector : Embedding)
    (accepted : rejection id vector g.entries.width = none) :
    Lands (g.add id vector) g.tuning (inserted ++ [⟨id, vector⟩]) (g.entries.push id vector) := by
  have inside : inserted.Sublist (inserted ++ [⟨id, vector⟩]) := List.sublist_append_left _ _
  obtain ⟨first, restarted, lands, fresh⟩ := sound.restart_eq
  rw [add_eq, sound.width_eq, accepted]
  simp only
  rw [restarted]
  apply lands.andThen inside
  intro _ made started sublist tuning_eq entries_eq same
  cases same
  rw [← tuning_eq, ← entries_eq]
  apply started.makeRoom_lands.andThen (sublist.trans inside)
  intro second held roomy shorter tuning_kept entries_kept done
  obtain ⟨full_iff, still_fresh⟩ := started.makeRoom_full done
  rw [← tuning_kept, ← entries_kept, insert]
  split
  · exact (roomy.failed (.graph _) _).widen ((shorter.trans sublist).trans inside)
  · rename_i free
    have lands := roomy.append_lands id vector (by rwa [entries_kept, entries_eq])
      (by simpa [isFull] using free) fun none_live => roomy.slots_eq_nil_iff.mp
        (still_fresh (fresh (by rw [← entries_eq, ← entries_kept, none_live])))
    exact lands.widen ((shorter.trans sublist).append_right _)

theorem Sound.add_ok (sound : g.Sound inserted) (supported : g.tuning.Supported) (id : String)
    (vector : Embedding) (taken : refusal g.tuning g.entries id vector = none) :
    (g.add id vector).1 = .ok () := by
  obtain ⟨accepted, room⟩ := (refusal_eq_none_iff _ _ _ _).mp taken
  obtain ⟨first, restarted, lands, fresh⟩ := sound.restart_eq
  obtain ⟨made, started, _⟩ := lands.sound (by simp [Attempt.done])
  replace started : first.Sound made := started
  have tuning_eq : first.tuning = g.tuning := lands.tuning_eq
  have entries_eq : first.entries = g.entries := lands.entries_eq rfl
  have roomy := started.makeRoom_lands
  obtain ⟨second, done⟩ : ∃ second, first.makeRoom = .done second :=
    ⟨_, Prod.ext (started.makeRoom_ok (tuning_eq ▸ supported)) rfl⟩
  obtain ⟨full_iff, still_fresh⟩ := started.makeRoom_full done
  rw [done] at roomy
  obtain ⟨held, ready, _⟩ := roomy.sound (by simp [Attempt.done])
  replace ready : second.Sound held := ready
  have tuning_kept : second.tuning = g.tuning := roomy.tuning_eq.trans tuning_eq
  have entries_kept : second.entries = g.entries := (roomy.entries_eq rfl).trans entries_eq
  rw [entries_eq, tuning_eq] at full_iff
  have free : ¬ second.isFull = true := fun crowded => room (full_iff.mp crowded)
  rw [add_eq, sound.width_eq, accepted]
  simp only [restarted, Attempt.andThen, Attempt.done, done, insert, if_neg free]
  apply ready.append_ok (tuning_kept ▸ supported) id vector (by rwa [entries_kept])
    (by simpa [isFull] using free)
  intro none_live
  exact ready.slots_eq_nil_iff.mp (still_fresh (fresh (by rw [← entries_kept, none_live])))

theorem Sound.add_of_refusal (sound : g.Sound inserted) {id : String} {vector : Embedding}
    {fault : Fault} (refused : refusal g.tuning g.entries id vector = some fault) :
    g.add id vector = .failed (.fault fault) g := by
  rw [add_eq, sound.width_eq]
  rw [refusal] at refused
  cases accepted : rejection id vector g.entries.width with
  | some cause =>
    rw [accepted] at refused
    cases refused
    rfl
  | none =>
    rw [accepted] at refused
    by_cases full : g.entries.length = g.tuning.capacity
    · simp only [if_pos full, Option.some.injEq] at refused
      subst refused
      have total := sound.slots_length
      have bound := sound.slots_le
      have all_live : g.tombstones = 0 := by omega
      have crowded : g.isFull = true := decide_eq_true (by omega)
      have not_dead : ¬ (g.places.isEmpty && g.nodes.isSome) = true := by
        intro dead
        rcases Bool.and_eq_true_iff.mp dead with ⟨no_places, some_nodes⟩
        have none_live := sound.entries_eq_nil_iff.mpr (List.isEmpty_iff.mp no_places)
        rw [none_live, List.length_nil, all_live] at total
        exact sound.nodes_isSome_iff.mp some_nodes (List.length_eq_zero_iff.mp total)
      have restarted : g.restart = .done g := by rw [restart, if_neg not_dead]
      have roomy : g.makeRoom = .done g := by
        rw [makeRoom, if_neg]
        simp [all_live]
      have inserted_eq : g.insert id vector = .failed (.fault (.graph .full)) g := by
        rw [insert, if_pos crowded]
      simp only [restarted, roomy, Attempt.andThen, Attempt.done, inserted_eq]
    · simp [full] at refused

end EmbeddingIndex.Graph
