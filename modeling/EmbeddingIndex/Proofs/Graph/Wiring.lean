import EmbeddingIndex.Graph
import EmbeddingIndex.Proofs.Entries
/-!
How the parts of a graph fit together between its operations. The table of places and the live
slots mirror each other, tombstones are counted, and every slot has the node that was made for it.
-/

namespace EmbeddingIndex.Graph

/-- `inserted` are the entries that the slots were made for, also where a tombstone is left. -/
structure Booked (g : Graph) (inserted : Entries) : Prop where
  places_nodup : (g.places.map (·.1)).Nodup
  mem_places_iff : ∀ id slot,
    (id, slot) ∈ g.places ↔ ∃ vector, g.slots[slot]? = some (some ⟨id, vector⟩)
  tombstones_eq : g.tombstones = g.slots.count none
  slots_le : g.slots.length ≤ g.tuning.capacity
  made : List.Forall₂ (fun slot entry => slot = none ∨ slot = some entry) g.slots inserted
  storable : ∀ entry ∈ inserted, entry.vector ≠ [] ∧ entry.vector.isFinite = true
  even : ∀ a ∈ inserted, ∀ b ∈ inserted, a.vector.length = b.vector.length

structure Wired (g : Graph) (inserted : Entries) : Prop extends Booked g inserted where
  nodes_eq : g.nodes = if inserted = [] then none else some (inserted.map (·.vector.unit))

/-- What holds after every operation that returns, when tombstones have been looked after. -/
structure Sound (g : Graph) (inserted : Entries) : Prop extends Wired g inserted where
  tombstones_le : g.tombstones ≤ max tombstoneFloor g.size

/-- What holds after a crash too. Behind the nodes of the slots there may be one that no slot accounts
for. -/
structure Kept (g : Graph) (inserted : Entries) : Prop extends Booked g inserted where
  tombstones_le : g.tombstones ≤ max tombstoneFloor g.size
  nodes_prefix : inserted.map (·.vector.unit) <+: g.nodes.getD []

theorem place_unique (places : List (String × Nat)) (unique : (places.map (·.1)).Nodup)
    (id : String) (first second : Nat) (atFirst : (id, first) ∈ places)
    (atSecond : (id, second) ∈ places) : first = second := by
  have same := List.inj_on_of_nodup_map unique atFirst atSecond rfl
  exact (Prod.mk.inj same).2

theorem slotOf_eq_some_iff (g : Graph) (unique : (g.places.map (·.1)).Nodup) (id : String)
    (slot : Nat) : g.slotOf id = some slot ↔ (id, slot) ∈ g.places := by
  rw [slotOf, List.lookup_eq_some_iff]
  constructor
  · rintro ⟨before, after, split, _⟩
    rw [split]
    exact List.mem_append_right _ List.mem_cons_self
  · intro member
    obtain ⟨before, after, split⟩ := List.append_of_mem member
    refine ⟨before, after, split, ?_⟩
    intro place earlier
    rw [split, List.map_append, List.nodup_append] at unique
    have other := unique.2.2 place.1 (List.mem_map_of_mem earlier) id (by simp)
    simpa using other.symm

theorem slotOf_eq_none_iff (g : Graph) (id : String) :
    g.slotOf id = none ↔ id ∉ g.places.map (·.1) := by
  simp only [slotOf, List.lookup_eq_none_iff, bne_iff_ne, List.mem_map, not_exists, not_and]
  exact forall_congr' fun place => forall_congr' fun _ => ne_comm

theorem setPlace_perm (places : List (String × Nat)) (unique : (places.map (·.1)).Nodup)
    (id : String) (slot : Nat) :
    (setPlace id slot places).Perm ((id, slot) :: places.filter (·.1 ≠ id)) := by
  induction places with
  | nil => exact List.Perm.refl _
  | cons place rest ih =>
    obtain ⟨fresh, unique⟩ := List.nodup_cons.mp unique
    by_cases here : place.1 = id
    · have rest_kept : rest.filter (·.1 ≠ id) = rest := by
        apply List.filter_eq_self.mpr
        intro other member
        have different : other.1 ≠ id := fun same =>
          fresh (List.mem_map.mpr ⟨other, member, same.trans here.symm⟩)
        simpa using different
      rw [setPlace, if_pos here, List.filter_cons_of_neg (by simpa using here), rest_kept]
    · rw [setPlace, if_neg here, List.filter_cons_of_pos (by simpa using here)]
      exact ((ih unique).cons place).trans (List.Perm.swap _ _ _)

theorem filterMap_set_none (slots : List (Option Entry)) (slot : Nat) (entry : Entry)
    (present : slots[slot]? = some (some entry))
    (unique : (Entries.ids (slots.filterMap id)).Nodup) :
    (slots.set slot none).filterMap id = Entries.erase (slots.filterMap id) entry.id := by
  induction slots generalizing slot with
  | nil => cases present
  | cons head rest ih =>
    cases slot with
    | zero =>
      have held : head = some entry := by simpa using present
      subst held
      obtain ⟨fresh, _⟩ := List.nodup_cons.mp unique
      change rest.filterMap id = Entries.erase (entry :: rest.filterMap id) entry.id
      rw [Entries.erase, List.filter_cons_of_neg (by simp)]
      exact (Entries.erase_of_absent _ _ fresh).symm
    | succ slot =>
      rw [List.getElem?_cons_succ] at present
      cases head with
      | none => exact ih slot present unique
      | some other =>
        obtain ⟨fresh, unique⟩ := List.nodup_cons.mp unique
        have member : entry ∈ rest.filterMap id :=
          List.mem_filterMap.mpr ⟨some entry, List.mem_of_getElem? present, rfl⟩
        have different : other.id ≠ entry.id := fun same =>
          fresh (List.mem_map.mpr ⟨entry, member, same.symm⟩)
        change other :: (rest.set slot none).filterMap id =
          Entries.erase (other :: rest.filterMap id) entry.id
        rw [Entries.erase, List.filter_cons_of_pos (by simpa using different), ih slot present unique]
        rfl

theorem getElem?_append_some_iff (slots : List (Option Entry)) (entry held : Entry) (slot : Nat) :
    (slots ++ [some entry])[slot]? = some (some held) ↔
      slots[slot]? = some (some held) ∨ slot = slots.length ∧ held = entry := by
  rcases Nat.lt_trichotomy slot slots.length with old | new | beyond
  · rw [List.getElem?_append_left old]
    constructor
    · exact Or.inl
    · rintro (live | ⟨new, _⟩)
      · exact live
      · omega
  · subst new
    rw [List.getElem?_concat_length, List.getElem?_eq_none (Nat.le_refl _)]
    simp [eq_comm]
  · have past : (slots ++ [some entry])[slot]? = none :=
      List.getElem?_eq_none (by rw [List.length_append, List.length_singleton]; omega)
    rw [past, List.getElem?_eq_none (Nat.le_of_lt beyond)]
    constructor
    · intro none_live
      cases none_live
    · rintro (none_live | ⟨new, _⟩)
      · cases none_live
      · omega

theorem length_slots (slots : List (Option Entry)) :
    slots.length = (slots.filterMap id).length + slots.count none := by
  induction slots with
  | nil => rfl
  | cons head rest ih => cases head <;> simp [ih] <;> omega

theorem filterMap_sublist {slots : List (Option Entry)} {inserted : Entries}
    (made : List.Forall₂ (fun slot entry => slot = none ∨ slot = some entry) slots inserted) :
    (slots.filterMap id).Sublist inserted := by
  induction made with
  | nil => exact List.Sublist.slnil
  | cons held _ ih =>
    rcases held with rfl | rfl
    · exact ih.cons _
    · exact ih.cons_cons _

theorem forall₂_set_none {slots : List (Option Entry)} {inserted : Entries}
    (made : List.Forall₂ (fun slot entry => slot = none ∨ slot = some entry) slots inserted)
    (slot : Nat) :
    List.Forall₂ (fun slot entry => slot = none ∨ slot = some entry) (slots.set slot none) inserted := by
  induction made generalizing slot with
  | nil => exact List.Forall₂.nil
  | cons held rest ih =>
    cases slot with
    | zero => exact List.Forall₂.cons (Or.inl rfl) rest
    | succ slot => exact List.Forall₂.cons held (ih slot)

theorem mem_entries_iff (g : Graph) (entry : Entry) :
    entry ∈ g.entries ↔ ∃ slot : Nat, g.slots[slot]? = some (some entry) := by
  rw [Graph.entries, List.mem_filterMap]
  simp only [id_eq, exists_eq_right, List.mem_iff_getElem?]

theorem length_unit (vector : Embedding) : vector.unit.length = vector.length := by
  rw [Embedding.unit]
  split
  · rfl
  · exact List.length_map _

namespace Booked

variable {g : Graph} {inserted : Entries}

theorem entries_sublist (booked : g.Booked inserted) : g.entries.Sublist inserted :=
  filterMap_sublist booked.made

theorem ids_nodup (booked : g.Booked inserted) : g.entries.ids.Nodup := by
  rw [Entries.ids, List.Nodup, List.pairwise_map, Graph.entries, List.pairwise_filterMap,
    List.pairwise_iff_getElem]
  intro i j hi hj before first atFirst second atSecond same
  simp only [id_eq] at atFirst atSecond
  have placeFirst : (first.id, i) ∈ g.places :=
    (booked.mem_places_iff _ _).mpr ⟨first.vector, by rw [List.getElem?_eq_getElem hi, atFirst]⟩
  have placeSecond : (first.id, j) ∈ g.places :=
    (booked.mem_places_iff _ _).mpr
      ⟨second.vector, by rw [List.getElem?_eq_getElem hj, atSecond, same]⟩
  have equal := place_unique g.places booked.places_nodup _ i j placeFirst placeSecond
  omega

theorem entries_sound (booked : g.Booked inserted) : g.entries.Sound :=
  have inside := booked.entries_sublist.subset
  ⟨booked.ids_nodup, fun entry member => booked.storable entry (inside member),
    fun a ha b hb => booked.even a (inside ha) b (inside hb)⟩

theorem mem_ids_iff (booked : g.Booked inserted) (id : String) :
    id ∈ g.entries.ids ↔ id ∈ g.places.map (·.1) := by
  simp only [Entries.ids, List.mem_map, mem_entries_iff]
  constructor
  · rintro ⟨entry, ⟨slot, held⟩, rfl⟩
    exact ⟨(entry.id, slot), (booked.mem_places_iff _ _).mpr ⟨entry.vector, held⟩, rfl⟩
  · rintro ⟨⟨key, slot⟩, member, rfl⟩
    obtain ⟨vector, held⟩ := (booked.mem_places_iff _ _).mp member
    exact ⟨⟨key, vector⟩, ⟨slot, held⟩, rfl⟩

theorem size_eq (booked : g.Booked inserted) : g.size = g.entries.length := by
  have same : g.entries.ids.Perm (g.places.map (·.1)) :=
    (List.perm_ext_iff_of_nodup booked.ids_nodup booked.places_nodup).mpr booked.mem_ids_iff
  simpa [Entries.ids, size] using same.length_eq.symm

theorem slots_length (booked : g.Booked inserted) :
    g.slots.length = g.entries.length + g.tombstones := by
  rw [booked.tombstones_eq]
  exact length_slots g.slots

theorem length_le (booked : g.Booked inserted) : g.entries.length ≤ g.tuning.capacity := by
  have total := booked.slots_length
  have bound := booked.slots_le
  omega

theorem entries_eq_nil_iff (booked : g.Booked inserted) : g.entries = [] ↔ g.places = [] := by
  rw [← List.length_eq_zero_iff, ← booked.size_eq, size, List.length_eq_zero_iff]

theorem slots_eq_nil_iff (booked : g.Booked inserted) : g.slots = [] ↔ inserted = [] := by
  rw [← List.length_eq_zero_iff, ← List.length_eq_zero_iff, booked.made.length_eq]

theorem width_eq (booked : g.Booked inserted) : g.width = g.entries.width := by
  cases places : g.places with
  | nil =>
    have none_live : g.entries.length = 0 := by rw [← booked.size_eq, size, places]; rfl
    rw [List.length_eq_zero_iff.mp none_live, width, places]
    rfl
  | cons place rest =>
    obtain ⟨vector, held⟩ := (booked.mem_places_iff place.1 place.2).mp (by simp [places])
    have member := (g.mem_entries_iff _).mpr ⟨place.2, held⟩
    rw [booked.entries_sound.width_eq _ member, width, places]
    simp [entryAt, held]

theorem width_eq_none_iff (booked : g.Booked inserted) : g.width = none ↔ g.size = 0 := by
  rw [booked.width_eq, booked.size_eq, Entries.width_eq_none_iff, List.length_eq_zero_iff]

theorem place_live (booked : g.Booked inserted) (place : String × Nat) (member : place ∈ g.places) :
    place.2 < g.slots.length ∧ (g.entryAt place.2).isSome = true := by
  obtain ⟨vector, held⟩ := (booked.mem_places_iff place.1 place.2).mp member
  exact ⟨(List.getElem?_eq_some_iff.mp held).1, by rw [entryAt, held]; rfl⟩

end Booked

namespace Wired

variable {g : Graph} {inserted : Entries}

theorem nodes_isSome_iff (wired : g.Wired inserted) : g.nodes.isSome = true ↔ g.slots ≠ [] := by
  rw [wired.nodes_eq, Ne, wired.slots_eq_nil_iff]
  by_cases empty : inserted = [] <;> simp [empty]

theorem nodes_getD (wired : g.Wired inserted) :
    g.nodes.getD [] = inserted.map (·.vector.unit) := by
  rw [wired.nodes_eq]
  by_cases empty : inserted = [] <;> simp [empty]

theorem node_width (wired : g.Wired inserted) (live : 0 < g.size) (node : Embedding)
    (member : node ∈ g.nodes.getD []) : g.width = some node.length := by
  rw [wired.nodes_getD] at member
  obtain ⟨made, inside, rfl⟩ := List.mem_map.mp member
  rw [wired.size_eq, List.length_pos_iff_exists_mem] at live
  obtain ⟨entry, present⟩ := live
  rw [wired.width_eq, wired.entries_sound.width_eq entry present, length_unit,
    wired.even entry (wired.entries_sublist.subset present) made inside]

theorem length_nodes (wired : g.Wired inserted) :
    (g.nodes.getD []).length = g.slots.length := by
  rw [wired.nodes_getD, List.length_map, wired.made.length_eq]

end Wired

theorem Sound.kept_with {g : Graph} {inserted : Entries} (sound : g.Sound inserted)
    {nodes : List Embedding} (more : g.nodes.getD [] <+: nodes) :
    Kept { g with nodes := some nodes } inserted where
  places_nodup := sound.places_nodup
  mem_places_iff := sound.mem_places_iff
  tombstones_eq := sound.tombstones_eq
  slots_le := sound.slots_le
  made := sound.made
  storable := sound.storable
  even := sound.even
  tombstones_le := sound.tombstones_le
  nodes_prefix := by rwa [← sound.nodes_getD]

theorem Sound.kept {g : Graph} {inserted : Entries} (sound : g.Sound inserted) : g.Kept inserted :=
  ⟨sound.toBooked, sound.tombstones_le, sound.nodes_getD ▸ List.prefix_refl _⟩

end EmbeddingIndex.Graph
