import EmbeddingIndex.Proofs.Graph.Shelf
import EmbeddingIndex.Proofs.Loading
/-!
The graphs that changes lead to, from an empty one or from a batch, with the entries they were
given on the way. All of them are sound, whatever the library does and however a change ended, as long
as it ended at all. A crash is the end of a history.
-/

namespace EmbeddingIndex

def Change.given : Change → Entries
  | .add id vector => [⟨id, vector⟩]
  | .remove _ => []
  | .clear => []

namespace Graph

theorem gather_sound {entries live : Entries} (gathered : gather none [] entries = .ok live) :
    live.Sound := (Scan.hold_addAll ((gather_eq_ok_iff entries live).mp gathered)).1

/-- How the parts of a graph stand for its entries, also after a crash. A node is the unit vector of the
entry that its slot was made for, and a live slot holds that entry. -/
structure Tabled (tuning : Tuning) (g : Graph) (inserted : Entries) : Prop where
  slotOf_iff : ∀ id slot,
    g.slotOf id = some slot ↔ ∃ vector, g.slots[slot]? = some (some ⟨id, vector⟩)
  tombstones_eq : g.tombstones = g.slots.count none
  slots_length : g.slots.length = g.size + g.tombstones
  slots_le : g.slots.length ≤ tuning.effective.capacity
  tombstones_le : g.tombstones ≤ max 64 g.size
  made : List.Forall₂ (fun slot entry => slot = none ∨ slot = some entry) g.slots inserted
  nodes_prefix : inserted.map (·.vector.unit) <+: g.nodes.getD []
  entries_sound : g.entries.Sound
  place_live : ∀ place ∈ g.places, place.2 < g.slots.length ∧ (g.entryAt place.2).isSome = true
  width_eq_none_iff : g.width = none ↔ g.size = 0

/-- There are no nodes but those of the slots. -/
structure Represented (tuning : Tuning) (g : Graph) (inserted : Entries) : Prop
    extends Tabled tuning g inserted where
  nodes_isSome_iff : g.nodes.isSome = true ↔ g.slots ≠ []
  nodes_getD : g.nodes.getD [] = inserted.map (·.vector.unit)
  node_width : 0 < g.size → ∀ node ∈ g.nodes.getD [], g.width = some node.length

theorem Kept.tabled {tuning : Tuning} {g : Graph} {inserted : Entries} (kept : g.Kept inserted)
    (tuning_eq : g.tuning = tuning.effective) : Tabled tuning g inserted where
  slotOf_iff id slot := by rw [slotOf_eq_some_iff g kept.places_nodup, kept.mem_places_iff]
  tombstones_eq := kept.tombstones_eq
  slots_length := by
    rw [kept.size_eq]
    exact kept.slots_length
  slots_le := tuning_eq ▸ kept.slots_le
  tombstones_le := kept.tombstones_le
  made := kept.made
  nodes_prefix := kept.nodes_prefix
  entries_sound := kept.entries_sound
  place_live := kept.place_live
  width_eq_none_iff := kept.width_eq_none_iff

section

variable [Runtime]

/-- A batch is built in any order of its table, and the table of places may list its ids anew at
any time. -/
inductive Reached (tuning : Tuning) : Graph → Entries → Prop
  | fresh : Reached tuning (empty tuning) []
  | loaded (entries live order : Entries) (g : Graph) (gathered : gather none [] entries = .ok live)
      (same : live.Perm order) (built : (empty tuning).rebuild order = .done g) :
      Reached tuning g order
  | changed {g : Graph} {given : Entries} (reached : Reached tuning g given) (change : Change)
      (returned : (g.apply change).1 ≠ .error .crash) :
      Reached tuning (g.apply change).2 (given ++ change.given)
  | relisted {g : Graph} {given : Entries} (reached : Reached tuning g given)
      (places : List (String × Nat)) (same : g.places.Perm places) :
      Reached tuning { g with places } given

theorem Reached.ofEntries {tuning : Tuning} {entries : Entries} {g : Graph}
    (loaded : Graph.ofEntries tuning entries = .ok g) : ∃ order, Reached tuning g order := by
  obtain ⟨live, gathered, built⟩ := (ofEntries_eq_ok_iff tuning entries g).mp loaded
  exact ⟨live, .loaded entries live live g gathered (List.Perm.refl _) built⟩

variable {tuning : Tuning} {g : Graph} {given inserted : Entries}

theorem rebuilt_lands {order : Entries} {h : Graph} (sound : order.Sound)
    (built : g.rebuild order = .done h) : Lands (.done h) g.tuning order order :=
  built ▸ rebuild_lands g order sound

/-- The table of places lists its ids in any order, and a graph without tombstones may as well have
been built in another order. -/
inductive Relisted (g : Graph) : Graph → Prop
  | table (places : List (String × Nat)) (same : g.places.Perm places) :
      Relisted g { g with places }
  | batch (order : Entries) (h : Graph) (whole : g.tombstones = 0) (same : g.entries.Perm order)
      (built : g.rebuild order = .done h) : Relisted g h

theorem Relisted.perm {h : Graph} (relisted : g.Relisted h) : g.entries.Perm h.entries := by
  cases relisted with
  | table places same => exact List.Perm.refl _
  | batch order _ _ same built =>
    have entries_eq : h.entries = order := by
      rw [entries, slots_rebuild built, List.filterMap_map]
      exact List.filterMap_some
    rwa [entries_eq]

theorem Relisted.sound {h : Graph} (relisted : g.Relisted h) (sound : g.Sound inserted) :
    (∃ made, h.Sound made) ∧ h.tuning = g.tuning := by
  cases relisted with
  | table places same => exact ⟨⟨inserted, sound.relisted places same⟩, rfl⟩
  | batch order _ _ same built =>
    have lands := rebuilt_lands (sound.entries_sound.perm same) built
    rcases lands.sound (by simp [Attempt.done]) with ⟨made, kept, _⟩
    exact ⟨⟨made, kept⟩, lands.tuning_eq⟩

theorem Sound.apply_sound (sound : g.Sound inserted) (change : Change) :
    (g.apply change).2.tuning = g.tuning ∧
      (∃ made, (g.apply change).2.Kept made ∧ made.Sublist (inserted ++ change.given)) ∧
      ((g.apply change).1 ≠ .error .crash →
        ∃ made, (g.apply change).2.Sound made ∧ made.Sublist (inserted ++ change.given)) := by
  have inside : inserted.Sublist (inserted ++ change.given) := List.sublist_append_left _ _
  cases change with
  | add id vector =>
    cases taken : refusal g.tuning g.entries id vector with
    | some fault =>
      rw [apply, sound.add_of_refusal taken]
      exact ⟨rfl, ⟨inserted, sound.kept, inside⟩, fun _ => ⟨inserted, sound, inside⟩⟩
    | none =>
      have lands := sound.add_lands id vector ((refusal_eq_none_iff _ _ _ _).mp taken).1
      exact ⟨lands.tuning_eq, lands.kept, lands.sound⟩
  | remove id =>
    have lands := (sound.remove_lands id).widen inside
    exact ⟨lands.tuning_eq, lands.kept, lands.sound⟩
  | clear =>
    have empty := sound_clear g
    exact ⟨rfl, ⟨[], empty.kept, List.nil_sublist _⟩, fun _ => ⟨[], empty, List.nil_sublist _⟩⟩

theorem Reached.sound (reached : Reached tuning g given) :
    g.tuning = tuning.effective ∧ ∃ inserted, g.Sound inserted ∧ inserted.Sublist given := by
  induction reached with
  | fresh => exact ⟨rfl, [], sound_clear (empty tuning), List.Sublist.refl _⟩
  | loaded entries live order g gathered same built =>
    have lands := rebuilt_lands ((gather_sound gathered).perm same) built
    exact ⟨lands.tuning_eq, lands.sound (by simp [Attempt.done])⟩
  | changed _ change returned ih =>
    obtain ⟨tuning_eq, inserted, sound, inside⟩ := ih
    obtain ⟨tuning_kept, _, next⟩ := sound.apply_sound change
    obtain ⟨made, kept, sublist⟩ := next returned
    exact ⟨tuning_kept.trans tuning_eq, made, kept, sublist.trans (inside.append_right _)⟩
  | relisted _ places same ih =>
    obtain ⟨tuning_eq, inserted, sound, inside⟩ := ih
    exact ⟨tuning_eq, inserted, sound.relisted places same, inside⟩

/-- The parts of a graph fit together after any history of changes, also of failed ones. Where a change
crashes, there may be a node too many, but everything else still fits. -/
theorem Reached.represented (reached : Reached tuning g given) :
    (∃ inserted : Entries, inserted.Sublist given ∧ Represented tuning g inserted) ∧
      ∀ change, (g.apply change).1 = .error .crash → ∃ inserted : Entries,
        inserted.Sublist (given ++ change.given) ∧ Tabled tuning (g.apply change).2 inserted := by
  obtain ⟨tuning_eq, inserted, sound, inside⟩ := reached.sound
  constructor
  · exact ⟨inserted, inside, sound.kept.tabled tuning_eq, sound.nodes_isSome_iff, sound.nodes_getD,
      sound.node_width⟩
  · intro change _
    obtain ⟨tuning_kept, ⟨made, kept, sublist⟩, _⟩ := sound.apply_sound change
    exact ⟨made, sublist.trans (inside.append_right _), kept.tabled (tuning_kept.trans tuning_eq)⟩

end

def replaced : Graph :=
  (((empty .standard).apply (.add "a" [⟨0x3f800000⟩])).2.apply (.add "a" [⟨0xbf800000⟩])).2

def unheld : Tuning := ⟨1152921504606846976, 0, ⟨0⟩, 0, 0⟩

/-- A replaced vector keeps its node, under a tombstone. A crash over the first node leaves a graph
without slots. -/
theorem represented_replacement :
    (replaced.slots = [none, some ⟨"a", [⟨0xbf800000⟩]⟩] ∧
      replaced.nodes = some [[⟨0x3f800000⟩], [⟨0xbf800000⟩]] ∧
      ∃ inserted : Entries,
        inserted.Sublist [⟨"a", [⟨0x3f800000⟩]⟩, ⟨"a", [⟨0xbf800000⟩]⟩] ∧
          Represented .standard replaced inserted) ∧
      ((empty unheld).apply (.add "a" [⟨0x3f800000⟩])).1 = .error .crash ∧
      ((empty unheld).apply (.add "a" [⟨0x3f800000⟩])).2.nodes = some [] ∧
      ∃ inserted : Entries, inserted.Sublist [⟨"a", [⟨0x3f800000⟩]⟩] ∧
        Tabled unheld ((empty unheld).apply (.add "a" [⟨0x3f800000⟩])).2 inserted := by
  have start : Reached .standard (empty .standard) [] := .fresh
  have first := start.changed (.add "a" [⟨0x3f800000⟩]) (by decide +kernel)
  have second := first.changed (.add "a" [⟨0xbf800000⟩]) (by decide +kernel)
  have other : Reached unheld (empty unheld) [] := .fresh
  refine ⟨⟨by decide +kernel, by decide +kernel, (Reached.represented second).1⟩, by decide +kernel,
    by decide +kernel, ?_⟩
  exact (Reached.represented other).2 (.add "a" [⟨0x3f800000⟩]) (by decide +kernel)

end Graph

end EmbeddingIndex
