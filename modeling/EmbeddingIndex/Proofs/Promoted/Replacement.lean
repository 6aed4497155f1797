import EmbeddingIndex.Proofs.Promoted
/-!
A vector for an id that has one already. The graph gives it a slot of its own before the old slot is
buried, so a graph with a live entry for each of its places has no room for it. Everywhere else the
new vector takes the old one's place and the other entries stay.
-/

namespace EmbeddingIndex

namespace Promoted

structure Replaced (p : Promoted) (id : String) (vector : Embedding)
    (attempt : Attempt Halt Promoted) : Prop where
  outcome_eq : attempt.1 = .ok ()
  size_eq : attempt.2.size = p.size
  entries_perm : attempt.2.entries.Perm (p.entries.put id vector)
  ids_nodup : attempt.2.entries.ids.Nodup
  lookup_eq : ∀ key,
    attempt.2.entries.lookup key = if id = key then some vector else p.entries.lookup key

/-- Live entries take up the whole graph. -/
def Crammed (settings : Settings) (p : Promoted) : Prop :=
  p.engine = .graph ∧ p.size = settings.effective.tuning.capacity

section

variable {settings : Settings} {p : Promoted} {id : String} {vector : Embedding}

theorem sane_of_width {width : Nat} (shown : p.width = some width) : p.poisoned = false := by
  cases harmed : p.poisoned with
  | false => rfl
  | true =>
    rw [Promoted.width, if_pos harmed] at shown
    cases shown

variable [Runtime]

theorem Sound.crammed_iff (sound : p.Sound settings) (sane : p.poisoned = false) :
    p.Crammed settings ↔ Engine.choose settings.preference .here = .graph ∧
      p.entries.length = settings.effective.tuning.capacity := by
  rw [Crammed, sound.engine_eq, sound.size_eq sane]

theorem sane_of_add (added : (p.add id vector).1 = .ok ()) : p.poisoned = false := by
  cases harmed : p.poisoned with
  | false => rfl
  | true =>
    rw [Promoted.add, change_of_poisoned _ harmed] at added
    cases added

theorem Sound.accepted_of_add (sound : p.Sound settings) (added : (p.add id vector).1 = .ok ()) :
    rejection id vector p.entries.width = none := by
  cases rejected : rejection id vector p.entries.width with
  | none => rfl
  | some fault =>
    rw [sound.add_of_refusal (sane_of_add added) (refusal_of_rejected settings rejected)] at added
    cases added

theorem Sound.replaced_of_taken (sound : p.Sound settings) (sane : p.poisoned = false)
    (supported : settings.Supported) (stored : id ∈ p.entries.ids)
    (accepted : rejection id vector p.entries.width = none)
    (taken : refusal settings p.entries id vector = none) :
    Replaced p id vector (p.add id vector) := by
  have unique := (sound.backend sane).entries.ids_nodup
  have lands := sound.add_lands sane id vector accepted
  have added := sound.add_ok sane supported taken
  have sane_after : (p.add id vector).2.poisoned = false := by
    rw [lands.poisoned_eq, added]
    rfl
  have held : (p.add id vector).2.entries.Perm (p.entries.put id vector) :=
    (lands.entries_perm added).trans (Entries.put_perm_push _ _ _ unique).symm
  have unique_after := (lands.sound.backend sane_after).entries.ids_nodup
  refine ⟨added, ?_, held, unique_after, ?_⟩
  · calc
      (p.add id vector).2.size = (p.add id vector).2.entries.length :=
        lands.sound.size_eq sane_after
      _ = (p.entries.put id vector).length := held.length_eq
      _ = p.entries.length := Entries.length_put_of_mem _ _ _ stored
      _ = p.size := (sound.size_eq sane).symm
  · intro key
    rw [Entries.lookup_perm held unique_after, Entries.lookup_put]

theorem Sound.replace (sound : p.Sound settings) (supported : settings.Supported)
    (stored : id ∈ p.entries.ids) (filled : vector ≠ []) (finite : vector.isFinite = true)
    (fits : p.width = some vector.length) :
    (¬ p.Crammed settings → Replaced p id vector (p.add id vector)) ∧
      (p.Crammed settings → p.add id vector = .failed (.fault (.graph .full)) p) := by
  have sane := sane_of_width fits
  have accepted : rejection id vector p.entries.width = none := by
    rw [sound.width_eq sane] at fits
    refine (rejection_eq_none_iff id vector _).mpr ⟨filled, finite, ?_⟩
    intro width established
    exact Option.some.inj (established.symm.trans fits)
  rw [sound.crammed_iff sane]
  rcases refusal_of_accepted settings accepted with ⟨taken, room⟩ | ⟨refused, crammed⟩
  · exact ⟨fun _ => sound.replaced_of_taken sane supported stored accepted taken,
      fun crammed => absurd crammed room⟩
  · exact ⟨fun room => absurd crammed room, fun _ => sound.add_of_refusal sane refused⟩

theorem Sound.stored_of_add (sound : p.Sound settings) (added : (p.add id vector).1 = .ok ()) :
    (p.add id vector).2.entries.lookup id = some vector ∧ vector ≠ [] ∧ vector.isFinite = true ∧
      (p.add id vector).2.width = some vector.length := by
  have sane := sane_of_add added
  have lands := sound.add_lands sane id vector (sound.accepted_of_add added)
  have sane_after : (p.add id vector).2.poisoned = false := by
    rw [lands.poisoned_eq, added]
    rfl
  have together := (lands.sound.backend sane_after).entries
  have found : (p.add id vector).2.entries.lookup id = some vector := by
    rw [Entries.lookup_perm (lands.entries_perm added) together.ids_nodup,
      Entries.lookup_push p.entries id id vector (sound.backend sane).entries.ids_nodup, if_pos rfl]
  have member := (Entries.lookup_eq_some_iff _ together.ids_nodup id vector).mp found
  obtain ⟨filled, finite⟩ := together.storable _ member
  exact ⟨found, filled, finite,
    (lands.sound.width_eq sane_after).trans (together.width_eq _ member)⟩

/-- A fitting vector for a stored id takes the old one's place, unless live entries take up the whole
graph, which then refuses it and stays as it is. To repeat an addition that succeeded changes nothing
either way. -/
theorem Reachable.replacement (reachable : Reachable settings p) (supported : settings.Supported) :
    (∀ id (vector : Embedding), id ∈ p.entries.ids → vector ≠ [] → vector.isFinite = true →
        p.width = some vector.length →
        (¬ p.Crammed settings → Replaced p id vector (p.add id vector)) ∧
          (p.Crammed settings → p.add id vector = .failed (.fault (.graph .full)) p)) ∧
      ∀ id vector, (p.add id vector).1 = .ok () →
        ((p.add id vector).2.add id vector).2.entries.Perm (p.add id vector).2.entries := by
  have sound := reachable.sound
  constructor
  · intro id vector stored filled finite fits
    exact sound.replace supported stored filled finite fits
  · intro id vector added
    obtain ⟨found, filled, finite, fits⟩ := sound.stored_of_add added
    have stored : id ∈ (p.add id vector).2.entries.ids := by
      by_contra absent
      rw [(Entries.lookup_eq_none_iff _ id).mpr absent] at found
      cases found
    -- The second addition is a replacement by the same vector, or the first one used up the graph.
    obtain ⟨replaced, refused⟩ := (sound.add id vector).replace supported stored filled finite fits
    by_cases crammed : (p.add id vector).2.Crammed settings
    · rw [refused crammed]
      exact List.Perm.refl _
    · have held := (replaced crammed).entries_perm
      rwa [Entries.put_of_lookup _ _ _ found] at held

end

def recycled : Promoted :=
  let first := ((fresh ⟨1, none, .graph, ⟨0, 0, ⟨0⟩, 0, 2⟩⟩).add "a" [⟨0x3f800000⟩]).2
  (first.add "a" [⟨0x40000000⟩]).2

theorem replacement_recycled :
    "a" ∈ recycled.entries.ids ∧ recycled.width = some 1 ∧
      Replaced recycled "a" [⟨0x40400000⟩] (recycled.add "a" [⟨0x40400000⟩]) ∧
      ((recycled.add "a" [⟨0x40400000⟩]).2.add "a" [⟨0x40400000⟩]).2.entries.Perm
        (recycled.add "a" [⟨0x40400000⟩]).2.entries := by
  have start : Reachable ⟨1, none, .graph, ⟨0, 0, ⟨0⟩, 0, 2⟩⟩ _ := .created ⟨[], []⟩ _ (by rfl)
  have reachable := (start.added "a" [⟨0x3f800000⟩]).added "a" [⟨0x40000000⟩]
  have supported : Settings.Supported ⟨1, none, .graph, ⟨0, 0, ⟨0⟩, 0, 2⟩⟩ := fun _ =>
    Tuning.supported_of_held (by decide) (by decide)
  obtain ⟨replace, again⟩ := Reachable.replacement reachable supported
  have stored : "a" ∈ recycled.entries.ids := by decide
  have shown : recycled.width = some 1 := by rfl
  have room : ¬ recycled.Crammed ⟨1, none, .graph, ⟨0, 0, ⟨0⟩, 0, 2⟩⟩ := fun crammed =>
    absurd crammed.2 (by decide)
  exact ⟨stored, shown, (replace "a" [⟨0x40400000⟩] stored (by decide) (by rfl) shown).1 room,
    again "a" [⟨0x40400000⟩] (by rfl)⟩

/-- The graph of one place has none left for a second vector of its only id. -/
theorem add_of_crammed :
    ¬ ∀ (settings : Settings) (p : Promoted), Reachable settings p →
      ∀ id (vector : Embedding), id ∈ p.entries.ids → vector ≠ [] → vector.isFinite = true →
        p.width = some vector.length → (p.add id vector).1 = .ok () := by
  intro succeeds
  have start : Reachable ⟨1, none, .graph, ⟨0, 0, ⟨0⟩, 0, 1⟩⟩ _ := .created ⟨[], []⟩ _ (by rfl)
  have stored := succeeds _ _ (start.added "a" [⟨0x3f800000⟩]) "a" [⟨0x40000000⟩] (by decide)
    (by decide) (by rfl) (by rfl)
  cases stored

end Promoted

end EmbeddingIndex
