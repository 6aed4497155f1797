import EmbeddingIndex.Scan
import EmbeddingIndex.Graph
import EmbeddingIndex.Proofs.Contents
/-!
Loading entries one after another. A batch for the graph is gathered exactly as a scan would add
it, the last vector of each id wins, and entries that can stand together load as they are.
-/

namespace EmbeddingIndex

namespace Entries

theorem width_put (entries : Entries) (id : String) (vector : Embedding)
    (accepted : rejection id vector entries.width = none) :
    (entries.put id vector).width = some vector.length := by
  cases entries with
  | nil => rfl
  | cons head tail =>
    obtain ⟨_, _, fits⟩ := (rejection_eq_none_iff id vector _).mp accepted
    rw [put]
    split
    · rfl
    · exact congrArg some (fits _ rfl)

theorem put_of_absent (entries : Entries) (id : String) (vector : Embedding)
    (absent : id ∉ entries.ids) : entries.put id vector = entries ++ [⟨id, vector⟩] := by
  induction entries with
  | nil => rfl
  | cons head tail ih =>
    have other : id ≠ head.id := List.ne_of_not_mem_cons absent
    rw [put, if_neg other.symm, ih (List.not_mem_of_not_mem_cons absent)]
    rfl

theorem Sound.accepts {before after : Entries} {entry : Entry}
    (sound : Sound (before ++ entry :: after)) :
    rejection entry.id entry.vector before.width = none ∧ entry.id ∉ before.ids := by
  have member : entry ∈ before ++ entry :: after := List.mem_append_right _ List.mem_cons_self
  constructor
  · obtain ⟨filled, finite⟩ := sound.storable entry member
    refine (rejection_eq_none_iff _ _ _).mpr ⟨filled, finite, ?_⟩
    intro width established
    cases before with
    | nil => cases established
    | cons head tail =>
      rw [← Option.some.inj established]
      exact sound.even head List.mem_cons_self entry member
  · have unique := sound.ids_nodup
    rw [ids, List.map_append, List.nodup_append] at unique
    intro earlier
    exact unique.2.2 _ earlier _ List.mem_cons_self rfl

end Entries

namespace Scan

theorem addAll_sound (s : Scan) (rest : Entries) (sound : s.entries.Sound) :
    (s.addAll rest).2.entries.Sound := by
  induction rest generalizing s with
  | nil => exact sound
  | cons entry rest ih =>
    rw [addAll, add, width]
    cases accepted : rejection entry.id entry.vector s.entries.width with
    | some fault => exact sound
    | none => exact ih _ (sound.put entry.id entry.vector accepted)

theorem lookup_addAll (s loaded : Scan) (rest : Entries) (m : Contents)
    (start : ∀ id, s.entries.lookup id = m id) (added : s.addAll rest = .done loaded) (id : String) :
    loaded.entries.lookup id = m.setAll rest id := by
  induction rest generalizing s m with
  | nil =>
    cases added
    exact start id
  | cons entry rest ih =>
    rw [addAll, add, width] at added
    cases accepted : rejection entry.id entry.vector s.entries.width with
    | some fault =>
      rw [accepted] at added
      cases added
    | none =>
      rw [accepted] at added
      apply ih ⟨s.entries.put entry.id entry.vector⟩ (m.set entry.id entry.vector) _ added
      intro key
      rw [Entries.lookup_put, Contents.set_apply, start]

theorem addAll_of_sound (before rest : Entries) (sound : Entries.Sound (before ++ rest)) :
    (Scan.mk before).addAll rest = .done ⟨before ++ rest⟩ := by
  induction rest generalizing before with
  | nil => rw [List.append_nil]; rfl
  | cons entry rest ih =>
    obtain ⟨accepted, absent⟩ := sound.accepts
    rw [addAll, add, width, accepted]
    change (Scan.mk (before.put entry.id entry.vector)).addAll rest = _
    rw [Entries.put_of_absent before _ _ absent, ih, List.append_assoc]
    · rfl
    · rwa [List.append_assoc]

theorem hold_addAll {entries : Entries} {s : Scan} (added : Scan.empty.addAll entries = .done s) :
    s.entries.Sound ∧ s.entries.Hold (Contents.ofEntries entries) := by
  have sound := addAll_sound Scan.empty entries Entries.sound_nil
  rw [added] at sound
  exact ⟨sound, sound.ids_nodup, lookup_addAll Scan.empty s entries Contents.empty (fun _ => rfl) added⟩

end Scan

theorem Graph.gather_eq_addAll (live rest : Entries) :
    gather live.width live rest =
      match (Scan.mk live).addAll rest with
      | (.ok _, s) => .ok s.entries
      | (.error fault, _) => .error fault := by
  induction rest generalizing live with
  | nil => rfl
  | cons entry rest ih =>
    rw [gather, Scan.addAll, Scan.add, Scan.width]
    cases accepted : rejection entry.id entry.vector live.width with
    | some fault => rfl
    | none =>
      simp only
      rw [← Entries.width_put live entry.id entry.vector accepted, ih]
      rfl

theorem Graph.gather_eq_ok_iff (entries live : Entries) :
    gather none [] entries = .ok live ↔ Scan.empty.addAll entries = .done ⟨live⟩ := by
  change gather (Entries.width []) [] entries = .ok live ↔ _
  rw [gather_eq_addAll]
  change (match Scan.empty.addAll entries with
    | (.ok _, s) => Except.ok s.entries
    | (.error fault, _) => .error fault) = .ok live ↔ _
  rcases Scan.empty.addAll entries with ⟨fault | _, s⟩
  · simp [Attempt.done]
  · cases s
    simp [Attempt.done]

theorem Graph.ofEntries_eq_ok_iff [Runtime] (tuning : Tuning) (entries : Entries) (g : Graph) :
    Graph.ofEntries tuning entries = .ok g ↔
      ∃ live, gather none [] entries = .ok live ∧ (empty tuning).rebuild live = .done g := by
  rw [Graph.ofEntries]
  cases gather none [] entries with
  | error fault => simp
  | ok live =>
    simp only [Except.ok.injEq, exists_eq_left']
    rcases (empty tuning).rebuild live with ⟨halt | _, h⟩ <;> simp [Attempt.done]

end EmbeddingIndex
