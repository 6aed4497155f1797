import EmbeddingIndex.Proofs.Tiered.Reachable
import Mathlib.Data.Set.Card
/-!
The tiered index is a map from ids to vectors. Neither a promotion nor its failure shows in it.
-/

namespace EmbeddingIndex

namespace Contents

def initial (settings : Settings) (files : FileTree) : Contents :=
  match settings.effective.dir with
  | none => empty
  | some path =>
    if SnapshotFile.existsIn files path then
      match SnapshotFile.read files path with
      | .ok snapshot => ofEntries snapshot.entries
      | .error _ => empty
    else empty

/-- A promotion that failed has stored the vector all the same. -/
def settle (m : Contents) (id : String) (vector : Embedding) : Except Halt Unit → Contents
  | .ok _ => m.set id vector
  | .error (.fault (.construction _)) => m.set id vector
  | .error (.fault (.copy _ _)) => m.set id vector
  | .error _ => m

/-- What an operation makes of the contents, judged by its answer alone. -/
def after [Runtime] (m : Contents) (t : Tiered) (files : FileTree) : Operation → Contents
  | .add id vector => m.settle id vector (t.add id vector files).answer
  | .remove id =>
    match (t.remove id files).answer with
    | .ok _ => m.unset id
    | .error _ => m
  | .search _ _ => m
  | .save => m
  | .close => m

end Contents

theorem Entries.Hold.ncard_eq {entries : Entries} {m : Contents} (hold : entries.Hold m) :
    {id | m id ≠ none}.ncard = entries.length := by
  have same : {id | m id ≠ none} = (entries.ids.toFinset : Set String) := by
    ext id
    simp only [Set.mem_ofPred_eq, Finset.mem_coe, List.mem_toFinset, Entries.ids, List.mem_map]
    rw [Option.ne_none_iff_exists']
    constructor
    · rintro ⟨vector, leads⟩
      exact ⟨⟨id, vector⟩, (hold.mem_iff id vector).mpr leads, rfl⟩
    · rintro ⟨entry, member, rfl⟩
      exact ⟨entry.vector, (hold.mem_iff entry.id entry.vector).mp member⟩
  rw [same, Set.ncard_coe_finset, List.toFinset_card_of_nodup hold.ids_nodup, Entries.ids,
    List.length_map]

namespace Tiered

theorem settle_of_barrier {t : Tiered} {m : Contents} {fault : Fault}
    (barrier : t.barrier = some fault) (id : String) (vector : Embedding) :
    m.settle id vector (.error (.fault fault)) = m := by
  rcases barrier_cases barrier with rfl | rfl <;> rfl

section

variable [Runtime] {settings : Settings} {files : FileTree} {t : Tiered} {m : Contents}

/-- Runs of an index that stays open, with the contents that its answers tell. The files may be
others at every step. -/
inductive Traced (settings : Settings) (files : FileTree) : Tiered → Contents → Prop
  | created {t : Tiered} (rest : FileTree) (made : create settings files = (.ok t, rest)) :
      Traced settings files t (Contents.initial settings files)
  | stepped {t : Tiered} {m : Contents} (traced : Traced settings files t m) (around : FileTree)
      (op : Operation) (open_still : op ≠ .close) :
      Traced settings files (t.after around op) (m.after t around op)
  | relisted {t : Tiered} {m : Contents} (traced : Traced settings files t m) (active : Active)
      (same : t.active.Relisted active) : Traced settings files { t with active } m

theorem create_hold {rest : FileTree} (made : create settings files = (.ok t, rest)) :
    t.closed = false ∧ t.entries.Hold (Contents.initial settings files) := by
  rcases create_cases made with ⟨rfl, absent⟩ | ⟨path, snapshot, p, dir, there, read, loaded, rfl⟩
  · refine ⟨rfl, ?_⟩
    have start : Contents.initial settings files = Contents.empty := by
      rw [Contents.initial]
      cases dir : settings.effective.dir with
      | none => rfl
      | some path => simp [absent path dir]
    rw [start]
    exact Entries.Hold.nil
  · refine ⟨rfl, ?_⟩
    rw [Contents.initial, dir]
    simp only [there, if_true, read]
    exact (Promoted.load_ok loaded).2.2

theorem Added.hold {id : String} {vector : Embedding} {answer : Except Halt Unit} {next : Tiered}
    (added : Added settings t id vector answer next) (hold : t.entries.Hold m)
    (accepts : settings.Supported) : next.entries.Hold (m.settle id vector answer) := by
  have pushed := hold.push id vector
  cases added with
  | rejected fault invalid => exact hold
  | crowded promoted accepted graph full => exact hold
  | stored active accepted mode_eq held small => exact pushed.perm held.symm
  | moved p scanning accepted held beyond => exact pushed.perm held.symm
  | stayed s fault scanning accepted held beyond cause =>
    rcases cause with ⟨reason, rfl⟩ | ⟨⟨key, rfl⟩, _⟩
    · exact pushed.perm held.symm
    · exact pushed.perm held.symm
  | troubled halt next accepted closed_eq foreign unsupported => exact absurd accepts unsupported

theorem Sound.after_hold (sound : t.Sound settings) (hold : t.entries.Hold m)
    (accepts : settings.Supported) (around : FileTree) (op : Operation) (open_still : op ≠ .close) :
    (t.after around op).entries.Hold (m.after t around op) := by
  cases op with
  | add id vector =>
    rw [Tiered.after, Contents.after]
    cases barrier : t.barrier with
    | some fault =>
      rw [add_of_barrier barrier, settle_of_barrier barrier]
      exact hold
    | none => exact (sound.add_added barrier id vector around).1.hold hold accepts
  | remove id =>
    rw [Tiered.after, Contents.after]
    cases barrier : t.barrier with
    | some fault =>
      rw [remove_of_barrier barrier]
      exact hold
    | none =>
      obtain ⟨answered, _, held⟩ := (sound.remove_removed barrier id around).1.of_supported accepts
      rw [answered]
      exact (hold.erase id).perm held.symm
  | search query count =>
    rw [Tiered.after, Contents.after]
    rcases search_index t query count around with same | harmed
    · rw [same]
      exact hold
    · rw [harmed]
      exact hold
  | save =>
    rw [Tiered.after, Contents.after, save_index]
    exact hold
  | close => exact absurd rfl open_still

theorem Traced.hold (traced : Traced settings files t m) (accepts : settings.Supported) :
    t.Sound settings ∧ t.closed = false ∧ t.entries.Hold m := by
  induction traced with
  | created rest made => exact ⟨create_sound made, create_hold made⟩
  | stepped _ around op open_still ih =>
    rcases ih with ⟨sound, still_open, hold⟩
    exact ⟨sound.after around op, (sound.after_closed around open_still).trans still_open,
      sound.after_hold hold accepts around op open_still⟩
  | relisted _ active same ih =>
    rcases ih with ⟨sound, still_open, hold⟩
    exact ⟨sound.relisted same, still_open, hold.perm same.perm⟩

theorem Sound.sane (sound : t.Sound settings) (accepts : settings.Supported) :
    t.active.poisoned = false := by
  cases active : t.active with
  | scan s => rfl
  | promoted p => exact (sound.promoted active).1.sane accepts

/-- However promotions went, the index holds exactly what its answers told, once for each id, and
counts it. A graph is to take every vector that fits. -/
theorem Traced.contents (traced : Traced settings files t m) (accepts : settings.Supported) :
    (∀ id vector, ⟨id, vector⟩ ∈ t.entries ↔ m id = some vector) ∧ t.entries.ids.Nodup ∧
      t.size = {id | m id ≠ none}.ncard := by
  rcases traced.hold accepts with ⟨sound, still_open, hold⟩
  refine ⟨hold.mem_iff, hold.ids_nodup, ?_⟩
  rw [size, if_neg (by simp [still_open]), sound.active.size_eq (sound.sane accepts)]
  exact hold.ncard_eq.symm

end

def obstructed : FileTree := ⟨[], [(["store"], .file [])]⟩

/-- The promotion that failed is made up for by the next addition, a replacement. -/
def retried : Tiered :=
  let start : Tiered := ⟨Settings.effective ⟨1, some "store", .graph, .unset⟩, .scan .empty, false, false⟩
  let stuck := (start.after obstructed (.add "a" [⟨0x3f800000⟩])).after obstructed
    (.add "b" [⟨0x40000000⟩])
  stuck.after ⟨[], []⟩ (.add "a" [⟨0x40400000⟩])

theorem contents_retried :
    retried.mode = .promoted ∧
      (∀ id vector, ⟨id, vector⟩ ∈ retried.entries ↔
        ((Contents.empty.set "a" [⟨0x3f800000⟩]).set "b" [⟨0x40000000⟩]).set "a" [⟨0x40400000⟩] id =
          some vector) ∧
      retried.entries.ids.Nodup ∧
      retried.size =
        {id | ((Contents.empty.set "a" [⟨0x3f800000⟩]).set "b" [⟨0x40000000⟩]).set "a"
          [⟨0x40400000⟩] id ≠ none}.ncard := by
  have start : Traced ⟨1, some "store", .graph, .unset⟩ obstructed _ _ := .created obstructed (by rfl)
  have traced := ((start.stepped obstructed (.add "a" [⟨0x3f800000⟩]) (by decide)).stepped obstructed
    (.add "b" [⟨0x40000000⟩]) (by decide)).stepped ⟨[], []⟩ (.add "a" [⟨0x40400000⟩]) (by decide)
  have accepts : Settings.Supported ⟨1, some "store", .graph, .unset⟩ := fun _ =>
    Tuning.supported_of_held (by decide) (by decide)
  exact ⟨by rfl, Traced.contents traced accepts⟩

end Tiered

end EmbeddingIndex
