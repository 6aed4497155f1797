import EmbeddingIndex.Promoted
import EmbeddingIndex.Proofs.Graph.Soundness
import EmbeddingIndex.Proofs.Graph.Reached
/-!
The two engines under one description: what they refuse, and what they hold after a change, in terms of
the entries they held.
-/

namespace EmbeddingIndex

namespace Backend

def Sound (tuning : Tuning) : Backend → Prop
  | graph g => g.tuning = tuning ∧ ∃ inserted, g.Sound inserted
  | scan s => s.entries.Sound

/-- Why an addition is refused whatever the library does, from the entries. -/
def refusal (engine : Engine) (tuning : Tuning) (entries : Entries) (id : String)
    (vector : Embedding) : Option Fault :=
  match engine with
  | .graph => Graph.refusal tuning entries id vector
  | .scan => rejection id vector entries.width

/-- What an attempt leaves. It holds the entries aimed at, in some order, if it succeeds, and it is
sound unless it crashed. It fails for no reason that lies in the entries. -/
structure Lands (attempt : Attempt Halt Backend) (engine : Engine) (tuning : Tuning)
    (aim : Entries) : Prop where
  engine_eq : attempt.2.engine = engine
  sound : attempt.1 ≠ .error .crash → attempt.2.Sound tuning
  entries_perm : attempt.1 = .ok () → attempt.2.entries.Perm aim
  foreign : ∀ halt, attempt.1 = .error halt → halt.Foreign

section

variable {b : Backend} {tuning : Tuning}

theorem Sound.entries (sound : b.Sound tuning) : b.entries.Sound := by
  cases b with
  | graph g =>
    obtain ⟨_, inserted, sound⟩ := sound
    exact sound.entries_sound
  | scan s => exact sound

theorem Sound.size_eq (sound : b.Sound tuning) : b.size = b.entries.length := by
  cases b with
  | graph g =>
    obtain ⟨_, inserted, sound⟩ := sound
    exact sound.size_eq
  | scan s => rfl

theorem Sound.width_eq (sound : b.Sound tuning) : b.width = b.entries.width := by
  cases b with
  | graph g =>
    obtain ⟨_, inserted, sound⟩ := sound
    exact sound.width_eq
  | scan s => rfl

theorem Sound.length_le (sound : b.Sound tuning) (engine : b.engine = .graph) :
    b.entries.length ≤ tuning.capacity := by
  cases b with
  | graph g =>
    obtain ⟨rfl, inserted, sound⟩ := sound
    exact sound.length_le
  | scan s => cases engine

theorem refusal_perm (engine : Engine) (tuning : Tuning) {a b : Entries} (sound : a.Sound)
    (same : a.Perm b) (id : String) (vector : Embedding) :
    refusal engine tuning a id vector = refusal engine tuning b id vector := by
  cases engine with
  | graph =>
    change Graph.refusal tuning a id vector = Graph.refusal tuning b id vector
    rw [Graph.refusal, Graph.refusal, sound.width_perm same, same.length_eq]
  | scan => rw [refusal, refusal, sound.width_perm same]

theorem Lands.ofGraph {attempt : Attempt Halt Graph} {given aim : Entries}
    (lands : Graph.Lands attempt tuning given aim) :
    Lands (attempt.1, graph attempt.2) .graph tuning aim := by
  refine ⟨rfl, ?_, fun done => List.Perm.of_eq (lands.entries_eq done), lands.foreign⟩
  intro returned
  obtain ⟨inserted, sound, _⟩ := lands.sound returned
  exact ⟨lands.tuning_eq, inserted, sound⟩

theorem sound_empty (tuning : Tuning) (engine : Engine) :
    (empty tuning.effective engine).Sound tuning.effective := by
  cases engine with
  | graph => exact ⟨Tuning.effective_effective tuning, [], Graph.sound_clear (Graph.empty tuning.effective)⟩
  | scan => exact Entries.sound_nil

theorem engine_empty (tuning : Tuning) (engine : Engine) : (empty tuning engine).engine = engine := by
  cases engine <;> rfl

theorem entries_empty (tuning : Tuning) (engine : Engine) : (empty tuning engine).entries = [] := by
  cases engine <;> rfl

theorem Sound.clear (sound : b.Sound tuning) :
    b.clear.Sound tuning ∧ b.clear.engine = b.engine ∧ b.clear.entries = [] := by
  cases b with
  | graph g => exact ⟨⟨sound.1, [], Graph.sound_clear g⟩, rfl, rfl⟩
  | scan s => exact ⟨Entries.sound_nil, rfl, rfl⟩

end

section

variable [Runtime] {b : Backend} {tuning : Tuning}

theorem Sound.add_lands (sound : b.Sound tuning) (id : String) (vector : Embedding)
    (accepted : rejection id vector b.entries.width = none) :
    Lands (b.add id vector) b.engine tuning (b.entries.push id vector) := by
  cases b with
  | graph g =>
    obtain ⟨rfl, inserted, sound⟩ := sound
    exact .ofGraph (sound.add_lands id vector accepted)
  | scan s =>
    have fits : rejection id vector s.entries.width = none := accepted
    rw [Backend.add, Scan.add, Scan.width, fits]
    exact ⟨rfl, fun _ => Entries.Sound.put sound id vector fits,
      fun _ => Entries.put_perm_push _ _ _ (Entries.Sound.ids_nodup sound),
      fun _ failed => by cases failed⟩

theorem Sound.add_ok (sound : b.Sound tuning) (supported : b.engine = .graph → tuning.Supported)
    (id : String) (vector : Embedding) (taken : refusal b.engine tuning b.entries id vector = none) :
    (b.add id vector).1 = .ok () := by
  cases b with
  | graph g =>
    obtain ⟨rfl, inserted, sound⟩ := sound
    exact sound.add_ok (supported rfl) id vector taken
  | scan s =>
    have accepted : rejection id vector s.entries.width = none := taken
    rw [Backend.add, Scan.add, Scan.width, accepted]
    rfl

theorem Sound.add_of_refusal (sound : b.Sound tuning) {id : String} {vector : Embedding}
    {fault : Fault} (refused : refusal b.engine tuning b.entries id vector = some fault) :
    b.add id vector = .failed (.fault fault) b := by
  cases b with
  | graph g =>
    obtain ⟨rfl, inserted, sound⟩ := sound
    rw [Backend.add, sound.add_of_refusal refused]
    rfl
  | scan s =>
    have rejected : rejection id vector s.entries.width = some fault := refused
    rw [Backend.add, Scan.add, Scan.width, rejected]
    rfl

theorem Sound.remove_lands (sound : b.Sound tuning) (id : String) :
    Lands (b.remove id) b.engine tuning (b.entries.erase id) := by
  cases b with
  | graph g =>
    obtain ⟨rfl, inserted, sound⟩ := sound
    exact .ofGraph (sound.remove_lands id)
  | scan s =>
    exact ⟨rfl, fun _ => Entries.Sound.erase sound id, fun _ => List.Perm.refl _,
      fun _ failed => by cases failed⟩

theorem Sound.remove_ok (sound : b.Sound tuning) (supported : b.engine = .graph → tuning.Supported)
    (id : String) : (b.remove id).1 = .ok () := by
  cases b with
  | graph g =>
    obtain ⟨rfl, inserted, sound⟩ := sound
    exact sound.remove_ok (supported rfl) id
  | scan s => rfl

theorem load_ok {c : Backend} {entries : Entries}
    (loaded : b.load tuning.effective entries = .ok c) :
    c.Sound tuning.effective ∧ c.engine = b.engine ∧
      c.entries.Hold (Contents.ofEntries entries) := by
  cases b with
  | graph g =>
    rw [load] at loaded
    cases made : Graph.ofEntries tuning.effective entries with
    | error halt =>
      rw [made] at loaded
      cases loaded
    | ok h =>
      rw [made] at loaded
      cases loaded
      obtain ⟨live, gathered, built⟩ := (Graph.ofEntries_eq_ok_iff _ _ _).mp made
      obtain ⟨sound, hold⟩ := Scan.hold_addAll ((Graph.gather_eq_ok_iff _ _).mp gathered)
      have lands := Graph.rebuilt_lands sound built
      obtain ⟨inserted, kept, _⟩ := lands.sound (by simp [Attempt.done])
      have entries_eq : h.entries = live := lands.entries_eq rfl
      have tuning_eq : h.tuning = tuning.effective.effective := lands.tuning_eq
      refine ⟨⟨tuning_eq.trans (Tuning.effective_effective tuning), inserted, kept⟩, rfl, ?_⟩
      change h.entries.Hold _
      rw [entries_eq]
      exact hold
  | scan s =>
    rw [load] at loaded
    rcases added : Scan.empty.addAll entries with ⟨fault | _, t⟩
    · rw [added] at loaded
      cases loaded
    · rw [added] at loaded
      cases loaded
      obtain ⟨sound, hold⟩ := Scan.hold_addAll added
      exact ⟨sound, rfl, hold⟩

/-- Entries that can stand together load as they are, into a graph if it has room for them and its
library takes them. -/
theorem load_of_sound (b : Backend) {entries : Entries} (sound : entries.Sound)
    (room : b.engine = .graph → entries.length ≤ tuning.effective.capacity ∧
      tuning.effective.Supported) :
    ∃ c, b.load tuning.effective entries = .ok c ∧ c.entries = entries := by
  have added := Scan.addAll_of_sound [] entries sound
  cases b with
  | graph g =>
    obtain ⟨small, supported⟩ := room rfl
    rw [← Tuning.effective_effective tuning] at small supported
    have ok := Graph.rebuild_ok (Graph.empty tuning.effective) supported entries sound small
    have lands := Graph.rebuild_lands (Graph.empty tuning.effective) entries sound
    have built : (Graph.empty tuning.effective).rebuild entries = .done _ := Prod.ext ok rfl
    have made := (Graph.ofEntries_eq_ok_iff tuning.effective entries _).mpr
      ⟨entries, (Graph.gather_eq_ok_iff entries entries).mpr added, built⟩
    exact ⟨_, congrArg (Except.map graph) made, lands.entries_eq ok⟩
  | scan s =>
    have start : Scan.empty.addAll entries = .done ⟨entries⟩ := added
    exact ⟨scan ⟨entries⟩, by simp only [load, start, Attempt.done], rfl⟩

inductive Relisted : Backend → Backend → Prop
  | graph {g h : Graph} (relisted : g.Relisted h) : Relisted (graph g) (graph h)
  | scan (entries order : Entries) (same : entries.Perm order) :
      Relisted (scan ⟨entries⟩) (scan ⟨order⟩)

theorem Relisted.engine_eq {c : Backend} (relisted : b.Relisted c) : c.engine = b.engine := by
  cases relisted <;> rfl

theorem Relisted.perm {c : Backend} (relisted : b.Relisted c) : b.entries.Perm c.entries := by
  cases relisted with
  | graph relisted => exact relisted.perm
  | scan entries order same => exact same

theorem Relisted.sound {c : Backend} (relisted : b.Relisted c) (sound : b.Sound tuning) :
    c.Sound tuning := by
  cases relisted with
  | graph relisted =>
    rcases sound with ⟨rfl, inserted, sound⟩
    rcases relisted.sound sound with ⟨kept, tuning_eq⟩
    exact ⟨tuning_eq, kept⟩
  | scan entries order same => exact Entries.Sound.perm sound same

end

end Backend

end EmbeddingIndex
