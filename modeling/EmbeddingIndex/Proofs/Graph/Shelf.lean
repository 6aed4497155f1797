import EmbeddingIndex.Proofs.Graph.Soundness
import EmbeddingIndex.Proofs.Settings
/-!
A graph whose nodes the library takes answers and holds what a bounded list in the order of insertion
would. Slots, tombstones and rebuilds do not show.
-/

namespace EmbeddingIndex

inductive Change
  | add (id : String) (vector : Embedding)
  | remove (id : String)
  | clear
  deriving DecidableEq, Repr

def Change.run {σ : Type} (apply : σ → Change → Attempt Halt σ) :
    σ → List Change → List (Except Halt Unit) × σ
  | s, [] => ([], s)
  | s, change :: rest =>
    let (outcome, s) := apply s change
    let (outcomes, s) := Change.run apply s rest
    (outcome :: outcomes, s)

/-- Entries in the order of insertion, `capacity` at the most. -/
structure Shelf where
  capacity : Nat
  entries : Entries
  deriving DecidableEq, Repr

def Shelf.apply (s : Shelf) : Change → Attempt Halt Shelf
  | .add id vector =>
    match rejection id vector s.entries.width with
    | some fault => .failed (.fault fault) s
    | none =>
      if s.entries.length = s.capacity then .failed (.fault (.graph .full)) s
      else .done { s with entries := s.entries.push id vector }
  | .remove id => .done { s with entries := s.entries.erase id }
  | .clear => .done { s with entries := [] }

namespace Graph

section

variable [Runtime]

def apply (g : Graph) : Change → Attempt Halt Graph
  | .add id vector => g.add id vector
  | .remove id => g.remove id
  | .clear => .done g.clear

/-- The graph is sound, takes every vector that fits, and holds what is on the shelf. -/
structure Shelved (g : Graph) (s : Shelf) : Prop where
  sound : ∃ inserted, g.Sound inserted
  supported : g.tuning.Supported
  capacity_eq : g.tuning.capacity = s.capacity
  entries_eq : g.entries = s.entries

variable {g : Graph} {s : Shelf}

theorem Lands.shelved {attempt : Attempt Halt Graph} {given aim : Entries}
    (lands : Lands attempt g.tuning given aim) (ok : attempt.1 = .ok ()) (shelved : g.Shelved s) :
    attempt.2.Shelved { s with entries := aim } := by
  obtain ⟨inserted, sound, _⟩ := lands.sound (by simp [ok])
  exact ⟨⟨inserted, sound⟩, lands.tuning_eq ▸ shelved.supported,
    lands.tuning_eq ▸ shelved.capacity_eq, lands.entries_eq ok⟩

theorem Shelved.apply (shelved : g.Shelved s) (change : Change) :
    (g.apply change).1 = (s.apply change).1 ∧ (g.apply change).2.Shelved (s.apply change).2 := by
  obtain ⟨inserted, sound⟩ := shelved.sound
  cases change with
  | add id vector =>
    rw [Graph.apply, Shelf.apply, ← shelved.entries_eq]
    cases taken : refusal g.tuning g.entries id vector with
    | some fault =>
      rw [sound.add_of_refusal taken]
      rw [refusal, shelved.capacity_eq] at taken
      cases accepted : rejection id vector g.entries.width with
      | some cause =>
        rw [accepted] at taken
        cases taken
        exact ⟨rfl, shelved⟩
      | none =>
        simp only [accepted] at taken
        split at taken
        · rename_i full
          cases taken
          rw [if_pos full]
          exact ⟨rfl, shelved⟩
        · cases taken
    | none =>
      obtain ⟨accepted, room⟩ := (refusal_eq_none_iff _ _ _ _).mp taken
      have ok := sound.add_ok shelved.supported id vector taken
      rw [shelved.capacity_eq] at room
      simp only [accepted, if_neg room]
      exact ⟨ok, (sound.add_lands id vector accepted).shelved ok shelved⟩
  | remove id =>
    have ok := sound.remove_ok shelved.supported id
    rw [Graph.apply, Shelf.apply, ← shelved.entries_eq]
    exact ⟨ok, (sound.remove_lands id).shelved ok shelved⟩
  | clear =>
    have lands : Lands (.done g.clear) g.tuning [] [] := (sound_clear g).done
    exact ⟨rfl, lands.shelved rfl shelved⟩

theorem Shelved.run (shelved : g.Shelved s) (script : List Change) :
    (Change.run Graph.apply g script).1 = (Change.run Shelf.apply s script).1 ∧
      (Change.run Graph.apply g script).2.Shelved (Change.run Shelf.apply s script).2 := by
  induction script generalizing g s with
  | nil => exact ⟨rfl, shelved⟩
  | cons change rest ih =>
    obtain ⟨answer, next⟩ := shelved.apply change
    obtain ⟨answers, last⟩ := ih next
    exact ⟨congrArg₂ List.cons answer answers, last⟩

/-- From an empty graph whose nodes the library takes, every script of changes gets the same answers as
on a shelf of the same capacity, and leaves the same entries in the same order. -/
theorem run_eq_shelf_run (tuning : Tuning) (supported : tuning.effective.Supported)
    (script : List Change) :
    (Change.run Graph.apply (empty tuning) script).1 =
        (Change.run Shelf.apply ⟨tuning.effective.capacity, []⟩ script).1 ∧
      (Change.run Graph.apply (empty tuning) script).2.entries =
        (Change.run Shelf.apply ⟨tuning.effective.capacity, []⟩ script).2.entries := by
  have start : (empty tuning).Shelved ⟨tuning.effective.capacity, []⟩ :=
    ⟨⟨[], sound_clear (empty tuning)⟩, supported, rfl, rfl⟩
  obtain ⟨answers, last⟩ := start.run script
  exact ⟨answers, last.entries_eq⟩

end

/-- Two slots: a removal makes room for one more id, and then even a stored id is refused. -/
def crowding : List Change :=
  [.add "a" [⟨0x3f800000⟩], .add "b" [⟨0x40000000⟩], .remove "a", .add "c" [⟨0x3f800000⟩],
    .add "b" [⟨0x40400000⟩]]

theorem run_crowding :
    (Change.run Graph.apply (empty ⟨16, 100, ⟨0⟩, 200, 2⟩) crowding).1 =
        [.ok (), .ok (), .ok (), .ok (), .error (.fault (.graph .full))] ∧
      (Change.run Graph.apply (empty ⟨16, 100, ⟨0⟩, 200, 2⟩) crowding).2.entries =
        [⟨"b", [⟨0x40000000⟩]⟩, ⟨"c", [⟨0x3f800000⟩]⟩] := by
  have supported : Tuning.Supported (Tuning.effective ⟨16, 100, ⟨0⟩, 200, 2⟩) :=
    Tuning.supported_of_held (by decide) (by decide)
  obtain ⟨answers, held⟩ := run_eq_shelf_run ⟨16, 100, ⟨0⟩, 200, 2⟩ supported crowding
  exact ⟨answers.trans (by rfl), held.trans (by rfl)⟩

end Graph

end EmbeddingIndex
