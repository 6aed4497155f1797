import EmbeddingIndex.Tiered
import EmbeddingIndex.Proofs.Promoted
/-!
The scan and the promoted index behind one description.
-/

namespace EmbeddingIndex

namespace Active

def poisoned : Active → Bool
  | scan _ => false
  | promoted p => p.poisoned

variable [Runtime]

def Sound (settings : Settings) : Active → Prop
  | scan s => s.entries.Sound
  | promoted p => p.Sound settings

/-- Tables are listed in any order. -/
inductive Relisted : Active → Active → Prop
  | scan (entries order : Entries) (same : entries.Perm order) :
      Relisted (.scan ⟨entries⟩) (.scan ⟨order⟩)
  | promoted (p : Promoted) (backend : Backend) (relisted : p.backend.Relisted backend) :
      Relisted (.promoted p) (.promoted { p with backend })

variable {settings : Settings} {a b : Active}

theorem Sound.entries (sound : a.Sound settings) (sane : a.poisoned = false) : a.entries.Sound := by
  cases a with
  | scan s => exact sound
  | promoted p => exact (Promoted.Sound.backend sound sane).entries

theorem Sound.size_eq (sound : a.Sound settings) (sane : a.poisoned = false) :
    a.size = a.entries.length := by
  cases a with
  | scan s => rfl
  | promoted p => exact Promoted.Sound.size_eq sound sane

theorem Sound.width_eq (sound : a.Sound settings) (sane : a.poisoned = false) :
    a.width = a.entries.width := by
  cases a with
  | scan s => rfl
  | promoted p => exact Promoted.Sound.width_eq sound sane

theorem Sound.width_agrees (sound : a.Sound settings) :
    (a.width = none ↔ a.size = 0) ∧
      ∀ width, a.width = some width → ∀ entry ∈ a.entries, entry.vector.length = width := by
  cases sane : a.poisoned with
  | false =>
    rw [sound.width_eq sane, sound.size_eq sane, Entries.width_eq_none_iff, List.length_eq_zero_iff]
    refine ⟨Iff.rfl, ?_⟩
    intro width established entry member
    rw [(sound.entries sane).width_eq entry member] at established
    exact Option.some.inj established
  | true =>
    cases a with
    | scan s => cases sane
    | promoted p =>
      have harmed : p.poisoned = true := sane
      have none_shown : p.width = none := by rw [Promoted.width, if_pos harmed]
      have none_counted : p.size = 0 := by rw [Promoted.size, if_pos harmed]
      refine ⟨⟨fun _ => none_counted, fun _ => none_shown⟩, ?_⟩
      intro width shown
      cases none_shown.symm.trans shown

theorem Relisted.poisoned_eq (relisted : a.Relisted b) : b.poisoned = a.poisoned := by
  cases relisted <;> rfl

theorem Relisted.perm (relisted : a.Relisted b) : a.entries.Perm b.entries := by
  cases relisted with
  | scan entries order same => exact same
  | promoted p backend relisted => exact relisted.perm

theorem Relisted.sound (relisted : a.Relisted b) (sound : a.Sound settings) : b.Sound settings := by
  cases relisted with
  | scan entries order same => exact Entries.Sound.perm sound same
  | promoted p backend relisted => exact Promoted.Sound.relisted sound relisted

end Active

end EmbeddingIndex
