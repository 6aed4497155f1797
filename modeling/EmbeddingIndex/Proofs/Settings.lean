import EmbeddingIndex.Settings
/-!
Effective settings have nothing left to default.
-/

namespace EmbeddingIndex

theorem orDefault_orDefault (value standard : Nat) :
    orDefault (orDefault value standard) standard = orDefault value standard := by
  by_cases unset : value = 0
  · simp only [orDefault, if_pos unset, ite_self]
  · simp only [orDefault, if_neg unset]

namespace Tuning

theorem effective_effective (t : Tuning) : t.effective.effective = t.effective := by
  by_cases positive : t.levelFactor.isPositive = true
  · simp only [effective, orDefault_orDefault, if_pos positive]
  · simp only [effective, orDefault_orDefault, if_neg positive, ite_self]

end Tuning

theorem Settings.effective_effective (s : Settings) : s.effective.effective = s.effective := by
  have dir (d : Option String) :
      (d.filter (!·.isEmpty)).filter (!·.isEmpty) = d.filter (!·.isEmpty) := by
    cases d with
    | none => rfl
    | some path => cases filled : path.isEmpty <;> simp [Option.filter, filled]
  simp only [effective, orDefault_orDefault, Tuning.effective_effective, dir]

theorem Settings.effective_dir_ne_empty {s : Settings} {path : String}
    (dir : s.effective.dir = some path) : path ≠ "" := by
  rintro rfl
  rw [effective, Option.filter_eq_some_iff] at dir
  exact absurd dir.2 (by decide)

end EmbeddingIndex
