import EmbeddingIndex.Proofs.Tiered.Contents
import EmbeddingIndex.Proofs.Files.Widening
/-!
What the tiered index does to files, and where additions lead that all succeed. Until the index is
saved no file is touched; a promotion makes directories at the most.
-/

namespace EmbeddingIndex

theorem Entries.length_le_put (entries : Entries) (id : String) (vector : Embedding) :
    entries.length ≤ (entries.put id vector).length := by
  induction entries with
  | nil => exact Nat.zero_le _
  | cons entry rest ih =>
    rw [put]
    split
    · exact Nat.le_refl _
    · exact Nat.succ_le_succ ih

theorem Entries.length_le_push (entries : Entries) (unique : entries.ids.Nodup) (id : String)
    (vector : Embedding) : entries.length ≤ (entries.push id vector).length := by
  rw [← (put_perm_push entries id vector unique).length_eq]
  exact length_le_put entries id vector

theorem Promoted.create_widened (settings : Settings) (files : FileTree) :
    files.Widened (Promoted.create settings files).2 := by
  rw [create]
  cases settings.effective.dir with
  | none => exact .refl files
  | some path =>
    have made := FileTree.makeDirectories_widened files path
    simp only [prepare]
    generalize files.makeDirectories path = result at made ⊢
    rcases result with ⟨fault | _, after⟩
    · exact made
    · by_cases there : after.isDirectory path = true
      · simp only [if_pos there]
        exact made
      · simp only [if_neg there]
        exact made

namespace Tiered

theorem files_of_failed_save {t : Tiered} {files : FileTree} {fault : Fault}
    (failed : (t.save files).answer = .error fault) : (t.save files).files = files := by
  cases barrier : t.barrier with
  | some cause => rw [save_of_barrier barrier]
  | none =>
    cases active : t.active with
    | scan s => rw [save, saveUnder_of_scan active barrier]
    | promoted p =>
      rw [save, saveUnder_promoted active barrier] at failed ⊢
      rcases saved : p.saveUnder .none files with ⟨cause | _, after⟩
      · exact Promoted.files_of_failed_save saved
      · rw [saved] at failed
        cases failed

variable [Runtime] {settings : Settings} {t : Tiered} {files : FileTree}

theorem promote_widened (settings : Settings) (s : Scan) (files : FileTree) :
    files.Widened (promote settings s files).2 := by
  have made := Promoted.create_widened settings files
  rw [promote]
  generalize Promoted.create settings files = result at made ⊢
  rcases result with ⟨fault | p, after⟩ <;> exact made

theorem create_files (settings : Settings) (files : FileTree) : (create settings files).2 = files := by
  by_cases found : ∃ path, settings.effective.dir = some path ∧ SnapshotFile.existsIn files path = true
  · obtain ⟨path, dir, there⟩ := found
    rw [create_of_snapshot dir there]
  · rw [create_without_snapshot]
    exact fun path dir => Bool.eq_false_iff.mpr fun there => found ⟨path, dir, there⟩

theorem add_widened (t : Tiered) (id : String) (vector : Embedding) (files : FileTree) :
    files.Widened (t.add id vector files).files := by
  rw [add]
  cases t.barrier with
  | some fault => exact .refl files
  | none =>
    dsimp only
    rcases t.active.add id vector with ⟨halt | _, active⟩
    · dsimp only
      rw [conclude_eq]
      exact .refl files
    · dsimp only
      split
      · exact .refl files
      · cases active with
        | promoted p => exact .refl files
        | scan s =>
          have made := promote_widened t.settings s files
          dsimp only
          generalize promote t.settings s files = result at made ⊢
          rcases result with ⟨halt | p, after⟩
          · dsimp only
            rw [conclude_eq]
            exact made
          · exact made

theorem search_files (t : Tiered) (query : Embedding) (count : Nat) (files : FileTree) :
    (t.search query count files).files = files := by
  cases barrier : t.barrier with
  | some fault => rw [search_of_barrier barrier]
  | none => rw [search_of_free barrier]

theorem Sound.add_files (sound : t.Sound settings) {id : String} {vector : Embedding}
    (added : (t.add id vector files).answer = .ok ())
    (still : (t.add id vector files).index.mode = .exact) : (t.add id vector files).files = files := by
  cases barrier : t.barrier with
  | some fault => rw [add_of_barrier barrier]
  | none =>
    cases active : t.active with
    | promoted p =>
      rw [add_promoted active barrier, conclude_eq] at still
      cases still
    | scan s =>
      have unharmed := ((barrier_eq_none_iff t).mp barrier).1
      rw [add_scan active barrier (sound.entries unharmed).ids_nodup] at added still ⊢
      cases rejected : rejection id vector t.entries.width with
      | some fault => rfl
      | none =>
        rw [rejected] at added still
        dsimp only at added still ⊢
        by_cases small : (t.entries.push id vector).length ≤ t.settings.threshold
        · rw [if_pos small]
        · rw [if_neg small] at added still ⊢
          generalize promote t.settings ⟨t.entries.put id vector⟩ files = result at added still ⊢
          rcases result with ⟨halt | p, after⟩
          · dsimp only at added
            rw [conclude_eq] at added
            cases added
          · cases still

/-- Where additions have come to that all succeeded, from an index beside some files. -/
structure Filling (settings : Settings) (start : Tiered) (files : FileTree) (m : Contents) (t : Tiered)
    (now : FileTree) : Prop where
  sound : t.Sound settings
  free : t.barrier = none
  hold : t.entries.Hold m
  exact : t.mode = .exact → start.mode = .exact ∧ now = files ∧
    t.entries.length ≤ settings.effective.threshold
  promoted : t.mode = .promoted → start.mode = .promoted ∨
    settings.effective.threshold < t.entries.length

variable {start : Tiered} {m : Contents} {now : FileTree}

theorem Filling.add (filling : Filling settings start files m t now) {id : String}
    {vector : Embedding} (added : (t.add id vector now).answer = .ok ()) :
    Filling settings start files (m.set id vector) (t.add id vector now).index
      (t.add id vector now).files := by
  have unique := filling.hold.ids_nodup
  have pushed := filling.hold.push id vector
  have files_eq := filling.sound.add_files added
  obtain ⟨shape, sound⟩ := filling.sound.add_added filling.free id vector now
  rw [added] at shape
  generalize t.add id vector now = step at shape sound files_eq
  rcases step with ⟨answer, next, rest⟩
  dsimp only at shape sound files_eq ⊢
  cases shape with
  | stored active accepted mode_eq held small =>
    refine ⟨sound, filling.free, pushed.perm held.symm, ?_, ?_⟩
    · intro scanning
      have scanning_before := mode_eq.symm.trans scanning
      obtain ⟨started, now_eq, _⟩ := filling.exact scanning_before
      have bound := small scanning_before
      rw [filling.sound.settings_eq, ← held.length_eq] at bound
      exact ⟨started, (files_eq scanning).trans now_eq, bound⟩
    · intro promoted
      rcases filling.promoted (mode_eq.symm.trans promoted) with started | beyond
      · exact Or.inl started
      · right
        calc
          settings.effective.threshold < t.entries.length := beyond
          _ ≤ (t.entries.push id vector).length := Entries.length_le_push t.entries unique id vector
          _ = active.entries.length := held.length_eq.symm
  | moved p scanning accepted held beyond =>
    refine ⟨sound, filling.free, pushed.perm held.symm, ?_, ?_⟩
    · intro still
      cases still
    · intro _
      rw [filling.sound.settings_eq, ← held.length_eq] at beyond
      exact Or.inr beyond

theorem Filling.of_create {rest : FileTree} (made : create settings files = (.ok t, rest)) :
    Filling settings t files (Contents.initial settings files) t files := by
  obtain ⟨_, hold⟩ := create_hold made
  have sound := create_sound made
  rcases create_cases made with ⟨rfl, _⟩ | ⟨path, snapshot, p, _, _, _, _, rfl⟩
  · exact ⟨sound, rfl, hold, fun _ => ⟨rfl, rfl, Nat.zero_le _⟩, fun promoted => Or.inl promoted⟩
  · refine ⟨sound, rfl, hold, ?_, fun promoted => Or.inl promoted⟩
    intro scanning
    cases scanning

end Tiered

end EmbeddingIndex
