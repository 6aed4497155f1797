import EmbeddingIndex.Proofs.Tiered.Addition
/-!
Every operation leaves a sound tiered index, and so does every start, from a snapshot or without.
-/

namespace EmbeddingIndex

inductive Operation
  | add (id : String) (vector : Embedding)
  | remove (id : String)
  | search (query : Embedding) (count : Nat)
  | save
  | close
  deriving DecidableEq, Repr

namespace Tiered

section

variable {t : Tiered}

theorem save_of_barrier {fault : Fault} (barred : t.barrier = some fault) (files : FileTree) :
    t.save files = ⟨.error fault, t, files⟩ := by
  rw [save, saveUnder, barred]

theorem saveUnder_of_scan {s : Scan} (scanning : t.active = .scan s) (free : t.barrier = none)
    (refusals : SnapshotFile.Refusals) (files : FileTree) :
    t.saveUnder refusals files = ⟨.ok (), t, files⟩ := by
  rw [saveUnder, free, scanning]
  rfl

theorem saveUnder_promoted {p : Promoted} (promoted : t.active = .promoted p) (free : t.barrier = none)
    (refusals : SnapshotFile.Refusals) (files : FileTree) :
    t.saveUnder refusals files =
      ⟨(p.saveUnder refusals files).1.mapError (.backend "save"), t,
        (p.saveUnder refusals files).2⟩ := by
  rw [saveUnder, free, promoted]
  rfl

theorem saveUnder_index (refusals : SnapshotFile.Refusals) (t : Tiered) (files : FileTree) :
    (t.saveUnder refusals files).index = t := by
  rw [saveUnder]
  cases t.barrier with
  | some fault => rfl
  | none => rfl

theorem save_index (t : Tiered) (files : FileTree) : (t.save files).index = t :=
  saveUnder_index .none t files

end

variable [Runtime]

def after (t : Tiered) (files : FileTree) : Operation → Tiered
  | .add id vector => (t.add id vector files).index
  | .remove id => (t.remove id files).index
  | .search query count => (t.search query count files).index
  | .save => (t.save files).index
  | .close => (t.close files).index

variable {settings : Settings} {t : Tiered}

theorem remove_of_barrier {fault : Fault} (barred : t.barrier = some fault) (id : String)
    (files : FileTree) : t.remove id files = ⟨.error (.fault fault), t, files⟩ := by
  rw [remove, barred]

theorem search_of_barrier {fault : Fault} (barred : t.barrier = some fault) (query : Embedding)
    (count : Nat) (files : FileTree) :
    t.search query count files = ⟨.error (.fault fault), t, files⟩ := by
  rw [search, barred]

theorem remove_promoted {p : Promoted} (promoted : t.active = .promoted p) (free : t.barrier = none)
    (id : String) (files : FileTree) :
    t.remove id files =
      conclude (within "remove" (p.remove id).1)
        { t with active := .promoted (p.remove id).2 } files := by
  rw [remove, free, promoted]
  rfl

inductive Removed (settings : Settings) (t : Tiered) (id : String) :
    Except Halt Unit → Tiered → Prop
  | done (active : Active) (mode_eq : mode { t with active } = t.mode)
      (held : active.entries.Perm (t.entries.erase id)) :
      Removed settings t id (.ok ()) { t with active }
  | troubled (halt : Halt) (next : Tiered) (closed_eq : next.closed = t.closed)
      (unsupported : ¬ settings.Supported) : Removed settings t id (.error halt) next

theorem Removed.closed_eq {id : String} {answer : Except Halt Unit} {next : Tiered}
    (removed : Removed settings t id answer next) : next.closed = t.closed := by
  cases removed with
  | done active mode_eq held => rfl
  | troubled halt next closed_eq unsupported => exact closed_eq

theorem Removed.of_supported {id : String} {answer : Except Halt Unit} {next : Tiered}
    (removed : Removed settings t id answer next) (supported : settings.Supported) :
    answer = .ok () ∧ next.mode = t.mode ∧ next.entries.Perm (t.entries.erase id) := by
  cases removed with
  | done active mode_eq held => exact ⟨rfl, mode_eq, held⟩
  | troubled halt next closed_eq unsupported => exact absurd supported unsupported

theorem Removed.free {id : String} {next : Tiered} (removed : Removed settings t id (.ok ()) next)
    (free : t.barrier = none) : next.barrier = none := by
  cases removed
  exact free

theorem Sound.remove_removed (sound : t.Sound settings) (free : t.barrier = none) (id : String)
    (files : FileTree) :
    Removed settings t id (t.remove id files).answer (t.remove id files).index ∧
      (t.remove id files).index.Sound settings := by
  have unharmed := ((barrier_eq_none_iff t).mp free).1
  cases active_eq : t.active with
  | scan s =>
    have together : s.entries.Sound := by
      have active := sound.active
      rwa [active_eq] at active
    have kept : Active.Sound settings (.scan (s.remove id)) := Entries.Sound.erase together id
    have removal : t.remove id files = ⟨.ok (), { t with active := .scan (s.remove id) }, files⟩ := by
      rw [remove, free, active_eq]
      rfl
    rw [removal]
    refine ⟨.done (.scan (s.remove id)) (by rw [mode, mode, active_eq]) ?_,
      sound.with_active kept (by simp [Active.poisoned])⟩
    rw [Tiered.entries, active_eq]
    exact List.Perm.refl _
  | promoted p =>
    rcases sound.promoted active_eq with ⟨whole, sane⟩
    have lands := whole.remove_lands (sane unharmed) id
    have ok (supported : settings.Supported) := whole.remove_ok (sane unharmed) supported id
    have active : Active.Sound settings (.promoted (p.remove id).2) := lands.sound
    rw [remove_promoted active_eq free, conclude_eq, crashed_within, unharmed, Bool.false_or]
    refine ⟨?_, sound.with_active active fun harmed => lands.poisoned_eq.symm.trans harmed⟩
    rcases removed : p.remove id with ⟨halt | _, q⟩
    · rw [removed] at ok
      exact .troubled _ _ rfl fun supported => by cases ok supported
    · rw [removed] at lands
      have plain : ({ t with active := .promoted q, poisoned := false } : Tiered) =
          { t with active := .promoted q } := by rw [← unharmed]
      have done : Removed settings t id (.ok ()) { t with active := .promoted q } := by
        refine .done (.promoted q) (by rw [mode, mode, active_eq]) ?_
        rw [Tiered.entries, active_eq]
        exact lands.entries_perm rfl
      rwa [← plain] at done

theorem search_of_free (free : t.barrier = none) (query : Embedding) (count : Nat)
    (files : FileTree) :
    t.search query count files =
      ⟨within "search" (t.active.search query count),
        { t with poisoned := t.poisoned || crashed (t.active.search query count) }, files⟩ := by
  rw [search, free]
  simp only [conclude_eq, crashed_within]

theorem search_index (t : Tiered) (query : Embedding) (count : Nat) (files : FileTree) :
    (t.search query count files).index = t ∨
      (t.search query count files).index = { t with poisoned := true } := by
  cases barrier : t.barrier with
  | some fault =>
    left
    rw [search_of_barrier barrier]
  | none =>
    rw [search_of_free barrier]
    cases crashed (t.active.search query count) with
    | true => exact Or.inr (by rw [Bool.or_true])
    | false => exact Or.inl (by rw [Bool.or_false])

theorem after_of_barrier {fault : Fault} (barred : t.barrier = some fault) (files : FileTree)
    (op : Operation) : t.after files op = t := by
  cases op with
  | add id vector => rw [after, add_of_barrier barred]
  | remove id => rw [after, remove_of_barrier barred]
  | search query count => rw [after, search_of_barrier barred]
  | save => rw [after, save_index]
  | close =>
    rw [after, close]
    by_cases poisoned : t.poisoned = true
    · rw [if_pos poisoned]
    · by_cases closed : t.closed = true
      · rw [if_neg poisoned, if_pos closed]
      · rw [barrier, if_neg poisoned, if_neg closed] at barred
        cases barred

theorem Sound.close_closed (sound : t.Sound settings) (free : t.barrier = none) (files : FileTree) :
    ∃ active : Active, t.close files = ⟨.ok (), { t with active, closed := true }, files⟩ ∧
      mode { t with active } = t.mode ∧ engine { t with active } = t.engine ∧
      (t.mode = .promoted → active.entries = []) ∧
      Sound settings { t with active, closed := true } := by
  obtain ⟨unharmed, still_open⟩ := (barrier_eq_none_iff t).mp free
  rw [close, if_neg (by simp [unharmed]), if_neg (by simp [still_open])]
  cases active_eq : t.active with
  | scan s =>
    refine ⟨.scan s, rfl, by rw [mode, mode, active_eq], by rw [engine, engine, active_eq], ?_, ?_⟩
    · intro promoted
      rw [mode, active_eq] at promoted
      cases promoted
    · exact ⟨sound.settings_eq, active_eq ▸ sound.active, by simp [Active.poisoned]⟩
  | promoted p =>
    obtain ⟨whole, sane⟩ := sound.promoted active_eq
    have closing := Promoted.close_of_sane (sane unharmed)
    have kept := whole.close
    rw [closing] at kept
    obtain ⟨_, engine_eq, emptied⟩ := (whole.backend (sane unharmed)).clear
    refine ⟨.promoted { p with backend := p.backend.clear }, ?_, by rw [mode, mode, active_eq], ?_,
      fun _ => emptied, sound.settings_eq, kept, ?_⟩
    · simp only [Active.close, closing, Attempt.done]
    · rw [engine, engine, active_eq]
      exact congrArg some engine_eq
    · intro harmed
      exact absurd ((sane unharmed).symm.trans harmed) (by decide)

theorem Sound.after (sound : t.Sound settings) (files : FileTree) (op : Operation) :
    (t.after files op).Sound settings := by
  cases barrier : t.barrier with
  | some fault =>
    rw [after_of_barrier barrier]
    exact sound
  | none =>
    cases op with
    | add id vector => exact (sound.add_added barrier id vector files).2
    | remove id => exact (sound.remove_removed barrier id files).2
    | search query count =>
      rw [Tiered.after]
      rcases search_index t query count files with same | harmed
      · rw [same]
        exact sound
      · rw [harmed]
        exact ⟨sound.settings_eq, sound.active, fun _ => rfl⟩
    | save =>
      rw [Tiered.after, save_index]
      exact sound
    | close =>
      obtain ⟨active, closed, _, _, _, kept⟩ := sound.close_closed barrier files
      rw [Tiered.after, closed]
      exact kept

theorem Added.closed_eq {id : String} {vector : Embedding} {answer : Except Halt Unit} {next : Tiered}
    (added : Added settings t id vector answer next) : next.closed = t.closed := by
  cases added with
  | troubled halt next accepted closed_eq foreign unsupported => exact closed_eq
  | _ => rfl

theorem Sound.after_closed (sound : t.Sound settings) (files : FileTree) {op : Operation}
    (open_still : op ≠ .close) : (t.after files op).closed = t.closed := by
  cases barrier : t.barrier with
  | some fault => rw [after_of_barrier barrier]
  | none =>
    cases op with
    | add id vector => exact (sound.add_added barrier id vector files).1.closed_eq
    | remove id => exact (sound.remove_removed barrier id files).1.closed_eq
    | search query count =>
      rw [Tiered.after, search_of_free barrier]
    | save => rw [Tiered.after, save_index]
    | close => exact absurd rfl open_still

theorem create_of_snapshot {files : FileTree} {path : String}
    (dir : settings.effective.dir = some path) (there : SnapshotFile.existsIn files path = true) :
    create settings files =
      (((SnapshotFile.read files path).bind fun snapshot =>
          (Promoted.fresh settings).load snapshot.entries).map
        fun p => ⟨settings.effective, .promoted p, false, false⟩, files) := by
  have dir_again : settings.effective.effective.dir = some path := by
    rw [Settings.effective_effective, dir]
  rw [create]
  simp only [dir, there, if_true, Promoted.restore_eq dir_again there, fresh_effective]
  rcases SnapshotFile.read files path with halt | snapshot
  · rfl
  · simp only [Except.bind]
    rcases (Promoted.fresh settings).load snapshot.entries with halt | p <;> rfl

theorem create_without_snapshot {files : FileTree}
    (absent : ∀ path, settings.effective.dir = some path → SnapshotFile.existsIn files path = false) :
    create settings files = (.ok ⟨settings.effective, .scan .empty, false, false⟩, files) := by
  rw [create]
  cases dir : settings.effective.dir with
  | none => simp
  | some path => simp [absent path dir]

theorem create_cases {files rest : FileTree} (made : create settings files = (.ok t, rest)) :
    (t = ⟨settings.effective, .scan .empty, false, false⟩ ∧
        ∀ path, settings.effective.dir = some path → SnapshotFile.existsIn files path = false) ∨
      ∃ path snapshot p, settings.effective.dir = some path ∧
        SnapshotFile.existsIn files path = true ∧ SnapshotFile.read files path = .ok snapshot ∧
        (Promoted.fresh settings).load snapshot.entries = .ok p ∧
        t = ⟨settings.effective, .promoted p, false, false⟩ := by
  by_cases found : ∃ path, settings.effective.dir = some path ∧ SnapshotFile.existsIn files path = true
  · rcases found with ⟨path, dir, there⟩
    right
    rw [create_of_snapshot dir there] at made
    rcases read : SnapshotFile.read files path with halt | snapshot
    · rw [read] at made
      cases made
    · rw [read] at made
      cases loaded : (Promoted.fresh settings).load snapshot.entries with
      | error halt =>
        simp only [Except.bind, loaded] at made
        cases made
      | ok p =>
        simp only [Except.bind, loaded] at made
        cases made
        exact ⟨path, snapshot, p, dir, there, read, loaded, rfl⟩
  · have absent (path : String) (dir : settings.effective.dir = some path) :
        SnapshotFile.existsIn files path = false :=
      Bool.eq_false_iff.mpr fun there => found ⟨path, dir, there⟩
    rw [create_without_snapshot absent] at made
    cases made
    exact Or.inl ⟨rfl, absent⟩

theorem create_sound {files rest : FileTree} (made : create settings files = (.ok t, rest)) :
    t.Sound settings := by
  rcases create_cases made with ⟨rfl, _⟩ | ⟨path, snapshot, p, _, _, _, loaded, rfl⟩
  · exact ⟨rfl, Entries.sound_nil, by simp [Active.poisoned]⟩
  · rcases Promoted.load_ok loaded with ⟨sound, sane, _⟩
    refine ⟨rfl, sound, ?_⟩
    intro harmed
    rw [Active.poisoned, sane] at harmed
    cases harmed

/-- The indexes that operations lead to, whatever happens to the files meanwhile. -/
inductive Reachable (settings : Settings) : Tiered → Prop
  | created {t : Tiered} (files rest : FileTree) (made : create settings files = (.ok t, rest)) :
      Reachable settings t
  | stepped {t : Tiered} (reachable : Reachable settings t) (files : FileTree) (op : Operation) :
      Reachable settings (t.after files op)
  | relisted {t : Tiered} (reachable : Reachable settings t) (active : Active)
      (same : t.active.Relisted active) : Reachable settings { t with active }

theorem Sound.relisted (sound : t.Sound settings) {active : Active}
    (same : t.active.Relisted active) : Sound settings { t with active } :=
  sound.with_active (same.sound sound.active) fun harmed =>
    sound.harm_shown (same.poisoned_eq ▸ harmed)

theorem Reachable.sound (reachable : Reachable settings t) : t.Sound settings := by
  induction reachable with
  | created files rest made => exact create_sound made
  | stepped _ files op ih => exact ih.after files op
  | relisted _ active same ih => exact ih.relisted same

end Tiered

end EmbeddingIndex
