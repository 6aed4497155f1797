import EmbeddingIndex.Proofs.Tiered.Restart
/-!
Saving is all or nothing, whatever the directory is like and whatever the system refuses. Either the
directory's snapshot file is the one thing that changes, and it decodes to what the index holds, or
nothing changes.
-/

namespace EmbeddingIndex

inductive Saved (refusals : SnapshotFile.Refusals) (files : FileTree) (dir : String)
    (width : Option Nat) (entries : Entries) : Except Fault Unit → FileTree → Prop
  | refused (cause : IoFault)
      (hindered : (∃ stage, refusals stage = some cause) ∨ ¬ SnapshotFile.Writable files dir) :
      Saved refusals files dir width entries (.error (.io cause)) files
  | stored (after : FileTree) (location : Location) (bytes : Bytes)
      (granted : ∀ stage, refusals stage = none) (writable : SnapshotFile.Writable files dir)
      (located : files.locate dir = .ok location) (base_eq : after.base = files.base)
      (there : after.nodeAt (location ++ [SnapshotFile.name]) = some (.file bytes))
      (others : ∀ other, other ≠ location ++ [SnapshotFile.name] →
        after.nodeAt other = files.nodeAt other)
      (found : after.read (SnapshotFile.path dir) = .ok bytes)
      (decoded : entries.Addressable → ∃ listed : Entries,
        Snapshot.decode .blake3 bytes = .ok ⟨1, width, listed⟩ ∧ listed.Perm entries ∧
          listed.ids.Nodup) :
      Saved refusals files dir width entries (.ok ()) after

namespace Promoted

variable [Runtime] {settings : Settings} {p : Promoted} {dir : String}

theorem Sound.saved (sound : p.Sound settings) (sane : p.poisoned = false)
    (configured : settings.effective.dir = some dir) (refusals : SnapshotFile.Refusals)
    (files : FileTree) :
    Saved refusals files dir p.width p.entries (p.saveUnder refusals files).1
      (p.saveUnder refusals files).2 := by
  have done := SnapshotFile.written refusals files dir (.ofEntries p.width p.entries)
  rw [← sound.saveUnder_eq sane configured] at done
  generalize p.saveUnder refusals files = result at done ⊢
  rcases result with ⟨outcome, after⟩
  cases outcome with
  | error fault =>
    cases done with
    | refused cause hindered => exact .refused cause hindered
  | ok _ =>
    have found := (SnapshotFile.read_eq_ok_iff _ _ _).mpr (SnapshotFile.find_of_written done)
    have decoded (addressable : p.entries.Addressable) := Snapshot.decode_encode .blake3
      (.ofEntries p.entries.width p.entries) addressable.snapshot rfl
    rw [← sound.width_eq sane] at decoded
    cases done with
    | stored location granted writable located directory =>
      have inside : location ++ [SnapshotFile.name] ≠ [] := by simp
      refine .stored _ location _ granted writable located rfl ?_ ?_ found ?_
      · rw [FileTree.nodeAt_place _ _ _ _ inside, if_pos rfl]
      · intro other elsewhere
        rw [FileTree.nodeAt_place _ _ _ _ inside, if_neg elsewhere]
      · intro addressable
        exact ⟨p.entries, decoded addressable, List.Perm.refl _,
          (sound.backend sane).entries.ids_nodup⟩

end Promoted

namespace Tiered

variable [Runtime] {settings : Settings} {t : Tiered} {dir : String}

theorem Sound.saved (sound : t.Sound settings) (free : t.barrier = none) (promoted : t.mode = .promoted)
    (configured : settings.effective.dir = some dir) (refusals : SnapshotFile.Refusals)
    (files : FileTree) :
    ∃ outcome, Saved refusals files dir t.width t.entries outcome (t.saveUnder refusals files).files ∧
      (t.saveUnder refusals files).answer = outcome.mapError (.backend "save") := by
  obtain ⟨p, active⟩ := exists_promoted promoted
  obtain ⟨whole, sane_of⟩ := sound.promoted active
  have sane := sane_of ((barrier_eq_none_iff t).mp free).1
  rw [saveUnder_promoted active free, width, Tiered.entries, active]
  exact ⟨_, whole.saved sane configured refusals files, rfl⟩

end Tiered

/-- Saving changes no index. Beside a configured directory it changes nothing on disk for a scan; for
a promoted index, alone or behind a tiered one, it writes the snapshot file and nothing else or fails
and leaves every file as it was. A promoted index that a crash has poisoned saves nothing. The plain
`save` is the case in which the system refuses nothing. -/
theorem save_atomic [Runtime] {settings : Settings} {dir : String}
    (configured : settings.effective.dir = some dir) (refusals : SnapshotFile.Refusals)
    (files : FileTree) :
    (∀ p, Promoted.Reachable settings p →
        (p.poisoned = false →
          Saved refusals files dir p.width p.entries (p.saveUnder refusals files).1
            (p.saveUnder refusals files).2) ∧
        (p.poisoned = true →
          p.engine = .graph ∧
            p.saveUnder refusals files = (.error (.lockPoisoned Promoted.resource), files))) ∧
      ∀ t, Tiered.Reachable settings t → t.closed = false → t.poisoned = false →
        (t.saveUnder refusals files).index = t ∧
          (t.mode = .exact → t.saveUnder refusals files = ⟨.ok (), t, files⟩) ∧
          (t.mode = .promoted → ∃ outcome,
            Saved refusals files dir t.width t.entries outcome (t.saveUnder refusals files).files ∧
              (t.saveUnder refusals files).answer = outcome.mapError (.backend "save")) := by
  constructor
  · intro p reachable
    have sound := reachable.sound
    refine ⟨fun sane => sound.saved sane configured refusals files, fun harmed => ?_⟩
    have graph := Settings.graph_of_unsupported (sound.poisoned_only harmed)
    exact ⟨sound.engine_eq.trans graph,
      Promoted.saveUnder_of_poisoned harmed (sound.dir_eq.trans configured) refusals files⟩
  · intro t reachable still_open unharmed
    have free := (Tiered.barrier_eq_none_iff t).mpr ⟨unharmed, still_open⟩
    refine ⟨Tiered.saveUnder_index refusals t files, fun scanning => ?_, fun promoted => ?_⟩
    · obtain ⟨s, active⟩ := Tiered.exists_scan scanning
      exact Tiered.saveUnder_of_scan active free refusals files
    · exact reachable.sound.saved free promoted configured refusals files

def fullDisk : SnapshotFile.Refusals
  | .content => some (.described "No space left on device (os error 28)")
  | .creation | .move => none

theorem save_atomic_thinned :
    Tiered.thinned.mode = .promoted ∧
      (Tiered.thinned.save ⟨[], [(["store"], .directory)]⟩).answer = .ok () ∧
      (∃ outcome, Saved .none ⟨[], [(["store"], .directory)]⟩ "store" Tiered.thinned.width
          Tiered.thinned.entries outcome
          (Tiered.thinned.save ⟨[], [(["store"], .directory)]⟩).files ∧
        (Tiered.thinned.save ⟨[], [(["store"], .directory)]⟩).answer =
          outcome.mapError (.backend "save")) ∧
      Saved fullDisk ⟨[], [(["store"], .directory)]⟩ "store" none []
        ((Promoted.fresh ⟨1, some "store", .graph, .unset⟩).saveUnder fullDisk
          ⟨[], [(["store"], .directory)]⟩).1
        ((Promoted.fresh ⟨1, some "store", .graph, .unset⟩).saveUnder fullDisk
          ⟨[], [(["store"], .directory)]⟩).2 := by
  have blank : Promoted.Reachable ⟨1, some "store", .graph, .unset⟩ (.fresh _) :=
    .created ⟨[], [(["store"], .directory)]⟩ _ (by rfl)
  have configured : (Settings.effective ⟨1, some "store", .graph, .unset⟩).dir = some "store" := by rfl
  have granted := save_atomic configured .none ⟨[], [(["store"], .directory)]⟩
  have stopped := save_atomic configured fullDisk ⟨[], [(["store"], .directory)]⟩
  exact ⟨by rfl, by rfl, (granted.2 _ Tiered.thinned_reachable (by rfl) (by rfl)).2.2 (by rfl),
    (stopped.1 _ blank).1 (by rfl)⟩

/-- A graph that no memory holds has poisoned its index, which then has no fault of the files to tell. -/
theorem save_of_poisoned :
    ¬ ∀ (settings : Settings) (dir : String), settings.effective.dir = some dir →
      ∀ p, Promoted.Reachable settings p → ∀ files, (p.save files).1 = .ok () ∨
        ∃ cause, (p.save files).1 = .error (.io cause) := by
  intro saves
  have start : Promoted.Reachable ⟨1, some "d", .graph, ⟨1152921504606846976, 0, ⟨0⟩, 0, 0⟩⟩ (.fresh _) :=
    .created ⟨[], [(["d"], .directory)]⟩ _ (by rfl)
  have answer := saves _ "d" (by rfl) _ (start.added "a" [⟨0x3f800000⟩]) ⟨[], [(["d"], .directory)]⟩
  have refused : (((Promoted.fresh ⟨1, some "d", .graph, ⟨1152921504606846976, 0, ⟨0⟩, 0, 0⟩⟩).add "a"
      [⟨0x3f800000⟩]).2.save ⟨[], [(["d"], .directory)]⟩).1 =
        .error (.lockPoisoned Promoted.resource) := by rfl
  rw [refused] at answer
  simp at answer

end EmbeddingIndex
