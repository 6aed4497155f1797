import EmbeddingIndex.Proofs.CommandLine
import EmbeddingIndex.Proofs.Run
import EmbeddingIndex.Proofs.Tiered.Filling
import EmbeddingIndex.Proofs.Tiered.Restart
/-!
What commands do to a directory's snapshot. Indexing writes it at the very end or not at all, and
looking writes nothing.
-/

namespace EmbeddingIndex

namespace Program

open Run

theorem looks_loadOrStandard (path : String) : (loadOrStandard path).Looks := by
  intro files
  rw [loadOrStandard]
  split <;> rfl

theorem looks_inspect (dir : String) : (inspect dir).Looks := by
  intro files
  rw [inspect]
  split
  · split <;> rfl
  · rfl

theorem save_of_doing {index : Tiered} {files after : FileTree}
    (ran : doing (fun files =>
      let step := index.save files
      (step.answer.mapError .fault, step.files)) files = (.ok (), after)) :
    (index.save files).answer = .ok () ∧ (index.save files).files = after := by
  obtain ⟨answer_eq, files_eq⟩ := Prod.mk.inj (doing_eq_ok ran)
  refine ⟨?_, files_eq⟩
  rcases answer : (index.save files).answer with fault | _
  · rw [answer] at answer_eq
    cases answer_eq
  · rfl

theorem loaded_effective {path : String} {loaded : Settings} {files : FileTree}
    (found : (loadOrStandard path files).1 = .ok loaded) : loaded.effective = loaded := by
  rw [loadOrStandard] at found
  split at found
  · rcases result : Settings.load files path with fault | settings
    · rw [result] at found
      cases found
    · rw [result] at found
      cases found
      rw [Settings.load] at result
      split at result
      · cases result
      · split at result
        · cases result
        · rename_i text _
          split at result
          · cases result
          · rename_i parsed
            cases result
            obtain ⟨raw, _, rfl⟩ := Option.map_eq_some_iff.mp parsed
            exact raw.effective_effective
  · cases found
    exact Settings.unset.effective_effective

theorem chosen_ne_empty {e : Environment} {given : Option String} {loaded : Settings} {chosen : String}
    (filled : given ≠ some "") (normal : loaded.effective = loaded)
    (choice : chooseDir e given loaded = .ok chosen) : chosen ≠ "" := by
  rw [chooseDir.eq_def] at choice
  split at choice
  · cases choice
    rintro rfl
    exact filled rfl
  · rename_i set
    cases choice
    rw [← normal] at set
    exact Settings.effective_dir_ne_empty set
  · rw [standardDir] at choice
    split at choice
    · rename_i standard
      cases choice
      obtain ⟨base, _, rfl⟩ := Option.map_eq_some_iff.mp standard
      exact Path.join_ne_empty _ (by decide)
    · cases choice

theorem exit_ne_zero_of_failure (failure : Failure) : failure.report.exit ≠ 0 := by
  cases failure <;> exact Nat.succ_ne_zero _

section

variable [Runtime]

theorem addRecords_widens (t : Tiered) (records : List Entry) : (addRecords t records).Widens := by
  intro files
  induction records generalizing t files with
  | nil => exact .refl files
  | cons record rest ih =>
    have added := t.add_widened record.id record.vector files
    rw [addRecords]
    dsimp only
    split
    · exact added.trans (ih _ _)
    · exact added

theorem openIndex_widens (settings : Settings) (records : Option String) :
    (openIndex settings records).Widens := by
  have created : (doing (Tiered.create settings)).Looks := Tiered.create_files settings
  rw [openIndex]
  apply created.widens.bind
  intro index
  cases records with
  | none => exact (looks_pure index).widens
  | some path =>
    apply (looks_look _).widens.bind
    intro read
    exact (looks_lift read).widens.bind (addRecords_widens index)

theorem search_widens (settings : Settings) (records : Option String) (query : Embedding)
    (count : Nat) : (search settings records query count).Widens := by
  apply (openIndex_widens settings records).bind
  intro index
  have searched : (doing fun files =>
      let step := index.search query count files
      (step.answer, step.files)).Looks := Tiered.search_files index query count
  exact searched.widens.bind fun hits => (looks_pure _).widens

theorem indexRecords_spares (settings : Settings) (records : String) :
    (indexRecords settings records).Spares := by
  apply (openIndex_widens settings (some records)).bind_spares
  intro index
  apply Spares.bind_look
  intro files after failure ran
  rcases saved : (index.save files).answer with fault | _
  · have kept := Tiered.files_of_failed_save saved
    simp only [doing, saved, Prod.mk.injEq] at ran
    rw [← ran.2, kept]
    exact .refl files
  · simp [doing, saved, Except.mapError] at ran

theorem execute_search_widens (e : Environment) (config records : Option String) (query : String)
    (count : Nat) (dir : Option String) :
    (execute e ⟨config, .search records query count dir⟩).Widens := by
  apply (looks_lift _).widens.bind
  intro path
  apply (looks_loadOrStandard path).widens.bind
  intro settings
  have chosen : ((lift (chooseDir e dir settings)).bind fun dir =>
      Run.pure { settings with dir := some dir }).Looks :=
    (looks_lift _).bind fun _ => looks_pure _
  -- Without records the directory has to be known; the rest is the same.
  dsimp only
  split
  · apply chosen.widens.bind
    intro settings
    split
    · exact (looks_fail _).widens
    · exact search_widens _ _ _ _
  · apply (looks_pure settings).widens.bind
    intro settings
    split
    · exact (looks_fail _).widens
    · exact search_widens _ _ _ _

theorem looks_execute_inspect (e : Environment) (config dir : Option String) :
    (execute e ⟨config, .inspect dir⟩).Looks := by
  apply (looks_lift _).bind
  intro path
  apply (looks_loadOrStandard path).bind
  intro settings
  exact (looks_lift _).bind looks_inspect

theorem execute_index_spares (e : Environment) (config : Option String) (records : String)
    (dir : Option String) (threshold : Option Nat) :
    (execute e ⟨config, .index records dir threshold⟩).Spares := by
  apply (looks_lift _).widens.bind_spares
  intro path
  apply (looks_loadOrStandard path).widens.bind_spares
  intro settings
  apply (looks_lift _).widens.bind_spares
  intro chosen
  exact indexRecords_spares _ records

theorem addRecords_filling {settings : Settings} {start t u : Tiered} {m : Contents}
    {files now after : FileTree} {records : List Entry}
    (filling : Tiered.Filling settings start files m t now)
    (ran : addRecords t records now = (.ok u, after)) :
    Tiered.Filling settings start files (m.setAll records) u after := by
  induction records generalizing m t now with
  | nil =>
    cases ran
    exact filling
  | cons record rest ih =>
    rw [addRecords] at ran
    dsimp only at ran
    split at ran
    · rename_i added
      exact ih (filling.add added) ran
    · cases ran

theorem openIndex_filling {settings : Settings} {path : String} {files after : FileTree}
    {index : Tiered}
    (ran : openIndex settings (some path) files = (.ok index, after)) :
    ∃ start given, Tiered.create settings files = (.ok start, files) ∧
      readRecordFile path files = .ok given ∧
      Tiered.Filling settings start files ((Contents.initial settings files).setAll given) index
        after := by
  rw [openIndex] at ran
  obtain ⟨start, rest, created, continued⟩ := bind_eq_ok ran
  have made := doing_eq_ok created
  have rest_eq := Tiered.create_files settings files
  rw [made] at rest_eq
  obtain rfl : files = rest := rest_eq.symm
  obtain ⟨result, _, looked, added⟩ := bind_eq_ok continued
  cases looked
  obtain ⟨given, _, read, filled⟩ := bind_eq_ok added
  obtain ⟨read_eq, rfl⟩ := Prod.mk.inj read
  exact ⟨start, given, made, read_eq, addRecords_filling (.of_create made) filled⟩

inductive Stored (files : FileTree) (dir : String) : Entries → Prop
  | snapshot (s : Snapshot) (there : SnapshotFile.existsIn files dir = true)
      (read : SnapshotFile.read files dir = .ok s) : Stored files dir s.entries
  | nothing (missing : SnapshotFile.existsIn files dir = false) : Stored files dir []

/-- What an index command that succeeds prints and leaves, by the entries that were stored and those
that were given. -/
structure Indexed (settings : Settings) (dir : String) (stored given : Entries) (files after : FileTree)
    (out : String) (mode : Mode) (saved : Bool) : Prop where
  out_eq : ∃ width, out = printed (.record [("count", .natural (stored ++ given).ids.toFinset.card),
    ("dimension", .optional .natural width), ("mode", .text mode.name), ("saved", .boolean saved)])
  promoted_iff : mode = .promoted ↔ saved = true
  saved_iff : saved = true ↔ SnapshotFile.existsIn files dir = true ∨
    settings.effective.threshold < given.ids.toFinset.card
  written : mode = .promoted → (stored ++ given).Addressable →
    ∃ s, SnapshotFile.read after dir = .ok s ∧ s.entries.Hold (Contents.ofEntries (stored ++ given))
  absent : mode = .exact → SnapshotFile.existsIn after dir = false

variable {settings : Settings} {dir : String} {files rest after : FileTree} {start : Tiered}

theorem stored_of_create (chosen : settings.effective.dir = some dir)
    (made : Tiered.create settings files = (.ok start, rest)) :
    ∃ stored, Stored files dir stored ∧
      Contents.initial settings files = Contents.ofEntries stored ∧
      (start.mode = .promoted ↔ SnapshotFile.existsIn files dir = true) := by
  rw [Contents.initial, chosen]
  dsimp only
  rcases Tiered.create_cases made with ⟨rfl, absent⟩ | ⟨path, s, p, dir_eq, there, read, _, rfl⟩
  · have missing := absent dir chosen
    refine ⟨[], .nothing missing, ?_, ?_⟩
    · simp [missing, Contents.ofEntries]
    · simp [missing, Tiered.mode]
  · obtain rfl : dir = path := Option.some.inj (chosen.symm.trans dir_eq)
    refine ⟨s.entries, .snapshot s there read, ?_, ?_⟩
    · simp [there, read]
    · simp [there, Tiered.mode]

section Filled

variable {stored given : Entries} {index : Tiered} {middle last : FileTree}

theorem indexSummary_eq (chosen : settings.effective.dir = some dir) (sound : index.Sound settings)
    (free : index.barrier = none) (hold : index.entries.Hold (Contents.ofEntries (stored ++ given))) :
    indexSummary index last = .record [("count", .natural (stored ++ given).ids.toFinset.card),
      ("dimension", .optional .natural index.width), ("mode", .text index.mode.name),
      ("saved", .boolean (SnapshotFile.existsIn last dir))] := by
  obtain ⟨unharmed, still_open⟩ := (Tiered.barrier_eq_none_iff index).mp free
  rw [indexSummary, sound.size_eq still_open unharmed, hold.length_eq, sound.settings_eq, chosen]
  rfl

theorem saved_iff_of_filling (was : Stored files dir stored)
    (start_mode : start.mode = .promoted ↔ SnapshotFile.existsIn files dir = true)
    (filling : Tiered.Filling settings start files (Contents.ofEntries (stored ++ given)) index middle) :
    index.mode = .promoted ↔ SnapshotFile.existsIn files dir = true ∨
      settings.effective.threshold < given.ids.toFinset.card := by
  have count_eq := filling.hold.length_eq
  cases was with
  | snapshot s there read =>
    refine ⟨fun _ => Or.inl there, fun _ => ?_⟩
    cases mode : index.mode with
    | promoted => rfl
    | exact =>
      have started := (filling.exact mode).1
      rw [start_mode.mpr there] at started
      cases started
  | nothing missing =>
    -- The start was a scan, so only the threshold can have ended it.
    rw [List.nil_append] at count_eq
    have scanning : start.mode ≠ .promoted := by
      rw [ne_eq, start_mode, missing]
      decide
    rw [missing, ← count_eq]
    constructor
    · intro promoted
      exact Or.inr ((filling.promoted promoted).resolve_left scanning)
    · intro beyond
      have large := beyond.resolve_left (by decide)
      cases mode : index.mode with
      | promoted => rfl
      | exact => exact absurd large (Nat.not_lt.mpr (filling.exact mode).2.2)

end Filled

theorem indexRecords_ok {path out : String} (chosen : settings.effective.dir = some dir)
    (ran : indexRecords settings path files = (.ok out, after)) :
    ∃ stored given mode saved, Stored files dir stored ∧ readRecordFile path files = .ok given ∧
      Indexed settings dir stored given files after out mode saved := by
  rw [indexRecords] at ran
  obtain ⟨index, middle, opened, continued⟩ := bind_eq_ok ran
  obtain ⟨_, last, saving, looked⟩ := bind_eq_ok continued
  obtain ⟨out_eq, rfl⟩ := Prod.mk.inj looked
  obtain ⟨start, given, made, read, filling⟩ := openIndex_filling opened
  obtain ⟨stored, was, initial_eq, start_mode⟩ := stored_of_create chosen made
  rw [initial_eq, ← Contents.ofEntries_append] at filling
  have mode_iff := saved_iff_of_filling was start_mode filling
  obtain ⟨saved, files_eq⟩ := save_of_doing saving
  obtain ⟨exact_files, promoted_file⟩ := filling.sound.save_ok filling.free chosen saved
  rw [files_eq] at exact_files promoted_file
  have printed_eq : out = printed (indexSummary index last) := (Except.ok.inj out_eq).symm
  rw [indexSummary_eq chosen filling.sound filling.free filling.hold] at printed_eq
  refine ⟨stored, given, index.mode, SnapshotFile.existsIn last dir, was, read, ?_⟩
  have absent (scanning : index.mode = .exact) : SnapshotFile.existsIn last dir = false := by
    rw [exact_files scanning, (filling.exact scanning).2.1, Bool.eq_false_iff]
    intro there
    have promoted := mode_iff.mpr (Or.inl there)
    rw [scanning] at promoted
    cases promoted
  have promoted_iff : index.mode = .promoted ↔ SnapshotFile.existsIn last dir = true := by
    refine ⟨fun promoted => (promoted_file promoted).1, fun there => ?_⟩
    cases mode : index.mode with
    | promoted => rfl
    | exact => exact absurd (there.symm.trans (absent mode)) (by decide)
  refine ⟨⟨_, printed_eq⟩, promoted_iff, promoted_iff.symm.trans mode_iff, ?_, absent⟩
  intro promoted addressable
  obtain ⟨width, read_back⟩ := (promoted_file promoted).2 (filling.hold.addressable addressable)
  exact ⟨_, read_back, filling.hold⟩

/-- The settings and the directory of an index command. Its options come before what the settings
file says. -/
inductive Resolves (e : Environment) (config dir : Option String) (threshold : Option Nat)
    (files : FileTree) : Settings → String → Prop
  | intro {path chosen : String} {loaded : Settings} (located : settingsPath e config = .ok path)
      (found : (loadOrStandard path files).1 = .ok loaded)
      (choice : chooseDir e dir loaded = .ok chosen) :
      Resolves e config dir threshold files
        { loaded with dir := some chosen, threshold := threshold.getD loaded.threshold } chosen

theorem execute_index_ok {e : Environment} {config given : Option String} {threshold : Option Nat}
    {records out : String} (filled : given ≠ some "")
    (ran : execute e ⟨config, .index records given threshold⟩ files = (.ok out, after)) :
    ∃ settings chosen stored entries mode saved,
      Resolves e config given threshold files settings chosen ∧ Stored files chosen stored ∧
        readRecordFile records files = .ok entries ∧
        Indexed settings chosen stored entries files after out mode saved := by
  rw [execute] at ran
  obtain ⟨path, _, lifted, continued⟩ := bind_eq_ok ran
  obtain ⟨located, rfl⟩ := Prod.mk.inj lifted
  obtain ⟨loaded, middle, found, resumed⟩ := bind_eq_ok continued
  have same := looks_loadOrStandard path files
  rw [found] at same
  obtain rfl : files = middle := same.symm
  have found_eq := congrArg Prod.fst found
  obtain ⟨chosen, _, picked, indexed⟩ := bind_eq_ok resumed
  obtain ⟨choice, rfl⟩ := Prod.mk.inj picked
  have named := chosen_ne_empty filled (loaded_effective found_eq) choice
  have dir_eq : (Settings.effective { loaded with
      dir := some chosen, threshold := threshold.getD loaded.threshold }).dir = some chosen := by
    simp [Settings.effective, Option.filter, named]
  obtain ⟨stored, entries, mode, saved, was, read, result⟩ := indexRecords_ok dir_eq indexed
  exact ⟨_, chosen, stored, entries, mode, saved, .intro located found_eq choice, was, read, result⟩

section Report

variable {e : Environment} {arguments : List String} {invocation : Invocation}

theorem run_of_ok {out : String} (parsed : CommandLine.parse arguments = .ok invocation)
    (ran : execute e invocation files = (.ok out, after)) :
    run e arguments files = (⟨0, out, ""⟩, after) := by
  rw [run, parsed]
  dsimp only
  rw [ran]

theorem run_of_error {failure : Failure} (parsed : CommandLine.parse arguments = .ok invocation)
    (ran : execute e invocation files = (.error failure, after)) :
    run e arguments files = (failure.report, after) := by
  rw [run, parsed]
  dsimp only
  rw [ran]

theorem run_files (parsed : CommandLine.parse arguments = .ok invocation) :
    (run e arguments files).2 = (execute e invocation files).2 := by
  rcases ran : execute e invocation files with ⟨failure | out, after⟩
  · rw [run_of_error parsed ran]
  · rw [run_of_ok parsed ran]

end Report

/-- Indexing writes the snapshot of its directory whole or not at all, and no other command touches
one. -/
theorem run_all_or_nothing (e : Environment) (arguments : List String) (rooted : files.Rooted) :
    (∀ fault, CommandLine.parse arguments = .error fault → (run e arguments files).2 = files) ∧
      (∀ config records given threshold,
        CommandLine.parse arguments = .ok ⟨config, .index records given threshold⟩ →
          ((run e arguments files).1.exit ≠ 0 →
            ∀ dir, SnapshotFile.Kept files (run e arguments files).2 dir) ∧
          ((run e arguments files).1.exit = 0 →
            ∃ settings dir stored entries mode saved,
              Resolves e config given threshold files settings dir ∧ Stored files dir stored ∧
                readRecordFile records files = .ok entries ∧
                Indexed settings dir stored entries files (run e arguments files).2
                  (run e arguments files).1.out mode saved)) ∧
      (∀ config records query count given,
        CommandLine.parse arguments = .ok ⟨config, .search records query count given⟩ →
          ∀ dir, SnapshotFile.Kept files (run e arguments files).2 dir) ∧
      (∀ config given, CommandLine.parse arguments = .ok ⟨config, .inspect given⟩ →
        (run e arguments files).2 = files) := by
  refine ⟨?_, ?_, ?_, ?_⟩
  · intro fault parsed
    rw [run, parsed]
  · intro config records given threshold parsed
    rcases ran : execute e ⟨config, .index records given threshold⟩ files with ⟨failure | out, after⟩
    · rw [run_of_error parsed ran]
      refine ⟨fun _ => ?_, fun succeeded => absurd succeeded (exit_ne_zero_of_failure failure)⟩
      exact SnapshotFile.kept_of_widened (execute_index_spares _ _ _ _ _ _ _ _ ran) rooted
    · rw [run_of_ok parsed ran]
      refine ⟨fun failed => absurd rfl failed, fun _ => ?_⟩
      exact execute_index_ok (CommandLine.dir_ne_empty_of_parse parsed) ran
  · intro config records query count given parsed
    rw [run_files parsed]
    exact SnapshotFile.kept_of_widened (execute_search_widens _ _ _ _ _ _ files) rooted
  · intro config given parsed
    rw [run_files parsed]
    exact looks_execute_inspect e config given files

end

def nobody : Environment := ⟨some "/home", none, none, none, none⟩

def recordLine (id coordinates : String) : String :=
  "\x7b\"id\":\"" ++ id ++ "\",\"vector\":[" ++ coordinates ++ "]\x7d\n"

def paired : FileTree := ⟨[], [(["r"], .file (utf8 (recordLine "a" "1" ++ recordLine "b" "2")))]⟩

theorem run_all_or_nothing_paired :
    paired.Rooted ∧
      CommandLine.parse ["index", "r", "--dir", "d", "--threshold", "1"] =
        .ok ⟨none, .index "r" (some "d") (some 1)⟩ ∧
      (run nobody ["index", "r", "--dir", "d", "--threshold", "1"] paired).1.exit = 0 ∧
      ∃ settings dir stored entries mode saved,
        Resolves nobody none (some "d") (some 1) paired settings dir ∧ Stored paired dir stored ∧
          readRecordFile "r" paired = .ok entries ∧
          Indexed settings dir stored entries paired
            (run nobody ["index", "r", "--dir", "d", "--threshold", "1"] paired).2
            (run nobody ["index", "r", "--dir", "d", "--threshold", "1"] paired).1.out mode saved := by
  have rooted : paired.Rooted := by decide
  have parsed : CommandLine.parse ["index", "r", "--dir", "d", "--threshold", "1"] =
      .ok ⟨none, .index "r" (some "d") (some 1)⟩ := rfl
  have succeeded :
      (run nobody ["index", "r", "--dir", "d", "--threshold", "1"] paired).1.exit = 0 := by
    decide +kernel
  have kept := run_all_or_nothing nobody ["index", "r", "--dir", "d", "--threshold", "1"] rooted
  exact ⟨rooted, parsed, succeeded, (kept.2.1 none "r" (some "d") (some 1) parsed).2 succeeded⟩

def aside : FileTree :=
  ⟨[], [(["store"], .directory), (["store", SnapshotFile.name], .file (utf8 "old")),
    (["r"], .file (utf8 (recordLine "a" "1" ++ recordLine "b" "2" ++ recordLine "c" "1,2")))]⟩

/-- A run that fails after the promotion leaves the directory that the two dots need. -/
theorem snapshot_of_failed_index :
    ¬ ∀ (e : Environment) (arguments : List String) (files : FileTree) (config : Option String)
      (records : String) (given : Option String) (threshold : Option Nat) (settings : Settings)
      (dir : String), files.Rooted →
      CommandLine.parse arguments = .ok ⟨config, .index records given threshold⟩ →
      Resolves e config given threshold files settings dir →
      (run e arguments files).1.exit ≠ 0 → SnapshotFile.existsIn files dir = false →
      SnapshotFile.existsIn (run e arguments files).2 dir = false := by
  intro nothing
  have parsed : CommandLine.parse ["index", "r", "--dir", "new/../store", "--threshold", "1"] =
      .ok ⟨none, .index "r" (some "new/../store") (some 1)⟩ := rfl
  have found : (loadOrStandard "/home/.config/bix/config.yaml" aside).1 = .ok .standard := rfl
  have resolved : Resolves nobody none (some "new/../store") (some 1) aside
      { Settings.standard with dir := some "new/../store", threshold := 1 } "new/../store" :=
    .intro rfl found rfl
  have still := nothing _ _ _ _ _ _ _ _ _ (by decide) parsed resolved (by decide +kernel)
    (by decide +kernel)
  have appeared : SnapshotFile.existsIn (run nobody
      ["index", "r", "--dir", "new/../store", "--threshold", "1"] aside).2 "new/../store" = true := by
    decide +kernel
  exact absurd (appeared.symm.trans still) (by decide)

end Program

end EmbeddingIndex
