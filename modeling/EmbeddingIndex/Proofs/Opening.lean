import EmbeddingIndex.Proofs.Promoted
import EmbeddingIndex.Proofs.Snapshot.RoundTrip
/-!
Opening a snapshot of any content. The graph checks its batch before it builds anything and the scan
checks each entry beside those it has already stored; both stop at the same entry, or hold the same.
-/

namespace EmbeddingIndex

theorem rejection_or_own (id : String) (vector : Embedding) (established : Option Nat) :
    rejection id vector (established.or (some vector.length)) = rejection id vector established := by
  cases established with
  | none => simp [rejection, widthFault]
  | some width => rfl

namespace Entries

/-- The fault of the first entry that is empty, not finite, or not as wide as the first of all. -/
def firstFault (entries : Entries) : Option Fault :=
  entries.findSome? fun entry => rejection entry.id entry.vector entries.width

end Entries

namespace Scan

/-- What additions of entries, one by one, can lead to. Before each of them the table lists what it
holds in any order. -/
inductive Filled : Scan → Entries → Except Fault Scan → Prop
  | done (s : Scan) : Filled s [] (.ok s)
  | refused (s : Scan) (order : Entries) (same : s.entries.Perm order) (entry : Entry) (rest : Entries)
      (fault : Fault) (rejected : rejection entry.id entry.vector order.width = some fault) :
      Filled s (entry :: rest) (.error fault)
  | added (s : Scan) (order : Entries) (same : s.entries.Perm order) (entry : Entry) (rest : Entries)
      (result : Except Fault Scan)
      (accepted : rejection entry.id entry.vector order.width = none)
      (filled : Filled ⟨order.put entry.id entry.vector⟩ rest result) :
      Filled s (entry :: rest) result

theorem filled_addAll (s : Scan) (entries : Entries) :
    Filled s entries ((s.addAll entries).1.map fun _ => (s.addAll entries).2) := by
  induction entries generalizing s with
  | nil => exact .done s
  | cons entry rest ih =>
    rw [addAll, add, width]
    cases checked : rejection entry.id entry.vector s.entries.width with
    | some fault => exact .refused s s.entries (List.Perm.refl _) entry rest fault checked
    | none => exact .added s s.entries (List.Perm.refl _) entry rest _ checked (ih _)

theorem Filled.outcome {s : Scan} {entries : Entries} {result : Except Fault Scan}
    (filled : Filled s entries result) (sound : s.entries.Sound) :
    (∀ fault, result = .error fault ↔ (entries.findSome? fun entry =>
        rejection entry.id entry.vector (s.entries.width.or entries.width)) = some fault) ∧
      ∀ t m, result = .ok t → s.entries.Hold m → t.entries.Sound ∧
        t.entries.Hold (m.setAll entries) := by
  induction filled with
  | done s =>
    refine ⟨by simp, ?_⟩
    intro t m same hold
    cases same
    exact ⟨sound, hold⟩
  | refused s order same entry rest fault rejected =>
    have first : rejection entry.id entry.vector
        (s.entries.width.or (Entries.width (entry :: rest))) = some fault := by
      rw [sound.width_perm same]
      exact (rejection_or_own entry.id entry.vector order.width).trans rejected
    refine ⟨?_, fun t m same => by cases same⟩
    intro other
    rw [List.findSome?_cons_of_isSome (by simp [first]), first]
    simp
  | added s order same entry rest result accepted filled ih =>
    have ordered := sound.perm same
    have width_eq : (order.put entry.id entry.vector).width = some entry.vector.length :=
      Entries.width_put order entry.id entry.vector accepted
    have fixed : s.entries.width.or (Entries.width (entry :: rest)) = some entry.vector.length := by
      rw [sound.width_perm same]
      cases established : order.width with
      | none => rfl
      | some width =>
        obtain ⟨_, _, fits⟩ := (rejection_eq_none_iff _ _ _).mp accepted
        exact congrArg some (fits width established)
    have own : rejection entry.id entry.vector (some entry.vector.length) = none := by
      rw [← fixed, sound.width_perm same]
      exact (rejection_or_own entry.id entry.vector order.width).trans accepted
    obtain ⟨stops, holds⟩ := ih (ordered.put entry.id entry.vector accepted)
    constructor
    · intro fault
      rw [stops, width_eq, fixed, List.findSome?_cons_of_isNone (by simp [own])]
      rfl
    · intro t m finished hold
      apply holds t _ finished
      apply ((hold.perm same).push entry.id entry.vector).perm
      exact (Entries.put_perm_push order entry.id entry.vector ordered.ids_nodup).symm

/-- Entries load into a scan unless one is at fault, and then the first of those is reported. -/
theorem addAll_eq_error_iff (entries : Entries) (fault : Fault) :
    (empty.addAll entries).1 = .error fault ↔ entries.firstFault = some fault := by
  have outcome := ((filled_addAll empty entries).outcome Entries.sound_nil).1 fault
  refine Iff.trans ?_ outcome
  rcases empty.addAll entries with ⟨cause | _, s⟩ <;> simp [Except.map]

theorem addAll_of_faultless {entries : Entries} (faultless : entries.firstFault = none) :
    ∃ s, empty.addAll entries = .done s := by
  rcases added : empty.addAll entries with ⟨cause | _, s⟩
  · have first := (addAll_eq_error_iff entries cause).mp (by rw [added])
    rw [faultless] at first
    cases first
  · exact ⟨s, rfl⟩

end Scan

namespace Graph

theorem gather_of_firstFault {entries : Entries} {fault : Fault}
    (first : entries.firstFault = some fault) : gather none [] entries = .error fault := by
  have stopped : ((Scan.mk []).addAll entries).1 = .error fault :=
    (Scan.addAll_eq_error_iff entries fault).mpr first
  change gather (Entries.width []) [] entries = .error fault
  rw [gather_eq_addAll]
  rcases added : (Scan.mk []).addAll entries with ⟨cause | _, s⟩
  · rw [added] at stopped
    cases stopped
    rfl
  · rw [added] at stopped
    cases stopped

variable [Runtime] {tuning : Tuning} {entries live : Entries}

theorem ofEntries_of_crowded (gathered : gather none [] entries = .ok live)
    (beyond : tuning.effective.capacity < live.length) :
    ofEntries tuning entries = .error (.fault (.graph .full)) := by
  have filled : ¬ live.isEmpty = true := by
    rw [List.isEmpty_iff]
    rintro rfl
    exact absurd beyond (Nat.not_lt_zero _)
  have too_many : (empty tuning).tuning.capacity < live.length := beyond
  have built : (empty tuning).rebuild live = .failed (.fault (.graph .full)) (empty tuning).clear := by
    rw [rebuild, if_neg filled, if_pos too_many]
  rw [ofEntries, gathered]
  simp only [built, Attempt.failed]

theorem ofEntries_of_fitting (gathered : gather none [] entries = .ok live)
    (small : live.length ≤ tuning.effective.capacity)
    (supported : live ≠ [] → tuning.effective.Supported) :
    ∃ g, ofEntries tuning entries = .ok g ∧ g.tombstones = 0 ∧ g.entries = live := by
  have sound := gather_sound gathered
  have done : ((empty tuning).rebuild live).1 = .ok () := by
    by_cases nothing : live = []
    · rw [nothing]
      rfl
    · exact rebuild_ok (empty tuning) (supported nothing) live sound small
  have built : (empty tuning).rebuild live = .done _ := Prod.ext done rfl
  have lands := rebuild_lands (empty tuning) live sound
  obtain ⟨inserted, whole, _⟩ := lands.sound (by simp [done])
  have entries_eq := lands.entries_eq done
  have total := whole.slots_length
  rw [slots_rebuild built, entries_eq, List.length_map] at total
  exact ⟨_, (ofEntries_eq_ok_iff tuning entries _).mpr ⟨live, gathered, built⟩,
    Nat.left_eq_add.mp total, entries_eq⟩

end Graph

namespace Promoted

section

variable [Runtime] {settings : Settings} {files : FileTree} {path : String} {snapshot : Snapshot}

theorem restore_eq_load (dir : settings.effective.dir = some path)
    (read : SnapshotFile.read files path = .ok snapshot) (preference : Preference) :
    restore { settings with preference } files =
      ((fresh { settings with preference }).load snapshot.entries, files) := by
  have dir_kept : (Settings.effective { settings with preference }).dir = some path := dir
  rw [restore_eq dir_kept (SnapshotFile.existsIn_of_read read), read]
  rfl

theorem load_of_scan {preference : Preference} (scan : Engine.choose preference .here = .scan)
    (entries : Entries) :
    (fresh { settings with preference }).load entries =
      match Scan.empty.addAll entries with
      | (.ok _, s) => .ok { fresh settings with backend := .scan s }
      | (.error fault, _) => .error (.fault fault) := by
  rw [load, fresh, scan]
  simp only [Backend.empty, Backend.load]
  rcases Scan.empty.addAll entries with ⟨fault | _, s⟩ <;> rfl

theorem load_of_graph {preference : Preference} (graph : Engine.choose preference .here = .graph)
    (entries : Entries) :
    (fresh { settings with preference }).load entries =
      (Graph.ofEntries settings.effective.tuning entries).map fun g =>
        { fresh settings with backend := .graph g } := by
  rw [load, fresh, graph]
  simp only [Backend.empty, Backend.load]
  change Except.map _ (Except.map _ (Graph.ofEntries settings.effective.tuning entries)) = _
  rcases Graph.ofEntries settings.effective.tuning entries with halt | g <;> rfl

/-- Whatever entries a snapshot holds, and whatever width it states, both engines refuse it with the
first fault among the entries, or neither finds one. Then the scan holds the last vector of each id,
and so does the graph, without a tombstone, if it has room for that many ids. -/
theorem restore_agrees {byGraph byScan : Preference}
    (graph : Engine.choose byGraph .here = .graph) (scan : Engine.choose byScan .here = .scan)
    (dir : settings.effective.dir = some path) (read : SnapshotFile.read files path = .ok snapshot) :
    (∀ fault, snapshot.entries.firstFault = some fault →
        restore { settings with preference := byGraph } files = (.error (.fault fault), files) ∧
        restore { settings with preference := byScan } files = (.error (.fault fault), files)) ∧
      (snapshot.entries.firstFault = none →
        (∃ s : Scan, restore { settings with preference := byScan } files =
            (.ok { fresh settings with backend := .scan s }, files) ∧
          s.entries.Hold (Contents.ofEntries snapshot.entries)) ∧
        (settings.effective.tuning.capacity < snapshot.entries.ids.toFinset.card →
          restore { settings with preference := byGraph } files =
            (.error (.fault (.graph .full)), files)) ∧
        (snapshot.entries.ids.toFinset.card ≤ settings.effective.tuning.capacity →
          snapshot.entries = [] ∨ settings.effective.tuning.Supported →
          ∃ g : Graph, restore { settings with preference := byGraph } files =
              (.ok { fresh settings with backend := .graph g }, files) ∧
            g.tombstones = 0 ∧ g.entries.Hold (Contents.ofEntries snapshot.entries))) := by
  have tuning_eq : settings.effective.tuning.effective = settings.effective.tuning :=
    Tuning.effective_effective settings.tuning
  rw [restore_eq_load dir read, restore_eq_load dir read, load_of_graph graph, load_of_scan scan]
  constructor
  · intro fault first
    have stopped := (Scan.addAll_eq_error_iff snapshot.entries fault).mpr first
    constructor
    · rw [Graph.ofEntries, Graph.gather_of_firstFault first]
      rfl
    · rcases added : Scan.empty.addAll snapshot.entries with ⟨cause | _, s⟩
      · rw [added] at stopped
        cases stopped
        rfl
      · rw [added] at stopped
        cases stopped
  · intro faultless
    obtain ⟨s, added⟩ := Scan.addAll_of_faultless faultless
    obtain ⟨sound, hold⟩ := Scan.hold_addAll added
    have gathered := (Graph.gather_eq_ok_iff snapshot.entries s.entries).mpr added
    have length_eq := hold.length_eq
    rw [← length_eq]
    refine ⟨⟨s, by rw [added]; rfl, hold⟩, ?_, ?_⟩
    · intro beyond
      rw [Graph.ofEntries_of_crowded gathered (tuning_eq.symm ▸ beyond)]
      rfl
    · intro small fits
      have supported (filled : s.entries ≠ []) : settings.effective.tuning.effective.Supported := by
        rw [tuning_eq]
        refine fits.resolve_left fun nothing => filled ?_
        rw [← List.length_eq_zero_iff, length_eq, nothing]
        rfl
      rw [← tuning_eq] at small
      obtain ⟨g, made, all_live, entries_eq⟩ := Graph.ofEntries_of_fitting gathered small supported
      exact ⟨g, by rw [made]; rfl, all_live, entries_eq ▸ hold⟩

end

def cluttered : Snapshot :=
  ⟨1, some 7, [⟨"a", [⟨0x3f800000⟩]⟩, ⟨"b", [⟨0x40000000⟩]⟩, ⟨"a", [⟨0x40400000⟩]⟩]⟩

def clutteredFiles : FileTree :=
  ⟨[], [(["d"], .directory), (["d", SnapshotFile.name], .file (cluttered.encode .blake3))]⟩

theorem read_cluttered : SnapshotFile.read clutteredFiles "d" = .ok cluttered := by
  have found : clutteredFiles.find (SnapshotFile.path "d") = .ok (.file (cluttered.encode .blake3)) :=
    FileTree.find_of_file (by rfl) (by rfl) (by rfl)
  have addressable : cluttered.Addressable :=
    ⟨fun width stated => by cases stated; decide, by decide, by decide, by decide⟩
  rw [SnapshotFile.read, FileTree.read, found]
  exact Snapshot.decode_encode .blake3 cluttered addressable rfl

theorem restore_agrees_cluttered :
    cluttered.entries.firstFault = none ∧ cluttered.entries.ids.toFinset.card = 2 ∧
      (∃ s : Scan, restore ⟨0, some "d", .exact, .unset⟩ clutteredFiles =
          (.ok { fresh ⟨0, some "d", .auto, .unset⟩ with backend := .scan s }, clutteredFiles) ∧
        s.entries.Hold (Contents.ofEntries cluttered.entries)) ∧
      ∃ g : Graph, restore ⟨0, some "d", .auto, .unset⟩ clutteredFiles =
          (.ok { fresh ⟨0, some "d", .auto, .unset⟩ with backend := .graph g }, clutteredFiles) ∧
        g.tombstones = 0 ∧ g.entries.Hold (Contents.ofEntries cluttered.entries) := by
  have faultless : cluttered.entries.firstFault = none := by decide
  have supported : (Settings.effective ⟨0, some "d", .auto, .unset⟩).tuning.Supported :=
    Tuning.supported_of_held (by decide) (by decide)
  obtain ⟨_, loads⟩ := @restore_agrees _ ⟨0, some "d", .auto, .unset⟩ clutteredFiles "d" cluttered
    .auto .exact rfl rfl (by rfl) read_cluttered
  obtain ⟨scanned, _, built⟩ := loads faultless
  exact ⟨faultless, by decide, scanned, built (by decide) (Or.inr supported)⟩

/-- A graph that no memory holds is no place for entries that a scan would take. -/
theorem restore_crash_of_cluttered :
    ¬ ∀ (settings : Settings) (files : FileTree) (path : String) (snapshot : Snapshot),
      Engine.choose settings.preference .here = .graph → settings.effective.dir = some path →
      SnapshotFile.read files path = .ok snapshot → snapshot.entries.firstFault = none →
      snapshot.entries.ids.toFinset.card ≤ settings.effective.tuning.capacity →
      ∃ p, (restore settings files).1 = .ok p := by
  intro opens
  obtain ⟨p, opened⟩ := opens ⟨0, some "d", .auto, ⟨1152921504606846976, 0, ⟨0⟩, 0, 0⟩⟩
    clutteredFiles "d" cluttered rfl (by rfl) read_cluttered (by decide) (by decide)
  have loaded := @restore_eq_load _ ⟨0, some "d", .auto, ⟨1152921504606846976, 0, ⟨0⟩, 0, 0⟩⟩
    clutteredFiles "d" cluttered (by rfl) read_cluttered .auto
  rw [loaded] at opened
  cases opened

end Promoted

end EmbeddingIndex
