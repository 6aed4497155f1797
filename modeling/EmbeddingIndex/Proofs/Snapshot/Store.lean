import EmbeddingIndex.Snapshot.Store
import EmbeddingIndex.Proofs.Files.Widening
/-!
A snapshot file shows that its directory is there, and a file that was written is found. A write
changes that file and nothing else, or nothing at all.
-/

namespace EmbeddingIndex.SnapshotFile

theorem steps_name : Path.steps name = [name] := by
  have chars : name.toList.splitOn '/' = [name.toList] := by decide
  rw [Path.steps, chars]
  simp [name]

theorem endsInSlash_path (dir : String) : Path.endsInSlash (path dir) = false := by
  have last (before : String) : (before ++ name).toList.getLast? = some 'w' := by
    rw [String.toList_append, List.getLast?_append]
    rfl
  have ends : (path dir).toList.getLast? = some 'w' := by
    rw [path, Path.join]
    split
    · rfl
    · split
      · exact last dir
      · exact last (dir ++ "/")
  rw [Path.endsInSlash, ends]
  rfl

theorem locate_of_existsIn {files : FileTree} {dir : String} (there : existsIn files dir = true) :
    ∃ target, files.locate (path dir) = .ok target := by
  rw [existsIn, FileTree.isFile, FileTree.find] at there
  cases located : files.locate (path dir) with
  | error fault =>
    rw [located] at there
    cases there
  | ok target => exact ⟨target, rfl⟩

theorem isDirectory_of_existsIn {files : FileTree} {dir : String} (filled : dir ≠ "")
    (there : existsIn files dir = true) : files.isDirectory dir = true := by
  rcases locate_of_existsIn there with ⟨target, located⟩
  exact FileTree.isDirectory_of_locate_join filled steps_name located

theorem existsIn_of_read {files : FileTree} {dir : String} {s : Snapshot}
    (found : read files dir = .ok s) : existsIn files dir = true := by
  rw [existsIn, FileTree.isFile]
  rcases located : files.find (path dir) with fault | ⟨bytes | _⟩
  · simp [read, FileTree.read, located] at found
  · rfl
  · simp [read, FileTree.read, located] at found

theorem steps_path (dir : String) : Path.steps (path dir) = Path.steps dir ++ [name] := by
  by_cases blank : dir = ""
  · subst blank
    exact steps_name
  · rw [path, Path.steps_join dir name blank, steps_name]

theorem clean_path {dir : String} (clean : '\x00' ∉ dir.toList) : '\x00' ∉ (path dir).toList := by
  have own : '\x00' ∉ name.toList := by decide
  rw [path, Path.join]
  split
  · exact own
  · split <;> simp [clean, own]

theorem locate_path_iff {files : FileTree} {dir : String} {location : Location}
    (located : files.locate dir = .ok location) (directory : files.nodeAt location = some .directory)
    (target : Location) :
    files.locate (path dir) = .ok target ↔
      (path dir).utf8ByteSize ≤ FileTree.pathLimit ∧ target = location ++ [name] := by
  obtain ⟨⟨filled, clean, _⟩, reached⟩ := (FileTree.locate_eq_ok_iff files dir location).mp located
  have named : path dir ≠ "" := Path.join_ne_empty dir (by decide)
  have advanced : FileTree.advance location name = .ok (location ++ [name]) := rfl
  rw [FileTree.locate_eq_ok_iff, FileTree.Admits, steps_path, path,
    Path.isAbsolute_join dir name filled, ← path, FileTree.follow_append_eq_ok_iff]
  constructor
  · rintro ⟨⟨_, _, short⟩, next, passed, last⟩
    cases reached.symm.trans passed
    obtain ⟨_, beyond, stepped, ended⟩ := (FileTree.follow_cons_eq_ok_iff _ _ _ _ _).mp last
    cases advanced.symm.trans stepped
    cases ended
    exact ⟨short, rfl⟩
  · rintro ⟨short, rfl⟩
    exact ⟨⟨named, clean_path clean, short⟩, location, reached,
      (FileTree.follow_cons_eq_ok_iff _ _ _ _ _).mpr ⟨directory, _, advanced, rfl⟩⟩

/-- What a write needs of the tree: the directory, a path to the file that is not too long, and no
directory in its place. -/
structure Writable (files : FileTree) (dir : String) : Prop where
  directory : files.isDirectory dir = true
  short : (path dir).utf8ByteSize ≤ FileTree.pathLimit
  free : files.isDirectory (path dir) = false

/-- A write ends with the very tree that it started from, or with the file in it. -/
inductive Written (refusals : Refusals) (files : FileTree) (dir : String) (s : Snapshot) :
    Except Fault Unit × FileTree → Prop
  | refused (cause : IoFault)
      (hindered : (∃ stage, refusals stage = some cause) ∨ ¬ Writable files dir) :
      Written refusals files dir s (.error (.io cause), files)
  | stored (location : Location) (granted : ∀ stage, refusals stage = none)
      (writable : Writable files dir) (located : files.locate dir = .ok location)
      (directory : files.nodeAt location = some .directory) :
      Written refusals files dir s
        (.ok (), files.place (location ++ [name]) (.file (s.encode .blake3)))

theorem createTemporary_cases (files : FileTree) (dir : String) :
    (∃ fault, createTemporary files dir = .error fault ∧ files.isDirectory dir = false) ∨
      ∃ location, files.locate dir = .ok location ∧ files.nodeAt location = some .directory ∧
        createTemporary files dir = .ok (location ++ [files.freeName],
          files.place (location ++ [files.freeName]) (.file [])) := by
  rw [createTemporary, FileTree.isDirectory, FileTree.find]
  cases located : files.locate dir with
  | error fault => exact Or.inl ⟨fault, rfl, rfl⟩
  | ok location =>
    dsimp only
    rcases node : files.nodeAt location with _ | bytes | _
    · exact Or.inl ⟨_, rfl, rfl⟩
    · refine Or.inl ⟨_, rfl, ?_⟩
      cases Path.endsInSlash dir <;> rfl
    · exact Or.inr ⟨location, rfl, node, rfl⟩

theorem isDirectory_path_iff {files : FileTree} {dir : String} {location : Location}
    (located : files.locate dir = .ok location) (directory : files.nodeAt location = some .directory)
    (short : (path dir).utf8ByteSize ≤ FileTree.pathLimit) :
    files.isDirectory (path dir) = true ↔ files.nodeAt (location ++ [name]) = some .directory := by
  rw [FileTree.isDirectory_iff]
  constructor
  · rintro ⟨target, lead, there⟩
    obtain ⟨_, rfl⟩ := (locate_path_iff located directory target).mp lead
    exact there
  · intro there
    exact ⟨_, (locate_path_iff located directory _).mpr ⟨short, rfl⟩, there⟩

theorem rename_temporary {files : FileTree} {temporary target : Location} {bytes : Bytes}
    (vacant : files.nodeAt temporary = none) :
    (files.place temporary (.file bytes)).rename temporary target =
      if files.nodeAt target = some .directory then .error .isADirectory
      else .ok (files.place target (.file bytes)) := by
  have inside := FileTree.ne_nil_of_vacant vacant
  have held : (files.place temporary (.file bytes)).nodeAt temporary = some (.file bytes) := by
    rw [FileTree.nodeAt_place _ _ _ _ inside, if_pos rfl]
  rw [FileTree.rename_of_file held, FileTree.drop_place_of_vacant vacant,
    FileTree.nodeAt_place _ _ _ _ inside]
  by_cases here : target = temporary
  · simp [here, vacant]
  · rw [if_neg here]

theorem move_cases {files held : FileTree} {dir : String} {location temporary : Location}
    {bytes : Bytes} (located : files.locate dir = .ok location)
    (directory : files.nodeAt location = some .directory) (vacant : files.nodeAt temporary = none)
    (held_eq : held = files.place temporary (.file bytes)) :
    ¬ Writable files dir ∧
        ((∃ fault, held.locate (path dir) = .error fault) ∨
          ∃ target fault, held.locate (path dir) = .ok target ∧
            held.rename temporary target = .error fault) ∨
      Writable files dir ∧ held.locate (path dir) = .ok (location ++ [name]) ∧
        held.rename temporary (location ++ [name]) =
          .ok (files.place (location ++ [name]) (.file bytes)) := by
  have blank : files.nodeAt temporary ≠ some .directory := by simp [vacant]
  have kept := FileTree.directory_place (FileTree.ne_nil_of_vacant vacant) blank (.file bytes)
  have same_base : (files.place temporary (.file bytes)).base = files.base := rfl
  have lead := locate_path_iff (FileTree.locate_of_directories same_base kept located)
    (kept location directory)
  rw [held_eq]
  cases reached : (files.place temporary (.file bytes)).locate (path dir) with
  | error fault =>
    refine Or.inl ⟨fun writable => ?_, Or.inl ⟨fault, rfl⟩⟩
    cases reached.symm.trans ((lead _).mpr ⟨writable.short, rfl⟩)
  | ok target =>
    obtain ⟨short, rfl⟩ := (lead target).mp reached
    rw [rename_temporary vacant]
    have blocked_iff := isDirectory_path_iff located directory short
    by_cases blocked : files.nodeAt (location ++ [name]) = some .directory
    · refine Or.inl ⟨fun writable => ?_, Or.inr ⟨_, .isADirectory, rfl, ?_⟩⟩
      · cases writable.free.symm.trans (blocked_iff.mpr blocked)
      · rw [rename_temporary vacant, if_pos blocked]
    · have present := (FileTree.isDirectory_iff files dir).mpr ⟨location, located, directory⟩
      have free := Bool.eq_false_iff.mpr fun there => blocked (blocked_iff.mp there)
      exact Or.inr ⟨⟨present, short, free⟩, rfl, if_neg blocked⟩

/-- Whatever the system refuses, and whatever the directory is like, the temporary file is gone in
the end. -/
theorem written (refusals : Refusals) (files : FileTree) (dir : String) (s : Snapshot) :
    Written refusals files dir s (writeUnder refusals files dir s) := by
  rw [writeUnder]
  -- One stage after the other: what fails at it has the temporary file, if there is one, put away.
  cases creation : refusals .creation with
  | some cause => exact .refused cause (Or.inl ⟨_, creation⟩)
  | none =>
    rcases createTemporary_cases files dir with
      ⟨fault, failed, absent⟩ | ⟨location, located, directory, created⟩
    · rw [failed]
      refine .refused (.file fault) (Or.inr fun writable => ?_)
      cases absent.symm.trans writable.directory
    · have vacant := FileTree.nodeAt_freeName files location
      rw [created]
      cases content : refusals .content with
      | some cause =>
        simp only [FileTree.drop_place_of_vacant vacant]
        exact .refused cause (Or.inl ⟨_, content⟩)
      | none =>
        simp only [FileTree.place_place, FileTree.drop_place_of_vacant vacant]
        cases move : refusals .move with
        | some cause => exact .refused cause (Or.inl ⟨_, move⟩)
        | none =>
          have granted : ∀ stage, refusals stage = none := by
            rintro (_ | _ | _) <;> assumption
          rcases move_cases located directory vacant rfl with
            ⟨unwritable, ⟨fault, lost⟩ | ⟨target, fault, reached, stuck⟩⟩ | ⟨writable, reached, moved⟩
          · rw [lost]
            exact .refused (.file fault) (Or.inr unwritable)
          · rw [reached]
            dsimp only
            rw [stuck]
            exact .refused (.file fault) (Or.inr unwritable)
          · rw [reached]
            dsimp only
            rw [moved]
            exact .stored location granted writable located directory

theorem find_of_written {refusals : Refusals} {files after : FileTree} {dir : String} {s : Snapshot}
    (done : Written refusals files dir s (.ok (), after)) :
    after.find (path dir) = .ok (.file (s.encode .blake3)) := by
  cases done with
  | stored location _ writable located directory =>
    have lead := (locate_path_iff located directory _).mpr ⟨writable.short, rfl⟩
    have inside : location ++ [name] ≠ [] := by simp
    have free : files.nodeAt (location ++ [name]) ≠ some .directory := by
      rw [ne_eq, ← isDirectory_path_iff located directory writable.short, writable.free]
      decide
    have kept := FileTree.directory_place inside free (.file (s.encode .blake3))
    have same_base : (files.place (location ++ [name]) (.file (s.encode .blake3))).base =
      files.base := rfl
    refine FileTree.find_of_file (FileTree.locate_of_directories same_base kept lead) ?_
      (endsInSlash_path dir)
    rw [FileTree.nodeAt_place _ _ _ _ inside, if_pos rfl]

theorem files_of_failed_write {refusals : Refusals} {files after : FileTree} {dir : String}
    {s : Snapshot} {fault : Fault}
    (failed : writeUnder refusals files dir s = (.error fault, after)) : after = files := by
  have done := written refusals files dir s
  rw [failed] at done
  cases done
  rfl

theorem read_of_write {refusals : Refusals} {files after : FileTree} {dir : String} {s : Snapshot}
    (wrote : writeUnder refusals files dir s = (.ok (), after)) :
    existsIn after dir = true ∧ read after dir = Snapshot.decode .blake3 (s.encode .blake3) := by
  have done := written refusals files dir s
  rw [wrote] at done
  have found := find_of_written done
  constructor
  · rw [existsIn, FileTree.isFile, found]
  · rw [read, FileTree.read, found]

/-- A directory's snapshot stays as it is. Where there is none, none turns up, but for a path that
takes two dots through a missing directory. -/
structure Kept (files after : FileTree) (dir : String) : Prop where
  present : ∀ bytes, files.read (path dir) = .ok bytes → after.read (path dir) = .ok bytes
  absent : existsIn files dir = false → ".." ∉ Path.steps dir ∨ files.isDirectory dir = true →
    existsIn after dir = false

theorem read_eq_ok_iff (files : FileTree) (path : String) (bytes : Bytes) :
    files.read path = .ok bytes ↔ files.find path = .ok (.file bytes) := by
  rw [FileTree.read]
  rcases files.find path with fault | ⟨found | _⟩ <;> simp

theorem existsIn_iff (files : FileTree) (dir : String) :
    existsIn files dir = true ↔ ∃ bytes, files.find (path dir) = .ok (.file bytes) := by
  rw [existsIn, FileTree.isFile]
  rcases files.find (path dir) with fault | ⟨found | _⟩ <;> simp

theorem kept_of_widened {files after : FileTree} (widened : files.Widened after)
    (rooted : files.Rooted) (dir : String) : Kept files after dir := by
  constructor
  · intro bytes found
    rw [read_eq_ok_iff] at found ⊢
    exact widened.find found
  · intro missing straight
    rw [Bool.eq_false_iff] at missing ⊢
    intro there
    obtain ⟨bytes, found⟩ := (existsIn_iff after dir).mp there
    apply missing
    rw [existsIn_iff]
    refine ⟨bytes, ?_⟩
    rcases straight with plain | directory
    · apply widened.find_of_plain rooted _ found
      rw [steps_path, List.mem_append, List.mem_singleton, not_or]
      exact ⟨plain, by decide⟩
    · exact widened.find_of_directory steps_name directory found

end EmbeddingIndex.SnapshotFile
