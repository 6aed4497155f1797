import EmbeddingIndex.Files.Tree
import Mathlib.Data.List.Basic
/-!
Paths into a file tree. A path to a member of a directory goes through that directory, and a walk
needs nothing of a tree but its directories.
-/

namespace EmbeddingIndex

namespace Path

theorem steps_slash (before after : String) :
    steps (before ++ "/" ++ after) = steps before ++ steps after := by
  have chars : (before ++ "/" ++ after).toList = before.toList ++ '/' :: after.toList := by simp
  simp only [steps, chars, List.splitOn_append_cons_self, List.map_append, List.filter_append]

theorem steps_join (dir name : String) (filled : dir ≠ "") :
    steps (join dir name) = steps dir ++ steps name := by
  by_cases slash : dir.toList.getLast? = some '/'
  · rcases List.getLast?_eq_some_iff.mp slash with ⟨before, split⟩
    have dir_eq : dir = String.ofList before ++ "/" := by
      apply String.toList_injective
      simp [split]
    have dir_steps : steps dir = steps (String.ofList before) := by
      have step := steps_slash (String.ofList before) ""
      rw [String.append_empty, ← dir_eq] at step
      rw [step]
      simp [steps]
    rw [join, if_neg filled, if_pos slash, dir_steps, dir_eq, steps_slash]
  · rw [join, if_neg filled, if_neg slash, steps_slash]

theorem join_eq_append (dir name : String) (filled : dir ≠ "") : ∃ rest, join dir name = dir ++ rest := by
  rw [join, if_neg filled]
  split
  · exact ⟨name, rfl⟩
  · exact ⟨"/" ++ name, String.append_assoc ..⟩

theorem join_ne_empty (dir : String) {name : String} (named : name ≠ "") : join dir name ≠ "" := by
  rw [join]
  split
  · exact named
  · split
    · simp [named]
    · simp

theorem isAbsolute_join (dir name : String) (filled : dir ≠ "") :
    isAbsolute (join dir name) = isAbsolute dir := by
  rcases join_eq_append dir name filled with ⟨rest, joined⟩
  have some_char : dir.toList ≠ [] := fun blank => filled (String.toList_eq_nil_iff.mp blank)
  rw [isAbsolute, isAbsolute, joined, String.toList_append, List.head?_append_of_ne_nil _ some_char]

end Path

namespace FileTree

variable {files other : FileTree}

theorem lookup_setNode (location key : Location) (node : FileNode)
    (nodes : List (Location × FileNode)) :
    (setNode location node nodes).lookup key =
      if key = location then some node else nodes.lookup key := by
  induction nodes with
  | nil =>
    by_cases here : key = location
    · simp [setNode, here]
    · simp [setNode, List.lookup_cons, here, beq_eq_false_iff_ne.mpr here]
  | cons old rest ih =>
    by_cases same : old.1 = location
    · rw [setNode, if_pos same, List.lookup_cons, List.lookup_cons, same]
      by_cases here : key = location
      · simp [here]
      · simp [here, beq_eq_false_iff_ne.mpr here]
    · rw [setNode, if_neg same, List.lookup_cons, List.lookup_cons, ih]
      by_cases here : key = location
      · have other : (key == old.1) = false := by
          rw [here]
          simpa using Ne.symm same
        simp only [other, if_pos here]
      · simp only [if_neg here]

theorem nodeAt_place (files : FileTree) (location key : Location) (node : FileNode)
    (inside : location ≠ []) :
    (files.place location node).nodeAt key =
      if key = location then some node else files.nodeAt key := by
  by_cases root : key = []
  · have other : key ≠ location := fun same => inside (same.symm.trans root)
    rw [if_neg other, nodeAt, nodeAt, if_pos root, if_pos root]
  · rw [nodeAt, nodeAt, if_neg root, if_neg root]
    exact lookup_setNode location key node files.nodes

theorem setNode_setNode (location : Location) (first second : FileNode)
    (nodes : List (Location × FileNode)) :
    setNode location second (setNode location first nodes) = setNode location second nodes := by
  induction nodes with
  | nil => simp [setNode]
  | cons old rest ih =>
    by_cases same : old.1 = location
    · simp [setNode, same]
    · simp [setNode, same, ih]

theorem filter_setNode (location : Location) (node : FileNode)
    (nodes : List (Location × FileNode)) :
    (setNode location node nodes).filter (·.1 ≠ location) = nodes.filter (·.1 ≠ location) := by
  induction nodes with
  | nil => simp [setNode]
  | cons old rest ih =>
    by_cases same : old.1 = location
    · simp [setNode, same]
    · rw [setNode, if_neg same, List.filter_cons, List.filter_cons, ih]

theorem place_place (files : FileTree) (location : Location) (first second : FileNode) :
    (files.place location first).place location second = files.place location second := by
  rw [place, place, place, setNode_setNode]

theorem ne_nil_of_vacant {location : Location} (vacant : files.nodeAt location = none) :
    location ≠ [] := by
  rintro rfl
  rw [nodeAt, if_pos rfl] at vacant
  cases vacant

theorem drop_place_of_vacant {location : Location} (vacant : files.nodeAt location = none)
    (node : FileNode) : (files.place location node).drop location = files := by
  have inside := ne_nil_of_vacant vacant
  have absent : ∀ old ∈ files.nodes, old.1 ≠ location := by
    rw [nodeAt, if_neg inside, List.lookup_eq_none_iff] at vacant
    intro old present same
    simpa [same] using vacant old present
  have kept : files.nodes.filter (·.1 ≠ location) = files.nodes :=
    List.filter_eq_self.mpr fun old present => by simpa using absent old present
  rw [drop, place, filter_setNode, kept]

theorem directory_place {location : Location} (inside : location ≠ [])
    (free : files.nodeAt location ≠ some .directory) (node : FileNode) (key : Location)
    (there : files.nodeAt key = some .directory) :
    (files.place location node).nodeAt key = some .directory := by
  have other : key ≠ location := by
    rintro rfl
    exact free there
  rw [nodeAt_place _ _ _ _ inside, if_neg other, there]

theorem rename_of_file {source : Location} {bytes : Bytes}
    (held : files.nodeAt source = some (.file bytes)) (target : Location) :
    files.rename source target =
      if files.nodeAt target = some .directory then .error .isADirectory
      else .ok ((files.drop source).place target (.file bytes)) := by
  rw [rename, held]
  rcases node : files.nodeAt target with _ | _ | _ <;> rfl

def advance (location : Location) (step : String) : Except FileFault Location :=
  if step = "." then .ok location
  else if step = ".." then .ok location.dropLast
  else if nameLimit < step.utf8ByteSize then .error .nameTooLong
  else .ok (location ++ [step])

theorem follow_cons (files : FileTree) (location : Location) (step : String) (rest : List String) :
    files.follow location (step :: rest) =
      match files.nodeAt location with
      | none => .error .notFound
      | some (.file _) => .error .notADirectory
      | some .directory => (advance location step).bind (files.follow · rest) := by
  rw [follow, advance]
  rcases files.nodeAt location with _ | _ | _
  · rfl
  · rfl
  · by_cases dot : step = "."
    · simp only [if_pos dot]
      rfl
    · by_cases up : step = ".."
      · simp only [if_neg dot, if_pos up]
        rfl
      · by_cases long : nameLimit < step.utf8ByteSize
        · simp only [if_neg dot, if_neg up, if_pos long]
          rfl
        · simp only [if_neg dot, if_neg up, if_neg long]
          rfl

theorem follow_cons_eq_ok_iff (files : FileTree) (location target : Location) (step : String)
    (rest : List String) :
    files.follow location (step :: rest) = .ok target ↔
      files.nodeAt location = some .directory ∧
        ∃ next, advance location step = .ok next ∧ files.follow next rest = .ok target := by
  rw [follow_cons]
  rcases files.nodeAt location with _ | _ | _
  · simp
  · simp
  · rcases advance location step with fault | next <;> simp [Except.bind]

theorem follow_append_eq_ok_iff (files : FileTree) (location target : Location)
    (before after : List String) :
    files.follow location (before ++ after) = .ok target ↔
      ∃ next, files.follow location before = .ok next ∧ files.follow next after = .ok target := by
  induction before generalizing location with
  | nil => simp [follow]
  | cons step rest ih =>
    simp only [List.cons_append, follow_cons_eq_ok_iff, ih]
    constructor
    · rintro ⟨directory, first, advanced, next, passed, reached⟩
      exact ⟨next, ⟨directory, first, advanced, passed⟩, reached⟩
    · rintro ⟨next, ⟨directory, first, advanced, passed⟩, reached⟩
      exact ⟨directory, first, advanced, next, passed, reached⟩

/-- A tree that has the same directories, and maybe more, leads to the same places. -/
theorem follow_of_directories
    (kept : ∀ location, files.nodeAt location = some .directory → other.nodeAt location = some .directory)
    (location target : Location) (steps : List String)
    (reached : files.follow location steps = .ok target) : other.follow location steps = .ok target := by
  induction steps generalizing location with
  | nil => exact reached
  | cons step rest ih =>
    rcases (follow_cons_eq_ok_iff files location target step rest).mp reached with
      ⟨directory, next, advanced, passed⟩
    exact (follow_cons_eq_ok_iff other location target step rest).mpr
      ⟨kept location directory, next, advanced, ih next passed⟩

def Admits (path : String) : Prop :=
  path ≠ "" ∧ '\x00' ∉ path.toList ∧ path.utf8ByteSize ≤ pathLimit

theorem locate_eq_ok_iff (files : FileTree) (path : String) (target : Location) :
    files.locate path = .ok target ↔ Admits path ∧
      files.follow (if Path.isAbsolute path then [] else files.base) (Path.steps path) = .ok target := by
  rw [locate, walk, Admits]
  by_cases blank : path = ""
  · simp [blank]
  · by_cases dirty : '\x00' ∈ path.toList
    · simp [blank, dirty]
    · by_cases long : pathLimit < path.utf8ByteSize
      · simp [blank, dirty, long, Nat.not_le_of_lt long]
      · simp [blank, dirty, long, Nat.le_of_not_lt long]

theorem locate_of_directories (base_eq : other.base = files.base)
    (kept : ∀ location, files.nodeAt location = some .directory → other.nodeAt location = some .directory)
    {path : String} {target : Location} (located : files.locate path = .ok target) :
    other.locate path = .ok target := by
  rcases (locate_eq_ok_iff files path target).mp located with ⟨admitted, reached⟩
  rw [locate_eq_ok_iff, base_eq]
  exact ⟨admitted, follow_of_directories kept _ _ _ reached⟩

theorem isDirectory_iff (files : FileTree) (path : String) :
    files.isDirectory path = true ↔
      ∃ location, files.locate path = .ok location ∧ files.nodeAt location = some .directory := by
  rw [isDirectory, find]
  cases located : files.locate path with
  | error fault => simp
  | ok location =>
    simp only [Except.ok.injEq, exists_eq_left']
    rcases files.nodeAt location with _ | _ | _
    · simp
    · by_cases slash : Path.endsInSlash path = true <;> simp [slash]
    · simp

theorem find_of_file {path : String} {location : Location} {bytes : Bytes}
    (located : files.locate path = .ok location) (there : files.nodeAt location = some (.file bytes))
    (plain : Path.endsInSlash path = false) : files.find path = .ok (.file bytes) := by
  rw [find, located]
  simp only [there, plain]
  rfl

theorem isDirectory_of_locate_join {dir name : String} {target : Location} (filled : dir ≠ "")
    (named : Path.steps name = [name]) (located : files.locate (Path.join dir name) = .ok target) :
    files.isDirectory dir = true := by
  rcases (locate_eq_ok_iff files _ target).mp located with ⟨⟨_, clean, short⟩, reached⟩
  rcases Path.join_eq_append dir name filled with ⟨rest, joined⟩
  rw [Path.steps_join dir name filled, named, Path.isAbsolute_join dir name filled,
    follow_append_eq_ok_iff] at reached
  rcases reached with ⟨location, passed, last⟩
  have directory := ((follow_cons_eq_ok_iff files location target name []).mp last).1
  rw [joined, String.toList_append, List.mem_append, not_or] at clean
  rw [joined, String.utf8ByteSize_append] at short
  exact (isDirectory_iff files dir).mpr
    ⟨location, (locate_eq_ok_iff files dir location).mpr ⟨⟨filled, clean.1, by omega⟩, passed⟩, directory⟩

theorem makeDirectories_of_isDirectory {path : String} (filled : path ≠ "")
    (there : files.isDirectory path = true) : files.makeDirectories path = (.ok (), files) := by
  rcases (isDirectory_iff files path).mp there with ⟨location, located, directory⟩
  have taken : files.makeDirectory path = .error .alreadyExists := by
    rw [makeDirectory, located]
    simp only [directory]
  cases fuel : path.length with
  | zero => exact absurd (String.length_eq_zero_iff.mp fuel) filled
  | succ fuel_left =>
    rw [makeDirectories, fuel, makeDirectories.climb, taken]
    simp only [there]
    rfl

end FileTree

end EmbeddingIndex
