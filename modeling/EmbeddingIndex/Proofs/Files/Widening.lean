import EmbeddingIndex.Proofs.Files.Tree
import Mathlib.Data.List.Induction
/-!
Trees that gain directories and nothing else. Every file is found where it was. A path may come to
lead to a file that it did not lead to before, but only by way of two dots through a directory that
was missing.
-/

namespace EmbeddingIndex

namespace FileTree

/-- The files are the same, and there may be more directories. -/
structure Widened (files after : FileTree) : Prop where
  base_eq : after.base = files.base
  file_iff : ∀ location bytes,
    after.nodeAt location = some (.file bytes) ↔ files.nodeAt location = some (.file bytes)
  directory : ∀ location,
    files.nodeAt location = some .directory → after.nodeAt location = some .directory

/-- Whatever stands in the tree stands in a directory. -/
def Rooted (files : FileTree) : Prop :=
  ∀ node ∈ files.nodes, node.1 ≠ [] → files.nodeAt node.1.dropLast = some .directory

instance (files : FileTree) : Decidable files.Rooted :=
  inferInstanceAs (Decidable
    (∀ node ∈ files.nodes, node.1 ≠ [] → files.nodeAt node.1.dropLast = some .directory))

variable {files middle after : FileTree}

theorem Widened.refl (files : FileTree) : Widened files files :=
  ⟨rfl, fun _ _ => Iff.rfl, fun _ there => there⟩

theorem Widened.trans (first : Widened files middle) (second : Widened middle after) :
    Widened files after where
  base_eq := second.base_eq.trans first.base_eq
  file_iff location bytes := (second.file_iff location bytes).trans (first.file_iff location bytes)
  directory location there := second.directory location (first.directory location there)

theorem Widened.place {location : Location} (vacant : files.nodeAt location = none) :
    Widened files (files.place location .directory) := by
  have inside := ne_nil_of_vacant vacant
  refine ⟨rfl, ?_, ?_⟩
  · intro key bytes
    rw [nodeAt_place _ _ _ _ inside]
    by_cases here : key = location
    · rw [if_pos here, here, vacant]
      simp
    · rw [if_neg here]
  · intro key there
    rw [nodeAt_place _ _ _ _ inside]
    by_cases here : key = location
    · rw [if_pos here]
    · rw [if_neg here]
      exact there

theorem widened_of_makeDirectory {path : String} (made : files.makeDirectory path = .ok after) :
    Widened files after := by
  rw [makeDirectory] at made
  cases located : files.locate path with
  | error fault =>
    rw [located] at made
    cases made
  | ok location =>
    cases vacant : files.nodeAt location with
    | some node =>
      rw [located] at made
      simp [vacant] at made
    | none =>
      rw [located] at made
      simp only [vacant] at made
      cases made
      exact .place vacant

theorem climb_widened (files : FileTree) (path : String) (fuel : Nat) :
    Widened files (makeDirectories.climb files path fuel).2 := by
  induction fuel generalizing files path with
  | zero => exact .refl files
  | succ fuel ih =>
    rw [makeDirectories.climb]
    cases first : files.makeDirectory path with
    | ok made => exact widened_of_makeDirectory first
    | error fault =>
      cases fault with
      | notFound =>
        cases Path.parent? path with
        | none => exact .refl files
        | some parent =>
          dsimp only
          have above : Widened files
              (if parent = "" then (.ok (), files) else makeDirectories.climb files parent fuel).2 := by
            split
            · exact .refl files
            · exact ih files parent
          generalize (if parent = "" then (Except.ok (), files)
            else makeDirectories.climb files parent fuel) = climbed at above ⊢
          rcases climbed with ⟨fault | _, middle⟩
          · exact above
          · dsimp only
            cases second : middle.makeDirectory path with
            | ok made => exact above.trans (widened_of_makeDirectory second)
            | error fault => exact above
      | alreadyExists => exact .refl files
      | notADirectory => exact .refl files
      | isADirectory => exact .refl files
      | invalidPath => exact .refl files
      | nameTooLong => exact .refl files

theorem makeDirectories_widened (files : FileTree) (path : String) :
    Widened files (files.makeDirectories path).2 := climb_widened files path path.length

theorem find_eq_file_iff (files : FileTree) (path : String) (bytes : Bytes) :
    files.find path = .ok (.file bytes) ↔ Path.endsInSlash path = false ∧
      ∃ location, files.locate path = .ok location ∧ files.nodeAt location = some (.file bytes) := by
  rw [find]
  cases files.locate path with
  | error fault => simp
  | ok location =>
    rcases node : files.nodeAt location with _ | other | _
    · simp [node]
    · by_cases slash : Path.endsInSlash path = true
      · simp [node, slash]
      · simp [node, slash]
    · simp [node]

theorem Widened.find (widened : Widened files after) {path : String} {bytes : Bytes}
    (found : files.find path = .ok (.file bytes)) : after.find path = .ok (.file bytes) := by
  rw [find_eq_file_iff] at found ⊢
  obtain ⟨plain, location, located, there⟩ := found
  exact ⟨plain, location, locate_of_directories widened.base_eq widened.directory located,
    (widened.file_iff location bytes).mpr there⟩

theorem Rooted.parent (rooted : files.Rooted) {location : Location} {name : String} {node : FileNode}
    (there : files.nodeAt (location ++ [name]) = some node) :
    files.nodeAt location = some .directory := by
  rw [nodeAt, if_neg (by simp)] at there
  have member := List.lookup_eq_some_iff.mp there
  obtain ⟨before, _, split, _⟩ := member
  have present : (location ++ [name], node) ∈ files.nodes := by
    rw [split]
    exact List.mem_append_right _ List.mem_cons_self
  have parent := rooted _ present (by simp)
  rwa [List.dropLast_concat] at parent

theorem Rooted.above (rooted : files.Rooted) {location below : Location} {node : FileNode}
    (there : files.nodeAt (location ++ below) = some node) (proper : below ≠ []) :
    files.nodeAt location = some .directory := by
  induction below using List.reverseRecOn generalizing node with
  | nil => exact absurd rfl proper
  | append_singleton below name ih =>
    rw [← List.append_assoc] at there
    have parent := rooted.parent there
    by_cases last : below = []
    · rwa [last, List.append_nil] at parent
    · exact ih parent last

/-- Without two dots a path goes down only, so all that it passes stood above its end before. -/
theorem Widened.follow_of_plain (widened : Widened files after) (rooted : files.Rooted)
    {target : Location} {bytes : Bytes} (there : files.nodeAt target = some (.file bytes))
    {steps : List String} (plain : ".." ∉ steps) {location : Location}
    (reached : after.follow location steps = .ok target) :
    location <+: target ∧ files.follow location steps = .ok target := by
  induction steps generalizing location with
  | nil =>
    cases reached
    exact ⟨List.prefix_rfl, rfl⟩
  | cons step rest ih =>
    obtain ⟨directory, next, advanced, passed⟩ :=
      (follow_cons_eq_ok_iff after location target step rest).mp reached
    obtain ⟨below, reached_before⟩ := ih (List.not_mem_of_not_mem_cons plain) passed
    have further : location <+: next := by
      rw [advance] at advanced
      split at advanced
      · cases advanced
        exact List.prefix_rfl
      · split at advanced
        · rename_i up
          exact absurd (up ▸ List.mem_cons_self) plain
        · split at advanced
          · cases advanced
          · cases advanced
            exact List.prefix_append location [step]
    have inside : location <+: target := further.trans below
    have directory_before : files.nodeAt location = some .directory := by
      obtain ⟨rest_of, rfl⟩ := inside
      apply rooted.above there
      rintro rfl
      have there_after := (widened.file_iff _ bytes).mpr there
      rw [List.append_nil, directory] at there_after
      cases there_after
    exact ⟨inside, (follow_cons_eq_ok_iff files location target step rest).mpr
      ⟨directory_before, next, advanced, reached_before⟩⟩

theorem Widened.find_of_plain (widened : Widened files after) (rooted : files.Rooted) {path : String}
    (plain : ".." ∉ Path.steps path) {bytes : Bytes}
    (found : after.find path = .ok (.file bytes)) : files.find path = .ok (.file bytes) := by
  rw [find_eq_file_iff] at found ⊢
  obtain ⟨no_slash, target, located, there⟩ := found
  rw [widened.file_iff] at there
  rw [locate_eq_ok_iff, widened.base_eq] at located
  have reached := (widened.follow_of_plain rooted there plain located.2).2
  exact ⟨no_slash, target, (locate_eq_ok_iff files path target).mpr ⟨located.1, reached⟩, there⟩

theorem Widened.find_of_directory (widened : Widened files after) {dir name : String}
    (named : Path.steps name = [name]) (there : files.isDirectory dir = true) {bytes : Bytes}
    (found : after.find (Path.join dir name) = .ok (.file bytes)) :
    files.find (Path.join dir name) = .ok (.file bytes) := by
  obtain ⟨location, located_dir, directory⟩ := (isDirectory_iff files dir).mp there
  obtain ⟨⟨filled, _⟩, reached_dir⟩ := (locate_eq_ok_iff files dir location).mp located_dir
  rw [find_eq_file_iff] at found ⊢
  obtain ⟨no_slash, target, located, held⟩ := found
  rw [widened.file_iff] at held
  obtain ⟨admitted, reached⟩ := (locate_eq_ok_iff after _ target).mp located
  rw [Path.steps_join dir name filled, named, Path.isAbsolute_join dir name filled, widened.base_eq,
    follow_append_eq_ok_iff] at reached
  obtain ⟨next, passed, last⟩ := reached
  have same := follow_of_directories widened.directory _ _ _ reached_dir
  rw [passed] at same
  obtain rfl := Except.ok.inj same
  obtain ⟨_, end_of, advanced, finished⟩ := (follow_cons_eq_ok_iff after next target name []).mp last
  have last_before : files.follow next [name] = .ok target :=
    (follow_cons_eq_ok_iff files next target name []).mpr ⟨directory, end_of, advanced, finished⟩
  refine ⟨no_slash, target, (locate_eq_ok_iff files _ target).mpr ⟨admitted, ?_⟩, held⟩
  rw [Path.steps_join dir name filled, named, Path.isAbsolute_join dir name filled,
    follow_append_eq_ok_iff]
  exact ⟨next, reached_dir, last_before⟩

end FileTree

end EmbeddingIndex
