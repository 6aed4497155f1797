import EmbeddingIndex.Engine
import EmbeddingIndex.Runtime.Plain
import EmbeddingIndex.Proofs.Settings
import Mathlib.Data.List.Basic
import Mathlib.Data.List.Nodup
import Mathlib.Data.List.Perm.Subperm
import Mathlib.Data.List.Range
/-!
What the index relies on in a library of graphs: that it takes the nodes it was ordered for, and which
nodes it finds.
-/

namespace EmbeddingIndex

def farness (direction : Embedding) (nodes : List Embedding) (slot : Nat) : Nat :=
  (direction.squaredDistance (nodes.getD slot [])).rankKey

/-- As many slots as are asked for, if there are so many, and none that is left out is nearer. -/
structure Closest (direction : Embedding) (nodes : List Embedding) (count : Nat)
    (slots : List Nat) : Prop where
  nodup : slots.Nodup
  inside : ∀ slot ∈ slots, slot < nodes.length
  length_eq : slots.length = min count nodes.length
  closest : ∀ near ∈ slots, ∀ far < nodes.length, far ∉ slots →
    farness direction nodes near ≤ farness direction nodes far

namespace GraphLibrary

/-- Asked for as many slots as there are nodes, the library finds every one of them. -/
def Complete (library : GraphLibrary) : Prop :=
  ∀ (tuning : Tuning) (nodes : List Embedding) (direction : Embedding),
    direction.isFinite = true → (∀ node ∈ nodes, node.length = direction.length) →
      ∃ slots, library.find tuning nodes direction nodes.length = some slots ∧
        slots.Perm (List.range nodes.length)

/-- In every finite direction the library finds so many of the nearest slots. -/
def Nearest (library : GraphLibrary) : Prop :=
  ∀ (tuning : Tuning) (nodes : List Embedding) (direction : Embedding) (count : Nat),
    direction.isFinite = true → (∀ node ∈ nodes, node.length = direction.length) →
      ∃ slots, library.find tuning nodes direction count = some slots ∧
        Closest direction nodes count slots

/-- The library crashes on the directions that are not finite, and on no others. -/
def Strict (library : GraphLibrary) : Prop :=
  ∀ (tuning : Tuning) (nodes : List Embedding) (direction : Embedding) (count : Nat),
    (∀ node ∈ nodes, node.length = direction.length) →
      (library.find tuning nodes direction count = none ↔ direction.isFinite = false)

theorem Nearest.complete {library : GraphLibrary} (nearest : library.Nearest) :
    library.Complete := by
  intro tuning nodes direction finite widths
  obtain ⟨slots, found, closest⟩ := nearest tuning nodes direction nodes.length finite widths
  have inside : slots ⊆ List.range nodes.length := fun slot member =>
    List.mem_range.mpr (closest.inside slot member)
  refine ⟨slots, found, (List.subperm_of_subset closest.nodup inside).perm_of_length_le ?_⟩
  rw [closest.length_eq, List.length_range, Nat.min_self]

end GraphLibrary

/-- A crash, or a fault that comes from the graph. -/
def Halt.Foreign (halt : Halt) : Prop :=
  ∀ fault, halt = .fault fault → ∃ cause, fault.root = .graph cause

theorem Halt.Foreign.crash : Halt.crash.Foreign := fun _ same => by cases same

theorem Halt.Foreign.graph (cause : GraphFault) : (Halt.fault (.graph cause)).Foreign :=
  fun _ same => by cases same; exact ⟨cause, rfl⟩

theorem Halt.Foreign.isValidation_eq {fault : Fault} (foreign : (Halt.fault fault).Foreign) :
    fault.isValidation = false := by
  obtain ⟨cause, root_eq⟩ := foreign fault rfl
  rw [Fault.isValidation, root_eq]

theorem Halt.Foreign.within {halt : Halt} (foreign : halt.Foreign) {context : Fault → Fault}
    (same_root : ∀ fault, (context fault).root = fault.root) : (halt.within context).Foreign := by
  intro fault same
  cases halt with
  | crash => cases same
  | fault cause =>
    cases same
    rw [same_root]
    exact foreign cause rfl

theorem Reply.foreign {reply : Reply} {halt : Halt} (failed : reply.outcome = .error halt) :
    halt.Foreign := by
  cases reply with
  | taken => cases failed
  | refused reason =>
    cases failed
    exact .graph _
  | crashed =>
    cases failed
    exact .crash

theorem Overflow.word_of_lt (overflow : Overflow) {n : Nat} (fits : n < wordLimit) :
    overflow.word n = .ok n := if_pos fits

theorem Overflow.word_eq_error_iff (overflow : Overflow) (n : Nat) (halt : Halt) :
    overflow.word n = .error halt ↔ overflow = crash ∧ wordLimit ≤ n ∧ halt = .crash := by
  by_cases fits : n < wordLimit
  · simp [word, fits]
  · cases overflow <;> simp [word, fits, Nat.le_of_not_lt fits, eq_comm]

section

variable [Runtime]

theorem word_of_lt {n : Nat} (fits : n < wordLimit) : word n = .ok n :=
  Runtime.overflow.word_of_lt fits

theorem word_eq_error_iff (n : Nat) (halt : Halt) :
    word n = .error halt ↔ Runtime.overflow = .crash ∧ wordLimit ≤ n ∧ halt = .crash :=
  Runtime.overflow.word_eq_error_iff n halt

/-- The library takes every node of the right width up to a limit. -/
structure Shape.Takes (shape : Shape) (limit : Nat) : Prop where
  inserts : ∀ (nodes : List Embedding) (node : Embedding), nodes.length < limit →
    (∀ other ∈ nodes, other.length = node.length) →
      Runtime.library.insert shape nodes node = .taken
  links : ∀ nodes : List Embedding, nodes.length ≤ limit →
    (∀ a ∈ nodes, ∀ b ∈ nodes, a.length = b.length) →
      Runtime.library.link shape nodes = .taken

/-- A graph of that size can be ordered, and the library takes its nodes within the capacity. -/
def Tuning.Supported (t : Tuning) : Prop :=
  ∃ shape, t.shape = .ok shape ∧ shape.Takes t.capacity

/-- What the settings ask of the library, if they ask for the graph. -/
def Settings.Supported (s : Settings) : Prop :=
  Engine.choose s.preference .here = .graph → s.effective.tuning.Supported

theorem Tuning.shape_eq {t : Tuning} (slots : t.capacity + 1 < wordLimit)
    (neighbors : 2 * t.neighbors < wordLimit) :
    t.shape = .ok ⟨t, t.capacity + 1, 2 * t.neighbors⟩ := by
  rw [shape, word_of_lt slots, word_of_lt neighbors]

theorem Tuning.shape_foreign {t : Tuning} {halt : Halt} (failed : t.shape = .error halt) :
    halt.Foreign := by
  have crash {n : Nat} {cause : Halt} (overflown : word n = .error cause) : cause.Foreign := by
    rw [((word_eq_error_iff n cause).mp overflown).2.2]
    exact .crash
  rw [shape] at failed
  cases capacity : word (t.capacity + 1) with
  | error cause =>
    rw [capacity] at failed
    cases failed
    exact crash capacity
  | ok slots =>
    cases neighbors : word (2 * t.neighbors) with
    | error cause =>
      rw [capacity, neighbors] at failed
      cases failed
      exact crash neighbors
    | ok base =>
      rw [capacity, neighbors] at failed
      cases failed

namespace Shape

variable (shape : Shape)

theorem grow_foreign (nodes new : List Embedding) {halt : Halt}
    (failed : (shape.grow nodes new).1 = .error halt) : halt.Foreign := by
  induction new generalizing nodes with
  | nil => exact Reply.foreign failed
  | cons node rest ih =>
    rw [grow] at failed
    cases reply : Runtime.library.insert shape nodes node with
    | taken =>
      simp only [reply] at failed
      exact ih _ failed
    | refused reason => exact Reply.foreign (by simpa [reply] using failed)
    | crashed => exact Reply.foreign (by simpa [reply] using failed)

theorem grow_of_ok (nodes new : List Embedding) (grown : (shape.grow nodes new).1 = .ok ()) :
    (shape.grow nodes new).2 = nodes ++ new := by
  induction new generalizing nodes with
  | nil => rw [grow, List.append_nil]
  | cons node rest ih =>
    rw [grow] at grown ⊢
    cases reply : Runtime.library.insert shape nodes node with
    | taken =>
      simp only [reply] at grown ⊢
      rw [ih _ grown, List.append_assoc]
      rfl
    | refused reason => simp [reply, Reply.outcome] at grown
    | crashed => simp [reply, Reply.outcome] at grown

theorem prefix_grow (nodes new : List Embedding) : nodes <+: (shape.grow nodes new).2 := by
  induction new generalizing nodes with
  | nil => exact List.prefix_refl nodes
  | cons node rest ih =>
    rw [grow]
    cases Runtime.library.insert shape nodes node with
    | taken => exact (List.prefix_append nodes [node]).trans (ih _)
    | refused reason => exact List.prefix_refl nodes
    | crashed => exact List.prefix_refl nodes

theorem Takes.grow_eq {shape : Shape} {limit : Nat} (takes : shape.Takes limit)
    (nodes new : List Embedding) (small : (nodes ++ new).length ≤ limit)
    (even : ∀ a ∈ nodes ++ new, ∀ b ∈ nodes ++ new, a.length = b.length) :
    shape.grow nodes new = .done (nodes ++ new) := by
  induction new generalizing nodes with
  | nil =>
    rw [List.append_nil] at small even ⊢
    rw [grow, takes.links nodes small even]
    rfl
  | cons node rest ih =>
    have moved : nodes ++ node :: rest = nodes ++ [node] ++ rest := by simp
    have room : nodes.length < limit := by
      rw [List.length_append, List.length_cons] at small
      omega
    have same_width (other : Embedding) (member : other ∈ nodes) : other.length = node.length :=
      even other (List.mem_append_left _ member) node (by simp)
    rw [moved] at small even ⊢
    rw [grow, takes.inserts nodes node room same_width]
    exact ih (nodes ++ [node]) small even

end Shape

end

theorem nearest_perm (direction : Embedding) (nodes : List Embedding) (count : Nat)
    (all : nodes.length ≤ count) :
    (nearest direction nodes count).Perm (List.range nodes.length) := by
  rw [nearest, List.take_of_length_le]
  · have slots : ((nodes.map (direction.squaredDistance ·)).zipIdx.map (·.2)) =
        List.range nodes.length := by
      rw [List.zipIdx_map_snd, List.length_map, List.range_eq_range']
    rw [← slots]
    exact (sortBy_perm _ _).map _
  · rw [length_sortBy, List.length_zipIdx, List.length_map]
    exact all

theorem nearest_closest (direction : Embedding) (nodes : List Embedding) (count : Nat) :
    Closest direction nodes count (nearest direction nodes count) := by
  let distances := (nodes.map (direction.squaredDistance ·)).zipIdx
  let ordered := sortBy (fun pair : Binary32 × Nat => pair.1.rankKey) distances
  have whole : ordered.take count ++ ordered.drop count = ordered := List.take_append_drop _ _
  have every : (ordered.map (·.2)).Perm (List.range nodes.length) := by
    have all := nearest_perm direction nodes ordered.length
    rw [nearest, List.take_length] at all
    apply all
    simp [ordered, distances, length_sortBy]
  have length_ordered : ordered.length = nodes.length := by simpa using every.length_eq
  have farness_eq (pair : Binary32 × Nat) (member : pair ∈ ordered) :
      farness direction nodes pair.2 = pair.1.rankKey := by
    have listed : pair ∈ distances := (sortBy_perm _ distances).mem_iff.mp member
    rw [List.mem_zipIdx_iff_getElem?, List.getElem?_map, Option.map_eq_some_iff] at listed
    obtain ⟨node, found, same⟩ := listed
    rw [farness, List.getD_eq_getElem?_getD, found, Option.getD_some, same]
  have sorted := sortBy_pairwise (fun pair : Binary32 × Nat => pair.1.rankKey) distances
  change ordered.Pairwise _ at sorted
  rw [← whole, List.pairwise_append] at sorted
  have prefix_eq : nearest direction nodes count = (ordered.take count).map (·.2) := rfl
  refine ⟨?_, ?_, ?_, ?_⟩
  · rw [prefix_eq, List.map_take]
    exact (every.nodup_iff.mpr List.nodup_range).sublist (List.take_sublist _ _)
  · intro slot member
    rw [prefix_eq, List.map_take] at member
    exact List.mem_range.mp (every.mem_iff.mp (List.mem_of_mem_take member))
  · rw [prefix_eq, List.length_map, List.length_take, length_ordered]
  · intro near first far inside absent
    rw [prefix_eq] at first absent
    obtain ⟨here, early, rfl⟩ := List.mem_map.mp first
    obtain ⟨there, member, rfl⟩ := List.mem_map.mp (every.mem_iff.mpr (List.mem_range.mpr inside))
    have late : there ∈ ordered.drop count := by
      rw [← whole] at member
      rcases List.mem_append.mp member with fetched | left
      · exact absurd (List.mem_map_of_mem fetched) absent
      · exact left
    rw [farness_eq here (List.mem_of_mem_take early), farness_eq there (List.mem_of_mem_drop late)]
    exact sorted.2.2 here early there late

theorem GraphLibrary.exhaustive_find (tuning : Tuning) (nodes : List Embedding)
    {direction : Embedding} (finite : direction.isFinite = true) (count : Nat) :
    exhaustive.find tuning nodes direction count = some (nearest direction nodes count) := by
  simp only [exhaustive, if_pos finite]

theorem GraphLibrary.exhaustive_nearest : exhaustive.Nearest := by
  intro tuning nodes direction count finite _
  exact ⟨_, exhaustive_find tuning nodes finite count, nearest_closest direction nodes count⟩

theorem GraphLibrary.exhaustive_complete : exhaustive.Complete := exhaustive_nearest.complete

theorem GraphLibrary.exhaustive_strict : exhaustive.Strict := by
  intro tuning nodes direction count _
  cases finite : direction.isFinite <;> simp [exhaustive, finite]

/-- The program's library takes the nodes of every graph whose lists memory can hold. -/
theorem Tuning.supported_of_held {t : Tuning} (small : t.capacity + 1 < wordLimit)
    (held : (Shape.mk t (t.capacity + 1) (2 * t.neighbors)).isHeld = true) : t.Supported := by
  have neighbors : 2 * t.neighbors < wordLimit := by
    rw [Shape.isHeld, Bool.and_eq_true, Bool.and_eq_true] at held
    have base : 2 * t.neighbors * 8 ≤ 0x7fffffffffffffff := of_decide_eq_true held.1.1
    unfold wordLimit
    omega
  refine ⟨_, shape_eq small neighbors, ?_, fun _ _ _ => rfl⟩
  intro nodes node room _
  have free : ¬ t.capacity + 1 ≤ nodes.length + 1 := by omega
  change GraphLibrary.exhaustive.insert _ nodes node = .taken
  simp only [GraphLibrary.exhaustive, if_neg free, if_pos held]

end EmbeddingIndex
