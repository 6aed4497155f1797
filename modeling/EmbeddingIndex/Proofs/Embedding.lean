import EmbeddingIndex.Embedding
import EmbeddingIndex.Proofs.Number.Value
/-!
The unit vector of a finite vector is finite, also where the length underflows or overflows.
-/

namespace EmbeddingIndex

open Float.Model Float.Model.UnpackedFloat

namespace Binary32

variable {x y : Binary32} {low : Int}

theorem unsigned_square (finite : x.isFinite = true) : Unsigned (x * x).value := by
  have bounded := bounded_value finite
  rw [value_mul bounded.isNaN bounded.isNaN]
  exact bounded.unsigned_square

theorem unsigned_add (left : Unsigned x.value) (right : Unsigned y.value) :
    Unsigned (x + y).value := by
  rw [value_add left.isNaN right.isNaN]
  exact EmbeddingIndex.unsigned_add left right

theorem reaches_add (left : Unsigned x.value) (right : Unsigned y.value) (inside : -149 ≤ low)
    (reaches : Reaches low x.value ∨ Reaches low y.value) : Reaches low (x + y).value := by
  rw [value_add left.isNaN right.isNaN]
  exact EmbeddingIndex.reaches_add left right inside reaches

theorem reaches_sqrt (reaches : Reaches low x.value) (inside : -149 ≤ low / 2) :
    Reaches (low / 2) x.sqrt.value := by
  rw [value_sqrt reaches.isNaN]
  exact EmbeddingIndex.reaches_sqrt reaches inside

theorem isFinite_div (finite : x.isFinite = true) (reaches : Reaches low y.value)
    (small : ∀ sign m e positive, x.value = .finite sign m e positive → order m e ≤ 126 + low) :
    (x / y).isFinite = true := by
  have bounded := bounded_value finite
  apply isFinite_of_value
  rw [value_div bounded.isNaN reaches.isNaN]
  exact EmbeddingIndex.isFinite_div bounded reaches small

end Binary32

namespace Embedding

variable {v : Embedding} {start : Binary32} {low : Int}

def squares (v : Embedding) (start : Binary32) : Binary32 := v.foldl (fun sum x => sum + x * x) start

theorem norm_eq (v : Embedding) : v.norm = (v.squares .zero).sqrt := rfl

theorem unsigned_squares (finite : v.isFinite = true) (unsigned : Unsigned start.value) :
    Unsigned (v.squares start).value := by
  induction v generalizing start with
  | nil => exact unsigned
  | cons x rest ih =>
    obtain ⟨head, tail⟩ : x.isFinite = true ∧ isFinite rest = true := by
      simpa [isFinite] using finite
    exact ih tail (Binary32.unsigned_add unsigned (Binary32.unsigned_square head))

theorem reaches_squares (finite : v.isFinite = true) (unsigned : Unsigned start.value)
    (inside : -149 ≤ low)
    (reaches : Reaches low start.value ∨ ∃ x ∈ v, Reaches low (x * x).value) :
    Reaches low (v.squares start).value := by
  induction v generalizing start with
  | nil => simpa [squares] using reaches
  | cons x rest ih =>
    obtain ⟨head, tail⟩ : x.isFinite = true ∧ isFinite rest = true := by
      simpa [isFinite] using finite
    have square := Binary32.unsigned_square head
    apply ih tail (Binary32.unsigned_add unsigned square)
    rcases reaches with before | ⟨y, member, large⟩
    · exact Or.inl (Binary32.reaches_add unsigned square inside (Or.inl before))
    · rcases List.mem_cons.mp member with rfl | later
      · exact Or.inl (Binary32.reaches_add unsigned square inside (Or.inr large))
      · exact Or.inr ⟨y, later, large⟩

theorem reaches_norm (finite : v.isFinite = true) (long : ¬ v.norm.isZero = true) :
    Reaches (-75) v.norm.value := by
  have unsigned : Unsigned (v.squares .zero).value := unsigned_squares finite (Or.inl rfl)
  rcases unsigned with none | reaches
  · refine absurd (@Binary32.isZero_of_value _ .positive ?_) long
    rw [norm_eq, Binary32.value_sqrt (none ▸ rfl), none]
    exact stored_zero _
  · exact Binary32.reaches_sqrt reaches (by decide)

theorem reaches_norm_of_mem (finite : v.isFinite = true) {x : Binary32} (member : x ∈ v)
    {sign : Sign} {m : Nat} {e : Int} {positive : 0 < m}
    (reads : x.value = .finite sign m e positive) (large : 40 ≤ order m e) :
    Reaches 40 v.norm.value := by
  obtain ⟨canonical, _⟩ := canonical_of_unpack x.bits.toBitVec reads
  have square : Reaches 80 (x * x).value := by
    rw [Binary32.value_mul (reads ▸ rfl) (reads ▸ rfl), reads]
    exact reaches_square sign positive canonical (by omega) (by decide)
  have sum : Reaches 80 (v.squares .zero).value :=
    reaches_squares finite (Or.inl rfl) (by decide) (Or.inr ⟨x, member, square⟩)
  exact Binary32.reaches_sqrt sum (by decide)

theorem isFinite_unit (finite : v.isFinite = true) : v.unit.isFinite = true := by
  change (if v.norm.isZero = true then v else v.map (· / v.norm)).isFinite = true
  split
  · exact finite
  rename_i long
  rw [isFinite, List.all_map, List.all_eq_true]
  intro x member
  have inside : x.isFinite = true := List.all_eq_true.mp finite x member
  -- A component below 2 ^ 40 stays in range over the least length there is; the square of a larger
  -- one is part of the length.
  by_cases large : ∃ sign m e positive, x.value = .finite sign m e positive ∧ 40 ≤ order m e
  · obtain ⟨_, m, e, _, reads, least⟩ := large
    apply Binary32.isFinite_div inside (reaches_norm_of_mem finite member reads least)
    intro _ _ _ _ again
    obtain ⟨canonical, most⟩ := canonical_of_unpack x.bits.toBitVec again
    have width := canonical.width
    unfold order
    omega
  · apply Binary32.isFinite_div inside (reaches_norm finite long)
    intro sign m e positive reads
    by_contra high
    exact large ⟨sign, m, e, positive, reads, by omega⟩

end Embedding

end EmbeddingIndex
