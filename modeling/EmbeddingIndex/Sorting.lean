/-!
Stable sorting by a natural key, least first. The result is a permutation of the input and its keys
do not decrease.
-/

namespace EmbeddingIndex

def insertBy {α : Type} (key : α → Nat) (a : α) : List α → List α
  | [] => [a]
  | b :: rest => if key a ≤ key b then a :: b :: rest else b :: insertBy key a rest

def sortBy {α : Type} (key : α → Nat) : List α → List α
  | [] => []
  | a :: rest => insertBy key a (sortBy key rest)

theorem insertBy_perm {α : Type} (key : α → Nat) (a : α) (values : List α) :
    (insertBy key a values).Perm (a :: values) := by
  induction values with
  | nil => exact List.Perm.refl _
  | cons b rest ih =>
    rw [insertBy]
    split
    · exact List.Perm.refl _
    · exact (ih.cons b).trans (List.Perm.swap a b rest)

theorem sortBy_perm {α : Type} (key : α → Nat) (values : List α) :
    (sortBy key values).Perm values := by
  induction values with
  | nil => exact List.Perm.refl _
  | cons a rest ih => exact (insertBy_perm key a _).trans (ih.cons a)

theorem length_sortBy {α : Type} (key : α → Nat) (values : List α) :
    (sortBy key values).length = values.length := (sortBy_perm key values).length_eq

theorem insertBy_pairwise {α : Type} (key : α → Nat) (a : α) (values : List α)
    (sorted : values.Pairwise fun x y => key x ≤ key y) :
    (insertBy key a values).Pairwise fun x y => key x ≤ key y := by
  induction values with
  | nil => exact List.pairwise_singleton _ a
  | cons b rest ih =>
    obtain ⟨least, tail⟩ := List.pairwise_cons.mp sorted
    rw [insertBy]
    split
    · rename_i before
      apply List.pairwise_cons.mpr
      refine ⟨fun c member => ?_, sorted⟩
      rcases List.mem_cons.mp member with same | later
      · rw [same]
        exact before
      · exact Nat.le_trans before (least c later)
    · rename_i after
      apply List.pairwise_cons.mpr
      refine ⟨fun c member => ?_, ih tail⟩
      rcases List.mem_cons.mp ((insertBy_perm key a rest).mem_iff.mp member) with same | later
      · rw [same]
        omega
      · exact least c later

theorem sortBy_pairwise {α : Type} (key : α → Nat) (values : List α) :
    (sortBy key values).Pairwise fun x y => key x ≤ key y := by
  induction values with
  | nil => exact List.Pairwise.nil
  | cons a rest ih => exact insertBy_pairwise key a _ ih

end EmbeddingIndex
