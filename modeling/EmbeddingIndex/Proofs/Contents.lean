import EmbeddingIndex.Proofs.Entries
import Mathlib.Data.Finset.Card
/-!
What ids lead to, as a plain function.
-/

namespace EmbeddingIndex

abbrev Contents := String → Option Embedding

namespace Contents

def empty : Contents := fun _ => none

def set (m : Contents) (id : String) (vector : Embedding) : Contents :=
  Function.update m id (some vector)

def unset (m : Contents) (id : String) : Contents := Function.update m id none

def ofEntries (entries : Entries) : Contents :=
  entries.foldl (fun m entry => m.set entry.id entry.vector) empty

theorem set_apply (m : Contents) (id key : String) (vector : Embedding) :
    m.set id vector key = if id = key then some vector else m key := by
  simp only [set, Function.update_apply, eq_comm]

theorem unset_apply (m : Contents) (id key : String) :
    m.unset id key = if id = key then none else m key := by
  simp only [unset, Function.update_apply, eq_comm]

def setAll (m : Contents) (entries : Entries) : Contents :=
  entries.foldl (fun m entry => m.set entry.id entry.vector) m

theorem setAll_cons (m : Contents) (entry : Entry) (rest : Entries) :
    m.setAll (entry :: rest) = (m.set entry.id entry.vector).setAll rest := rfl

theorem ofEntries_append (first last : Entries) :
    ofEntries (first ++ last) = (ofEntries first).setAll last := List.foldl_append

theorem setAll_eq_none_iff (m : Contents) (entries : Entries) (id : String) :
    m.setAll entries id = none ↔ m id = none ∧ id ∉ entries.ids := by
  induction entries generalizing m with
  | nil => simp [setAll, Entries.ids]
  | cons entry rest ih =>
    rw [setAll_cons, ih, set_apply]
    by_cases here : entry.id = id
    · simp [here, Entries.ids]
    · simp [here, Ne.symm here, Entries.ids]

theorem ofEntries_eq_none_iff (entries : Entries) (id : String) :
    ofEntries entries id = none ↔ id ∉ entries.ids := by
  refine (setAll_eq_none_iff empty entries id).trans ?_
  simp [empty]

theorem mem_of_setAll {m : Contents} {entries : Entries} {id : String} {vector : Embedding}
    (leads : m.setAll entries id = some vector) : m id = some vector ∨ ⟨id, vector⟩ ∈ entries := by
  induction entries generalizing m with
  | nil => exact Or.inl leads
  | cons entry rest ih =>
    rw [setAll_cons] at leads
    rcases ih leads with before | later
    · rw [set_apply] at before
      by_cases here : entry.id = id
      · rw [if_pos here] at before
        obtain rfl := here
        obtain rfl := Option.some.inj before
        exact Or.inr List.mem_cons_self
      · rw [if_neg here] at before
        exact Or.inl before
    · exact Or.inr (List.mem_cons_of_mem entry later)

end Contents

/-- The entries hold each id that leads anywhere, once, with the vector it leads to. -/
structure Entries.Hold (entries : Entries) (m : Contents) : Prop where
  ids_nodup : entries.ids.Nodup
  lookup_eq : ∀ id, entries.lookup id = m id

namespace Entries.Hold

variable {entries other : Entries} {m : Contents}

theorem nil : Entries.Hold [] Contents.empty := ⟨List.nodup_nil, fun _ => rfl⟩

theorem perm (hold : entries.Hold m) (same : entries.Perm other) : other.Hold m :=
  ⟨(same.map _).nodup_iff.mp hold.ids_nodup,
    fun id => (lookup_perm same hold.ids_nodup id).symm.trans (hold.lookup_eq id)⟩

theorem push (hold : entries.Hold m) (id : String) (vector : Embedding) :
    (entries.push id vector).Hold (m.set id vector) := by
  refine ⟨nodup_push entries id vector hold.ids_nodup, ?_⟩
  intro key
  rw [lookup_push entries id key vector hold.ids_nodup, Contents.set_apply, hold.lookup_eq]

theorem erase (hold : entries.Hold m) (id : String) : (entries.erase id).Hold (m.unset id) := by
  refine ⟨nodup_erase entries id hold.ids_nodup, ?_⟩
  intro key
  rw [lookup_erase, Contents.unset_apply, hold.lookup_eq]

theorem mem_iff (hold : entries.Hold m) (id : String) (vector : Embedding) :
    ⟨id, vector⟩ ∈ entries ↔ m id = some vector := by
  rw [← lookup_eq_some_iff entries hold.ids_nodup, hold.lookup_eq]

theorem subset {given : Entries} (hold : entries.Hold (Contents.ofEntries given)) :
    entries ⊆ given := by
  intro entry member
  have leads := (hold.mem_iff entry.id entry.vector).mp member
  exact (Contents.mem_of_setAll leads).resolve_left (by simp [Contents.empty])

theorem length_eq {given : Entries} (hold : entries.Hold (Contents.ofEntries given)) :
    entries.length = given.ids.toFinset.card := by
  have same : entries.ids.toFinset = given.ids.toFinset := by
    ext id
    rw [List.mem_toFinset, List.mem_toFinset, ← not_iff_not, ← lookup_eq_none_iff, hold.lookup_eq,
      Contents.ofEntries_eq_none_iff]
  rw [← same, List.toFinset_card_of_nodup hold.ids_nodup, ids, List.length_map]

end Entries.Hold

end EmbeddingIndex
