import EmbeddingIndex.Entries
import Mathlib.Data.List.Nodup
/-!
Entries that can stand together: distinct ids, and finite vectors of one width. Their order does
not matter to what an id leads to.
-/

namespace EmbeddingIndex

theorem rejection_eq_none_iff (id : String) (vector : Embedding) (established : Option Nat) :
    rejection id vector established = none ↔
      vector ≠ [] ∧ vector.isFinite = true ∧ ∀ width, established = some width → width = vector.length := by
  have width_fits : widthFault vector established = none ↔
      ∀ width, established = some width → width = vector.length := by
    cases established with
    | none => simp [widthFault]
    | some width => simp [widthFault]
  cases vector with
  | nil => simp [rejection]
  | cons head tail =>
    by_cases finite : Embedding.isFinite (head :: tail) = true
    · simp only [rejection, List.isEmpty_cons, Bool.false_eq_true, if_false, if_pos finite, width_fits]
      simp [finite]
    · simp [rejection, finite]

/-- What is wrong with a vector, by the first check that it fails. -/
inductive Unfit (id : String) (vector : Embedding) (established : Option Nat) : Fault → Prop
  | empty (nothing : vector = []) : Unfit id vector established (.emptyVector id)
  | nonFinite (filled : vector ≠ []) (outside : ∃ x ∈ vector, x.isFinite = false) :
      Unfit id vector established (.nonFinite id)
  | width (width : Nat) (filled : vector ≠ []) (finite : ∀ x ∈ vector, x.isFinite = true)
      (fixed : established = some width) (other : width ≠ vector.length) :
      Unfit id vector established (.dimensionMismatch width vector.length)

theorem unfit_of_rejection {id : String} {vector : Embedding} {established : Option Nat}
    {fault : Fault} (rejected : rejection id vector established = some fault) :
    Unfit id vector established fault := by
  rw [rejection] at rejected
  by_cases nothing : vector = []
  · rw [if_pos (List.isEmpty_iff.mpr nothing)] at rejected
    cases rejected
    exact .empty nothing
  · rw [if_neg (mt List.isEmpty_iff.mp nothing)] at rejected
    by_cases finite : vector.isFinite = true
    · rw [if_pos finite] at rejected
      have each : ∀ x ∈ vector, x.isFinite = true := List.all_eq_true.mp finite
      cases established with
      | none => cases rejected
      | some width =>
        simp only [widthFault] at rejected
        split at rejected
        · cases rejected
        · rename_i other
          cases rejected
          exact .width width nothing each rfl other
    · rw [if_neg finite] at rejected
      cases rejected
      have outside : ∃ x ∈ vector, x.isFinite = false := by
        simpa [Embedding.isFinite] using finite
      exact .nonFinite nothing outside

namespace Entries

def ids (entries : Entries) : List String := entries.map (·.id)

/-- The new entry comes last, and an earlier one of its id is gone. -/
def push (entries : Entries) (id : String) (vector : Embedding) : Entries :=
  entries.erase id ++ [⟨id, vector⟩]

structure Sound (entries : Entries) : Prop where
  ids_nodup : entries.ids.Nodup
  storable : ∀ entry ∈ entries, entry.vector ≠ [] ∧ entry.vector.isFinite = true
  even : ∀ a ∈ entries, ∀ b ∈ entries, a.vector.length = b.vector.length

theorem mem_erase_iff (entries : Entries) (id : String) (entry : Entry) :
    entry ∈ entries.erase id ↔ entry ∈ entries ∧ entry.id ≠ id := by
  simp [erase]

theorem mem_push_iff (entries : Entries) (id : String) (vector : Embedding) (entry : Entry) :
    entry ∈ entries.push id vector ↔ entry = ⟨id, vector⟩ ∨ entry ∈ entries ∧ entry.id ≠ id := by
  rw [push, List.mem_append, mem_erase_iff, List.mem_singleton, or_comm]

theorem erase_of_absent (entries : Entries) (id : String) (absent : id ∉ entries.ids) :
    entries.erase id = entries := by
  apply List.filter_eq_self.mpr
  intro entry member
  have other : entry.id ≠ id := fun same => absent (List.mem_map.mpr ⟨entry, member, same⟩)
  simpa using other

theorem nodup_erase (entries : Entries) (id : String) (unique : entries.ids.Nodup) :
    (entries.erase id).ids.Nodup := unique.sublist (List.filter_sublist.map _)

theorem nodup_push (entries : Entries) (id : String) (vector : Embedding)
    (unique : entries.ids.Nodup) : (entries.push id vector).ids.Nodup := by
  rw [push, ids, List.map_append]
  apply List.Nodup.append (nodup_erase entries id unique) (List.nodup_singleton _)
  intro key member new
  obtain ⟨entry, kept, rfl⟩ := List.mem_map.mp member
  exact ((mem_erase_iff entries id entry).mp kept).2 (List.mem_singleton.mp new)

theorem nodup_of_push {entries grown : Entries} {id : String} {vector : Embedding}
    (unique : entries.ids.Nodup) (held : grown.Perm (entries.push id vector)) : grown.ids.Nodup :=
  (held.map _).nodup_iff.mpr (nodup_push entries id vector unique)

theorem length_push_le (entries : Entries) (id : String) (vector : Embedding) :
    (entries.push id vector).length ≤ entries.length + 1 := by
  have fewer : (entries.erase id).length ≤ entries.length := List.length_filter_le _ _
  rw [push, List.length_append, List.length_singleton]
  omega

theorem erase_perm {a b : Entries} (same : a.Perm b) (id : String) :
    (a.erase id).Perm (b.erase id) := same.filter _

theorem push_perm {a b : Entries} (same : a.Perm b) (id : String) (vector : Embedding) :
    (a.push id vector).Perm (b.push id vector) := (erase_perm same id).append_right _

theorem put_perm_push (entries : Entries) (id : String) (vector : Embedding)
    (unique : entries.ids.Nodup) : (entries.put id vector).Perm (entries.push id vector) := by
  induction entries with
  | nil => exact List.Perm.refl _
  | cons entry rest ih =>
    obtain ⟨fresh, unique⟩ := List.nodup_cons.mp unique
    by_cases here : entry.id = id
    · have gone : erase (entry :: rest) id = rest := by
        have absent : id ∉ ids rest := here ▸ fresh
        rw [erase, List.filter_cons_of_neg (by simpa using here)]
        exact erase_of_absent rest id absent
      rw [put, if_pos here, push, gone]
      exact (List.perm_append_singleton _ _).symm
    · have stays : push (entry :: rest) id vector = entry :: push rest id vector := by
        rw [push, erase, List.filter_cons_of_pos (by simpa using here)]
        rfl
      rw [put, if_neg here, stays]
      exact (ih unique).cons entry

theorem length_put_of_mem (entries : Entries) (id : String) (vector : Embedding)
    (stored : id ∈ entries.ids) : (entries.put id vector).length = entries.length := by
  induction entries with
  | nil => cases stored
  | cons entry rest ih =>
    by_cases here : entry.id = id
    · rw [put, if_pos here, List.length_cons, List.length_cons]
    · have later : id ∈ ids rest := (List.mem_cons.mp stored).resolve_left (Ne.symm here)
      rw [put, if_neg here, List.length_cons, List.length_cons, ih later]

theorem put_of_lookup (entries : Entries) (id : String) (vector : Embedding)
    (found : entries.lookup id = some vector) : entries.put id vector = entries := by
  induction entries with
  | nil => cases found
  | cons entry rest ih =>
    rw [lookup_cons] at found
    by_cases here : entry.id = id
    · rw [if_pos here] at found
      subst here
      rw [put, if_pos rfl, ← Option.some.inj found]
    · rw [if_neg here] at found
      rw [put, if_neg here, ih found]

theorem width_eq_none_iff (entries : Entries) : entries.width = none ↔ entries = [] := by
  cases entries <;> simp [width]

theorem Sound.width_eq {entries : Entries} (sound : entries.Sound) (entry : Entry)
    (member : entry ∈ entries) : entries.width = some entry.vector.length := by
  cases entries with
  | nil => cases member
  | cons head tail => exact congrArg some (sound.even head List.mem_cons_self entry member)

theorem sound_nil : Sound [] := ⟨List.nodup_nil, by simp, by simp⟩

theorem Sound.subperm {a b : Entries} (sound : a.Sound) (unique : b.ids.Nodup) (inside : b ⊆ a) :
    b.Sound :=
  ⟨unique, fun entry member => sound.storable entry (inside member),
    fun x hx y hy => sound.even x (inside hx) y (inside hy)⟩

theorem Sound.perm {a b : Entries} (sound : a.Sound) (same : a.Perm b) : b.Sound :=
  sound.subperm ((same.map _).nodup_iff.mp sound.ids_nodup) same.symm.subset

theorem Sound.erase {entries : Entries} (sound : entries.Sound) (id : String) :
    (entries.erase id).Sound := by
  apply sound.subperm (nodup_erase entries id sound.ids_nodup)
  intro entry member
  exact ((mem_erase_iff entries id entry).mp member).1

theorem Sound.push {entries : Entries} (sound : entries.Sound) (id : String) (vector : Embedding)
    (accepted : rejection id vector entries.width = none) : (entries.push id vector).Sound := by
  obtain ⟨filled, finite, fits⟩ := (rejection_eq_none_iff id vector _).mp accepted
  have width_new (entry : Entry) (member : entry ∈ entries) :
      entry.vector.length = vector.length := fits _ (sound.width_eq entry member)
  refine ⟨nodup_push entries id vector sound.ids_nodup, ?_, ?_⟩
  · intro entry member
    rcases (mem_push_iff entries id vector entry).mp member with rfl | ⟨old, _⟩
    · exact ⟨filled, finite⟩
    · exact sound.storable entry old
  · intro a ha b hb
    rcases (mem_push_iff entries id vector a).mp ha with rfl | ⟨oldA, _⟩ <;>
      rcases (mem_push_iff entries id vector b).mp hb with rfl | ⟨oldB, _⟩
    · rfl
    · exact (width_new b oldB).symm
    · exact width_new a oldA
    · exact sound.even a oldA b oldB

theorem Sound.width_perm {a b : Entries} (sound : a.Sound) (same : a.Perm b) : a.width = b.width := by
  cases b with
  | nil => rw [same.eq_nil]
  | cons head tail => exact sound.width_eq head (same.mem_iff.mpr List.mem_cons_self)

theorem Sound.put {entries : Entries} (sound : entries.Sound) (id : String) (vector : Embedding)
    (accepted : rejection id vector entries.width = none) : (entries.put id vector).Sound :=
  (sound.push id vector accepted).perm (put_perm_push entries id vector sound.ids_nodup).symm

theorem lookup_eq_some_iff (entries : Entries) (unique : entries.ids.Nodup) (id : String)
    (vector : Embedding) : entries.lookup id = some vector ↔ ⟨id, vector⟩ ∈ entries := by
  induction entries with
  | nil => simp [lookup_nil]
  | cons entry rest ih =>
    obtain ⟨fresh, unique⟩ := List.nodup_cons.mp unique
    rw [lookup_cons, List.mem_cons]
    by_cases here : entry.id = id
    · have absent : (⟨id, vector⟩ : Entry) ∉ rest :=
        fun member => fresh (List.mem_map.mpr ⟨_, member, here.symm⟩)
      subst here
      simp only [if_pos, absent, or_false, Option.some.injEq]
      constructor
      · rintro rfl
        rfl
      · intro same
        rw [← same]
    · have other : (⟨id, vector⟩ : Entry) ≠ entry := fun same => here (same ▸ rfl)
      simp only [if_neg here, other, false_or]
      exact ih unique

theorem lookup_eq_none_iff (entries : Entries) (id : String) :
    entries.lookup id = none ↔ id ∉ entries.ids := by
  induction entries with
  | nil => simp [lookup_nil, ids]
  | cons entry rest ih =>
    rw [lookup_cons, ids, List.map_cons, List.mem_cons, not_or]
    by_cases here : entry.id = id
    · simp [here]
    · simp only [if_neg here, ih, Ne.symm here, not_false_eq_true, true_and, ids]

theorem lookup_perm {a b : Entries} (same : a.Perm b) (unique : a.ids.Nodup) (id : String) :
    a.lookup id = b.lookup id := by
  apply Option.ext
  intro vector
  rw [lookup_eq_some_iff a unique, same.mem_iff,
    lookup_eq_some_iff b ((same.map _).nodup_iff.mp unique)]

theorem lookup_push (entries : Entries) (id key : String) (vector : Embedding)
    (unique : entries.ids.Nodup) :
    (entries.push id vector).lookup key = if id = key then some vector else entries.lookup key := by
  rw [← lookup_put]
  exact lookup_perm (put_perm_push entries id vector unique).symm (nodup_push entries id vector unique) key

end Entries

end EmbeddingIndex
