import EmbeddingIndex.Embedding
/-!
Lists of entries read as maps from ids to vectors.
-/

namespace EmbeddingIndex

abbrev Entries := List Entry

namespace Entries

def put (id : String) (vector : Embedding) : Entries → Entries
  | [] => [⟨id, vector⟩]
  | entry :: rest => if entry.id = id then ⟨id, vector⟩ :: rest else entry :: put id vector rest

def erase (entries : Entries) (id : String) : Entries := entries.filter (·.id ≠ id)

def lookup (entries : Entries) (id : String) : Option Embedding :=
  (entries.find? (·.id = id)).map (·.vector)

def width (entries : Entries) : Option Nat := entries.head?.map (·.vector.length)

theorem lookup_nil (key : String) : lookup [] key = none := rfl

theorem lookup_cons (entry : Entry) (rest : Entries) (key : String) :
    lookup (entry :: rest) key = if entry.id = key then some entry.vector else lookup rest key := by
  by_cases same : entry.id = key <;> simp [lookup, same]

theorem lookup_put (entries : Entries) (id key : String) (vector : Embedding) :
    (entries.put id vector).lookup key = if id = key then some vector else entries.lookup key := by
  induction entries with
  | nil => simp only [put, lookup_cons]
  | cons entry rest ih =>
    by_cases here : entry.id = id
    · rw [put, if_pos here, lookup_cons, lookup_cons, here]
      split <;> rfl
    · simp only [put, if_neg here, lookup_cons, ih]
      by_cases same : entry.id = key
      · have other : ¬ id = key := fun found => here (same.trans found.symm)
        simp only [if_pos same, if_neg other]
      · simp only [if_neg same]

theorem lookup_erase (entries : Entries) (id key : String) :
    (entries.erase id).lookup key = if id = key then none else entries.lookup key := by
  induction entries with
  | nil => simp [erase, lookup_nil]
  | cons entry rest ih =>
    by_cases here : entry.id = id
    · have gone : erase (entry :: rest) id = erase rest id := by simp [erase, here]
      rw [gone, ih, lookup_cons, here]
      split <;> rfl
    · have stays : erase (entry :: rest) id = entry :: erase rest id := by simp [erase, here]
      rw [stays, lookup_cons, lookup_cons, ih]
      by_cases same : entry.id = key
      · have other : ¬ id = key := fun found => here (same.trans found.symm)
        simp only [if_pos same, if_neg other]
      · simp only [if_neg same]

end Entries

/-- An operation's outcome beside the state it leaves, which a failure may have changed too. -/
abbrev Attempt (ε σ : Type) := Except ε Unit × σ

namespace Attempt

def done {ε σ : Type} (state : σ) : Attempt ε σ := (.ok (), state)

def failed {ε σ : Type} (cause : ε) (state : σ) : Attempt ε σ := (.error cause, state)

def andThen {ε σ : Type} (attempt : Attempt ε σ) (next : σ → Attempt ε σ) : Attempt ε σ :=
  match attempt.1 with
  | .ok _ => next attempt.2
  | .error _ => attempt

end Attempt

end EmbeddingIndex
