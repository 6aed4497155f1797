import EmbeddingIndex.Program
import EmbeddingIndex.Proofs.Files.Widening
/-!
Commands made of parts. What each part leaves of the files, the whole leaves of them.
-/

namespace EmbeddingIndex

namespace Run

variable {α β : Type} {x : Run α} {f : α → Run β} {files after : FileTree}

def Looks (x : Run α) : Prop := ∀ files, (x files).2 = files

def Widens (x : Run α) : Prop := ∀ files : FileTree, files.Widened (x files).2

/-- If it fails, the files stay, and there may be more directories. -/
def Spares (x : Run α) : Prop :=
  ∀ files after failure, x files = (.error failure, after) → files.Widened after

theorem bind_cases (x : Run α) (f : α → Run β) (files : FileTree) :
    (∃ e after, x files = (.error e, after) ∧ (x >>= f) files = (.error e, after)) ∨
      ∃ a middle, x files = (.ok a, middle) ∧ (x >>= f) files = f a middle := by
  change (∃ e after, _ ∧ bind x f files = _) ∨ ∃ a middle, _ ∧ bind x f files = _
  rw [bind]
  rcases x files with ⟨e | a, middle⟩
  · exact Or.inl ⟨e, middle, rfl, rfl⟩
  · exact Or.inr ⟨a, middle, rfl, rfl⟩

theorem bind_eq_ok {b : β} (ran : (x >>= f) files = (.ok b, after)) :
    ∃ a middle, x files = (.ok a, middle) ∧ f a middle = (.ok b, after) := by
  rcases bind_cases x f files with ⟨e, middle, _, failed⟩ | ⟨a, middle, reached, rest⟩
  · rw [failed] at ran
    cases ran
  · exact ⟨a, middle, reached, rest.symm.trans ran⟩

theorem looks_pure (a : α) : Looks (Pure.pure a : Run α) := fun _ => rfl

theorem looks_lift (result : Except Failure α) : (lift result).Looks := fun _ => rfl

theorem looks_look (f : FileTree → α) : (look f).Looks := fun _ => rfl

theorem looks_fail (f : Failure) : (fail f : Run α).Looks := fun _ => rfl

theorem Looks.bind (first : x.Looks) (next : ∀ a, (f a).Looks) : (x >>= f).Looks := by
  intro files
  have same := first files
  rcases bind_cases x f files with ⟨e, after, failed, result⟩ | ⟨a, middle, reached, result⟩
  · rw [failed] at same
    rw [result]
    exact same
  · rw [reached] at same
    rw [result]
    exact (next a middle).trans same

theorem Looks.widens (looks : x.Looks) : x.Widens := by
  intro files
  rw [looks files]
  exact .refl files

theorem Widens.bind (first : x.Widens) (next : ∀ a, (f a).Widens) : (x >>= f).Widens := by
  intro files
  have widened := first files
  rcases bind_cases x f files with ⟨e, after, failed, result⟩ | ⟨a, middle, reached, result⟩
  · rw [failed] at widened
    rw [result]
    exact widened
  · rw [reached] at widened
    rw [result]
    exact widened.trans (next a middle)

theorem Widens.bind_spares (first : x.Widens) (next : ∀ a, (f a).Spares) : (x >>= f).Spares := by
  intro files after failure ran
  have widened := first files
  rcases bind_cases x f files with ⟨e, middle, failed, result⟩ | ⟨a, middle, reached, result⟩
  · obtain ⟨_, rfl⟩ := Prod.mk.inj (result.symm.trans ran)
    rwa [failed] at widened
  · rw [reached] at widened
    exact widened.trans (next a middle after failure (result.symm.trans ran))

theorem Spares.bind_look (first : x.Spares) (f : α → FileTree → β) :
    (x >>= fun a => look (f a)).Spares := by
  intro files after failure ran
  rcases bind_cases x (fun a => look (f a)) files with
    ⟨e, middle, failed, result⟩ | ⟨a, middle, _, result⟩
  · obtain ⟨_, rfl⟩ := Prod.mk.inj (result.symm.trans ran)
    exact first files middle e failed
  · cases result.symm.trans ran

theorem doing_eq_ok {f : FileTree → Except Halt α × FileTree} {a : α}
    (ran : doing f files = (.ok a, after)) : f files = (.ok a, after) := by
  rcases result : f files with ⟨halt | b, rest⟩
  · simp [doing, result, Except.mapError] at ran
  · simpa [doing, result, Except.mapError] using ran

end Run

end EmbeddingIndex
