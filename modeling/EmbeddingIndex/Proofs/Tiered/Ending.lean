import EmbeddingIndex.Proofs.Tiered.Promotion
import EmbeddingIndex.Proofs.Tiered.Query
import EmbeddingIndex.Proofs.Tiered.Restart
/-!
The two ends of a tiered index. One that was closed and one that a crash has poisoned stay as they
are, whatever is asked of them, and no index comes to both ends. The width that an index shows goes
with its size, but for a scan that was closed with entries in it.
-/

namespace EmbeddingIndex

namespace Promoted

variable [Runtime] {settings : Settings} {p : Promoted} {backend : Backend}

theorem Sound.size_relisted (sound : p.Sound settings) (same : p.backend.Relisted backend) :
    size { p with backend } = p.size := by
  rcases Bool.eq_false_or_eq_true p.poisoned with harmed | sane
  · simp only [size, harmed, if_true]
  · rw [sound.size_eq sane, (sound.relisted same).size_eq sane]
    exact same.perm.length_eq.symm

theorem Sound.width_relisted (sound : p.Sound settings) (same : p.backend.Relisted backend) :
    width { p with backend } = p.width := by
  rcases Bool.eq_false_or_eq_true p.poisoned with harmed | sane
  · simp only [width, harmed, if_true]
  · rw [sound.width_eq sane, (sound.relisted same).width_eq sane]
    exact ((sound.backend sane).entries.width_perm same.perm).symm

end Promoted

namespace Tiered

section

variable {t u v : Tiered}

theorem SameView.refl (t : Tiered) : SameView t t := ⟨rfl, rfl, rfl, rfl, List.Perm.refl _⟩

theorem SameView.trans (first : SameView t u) (second : SameView u v) : SameView t v :=
  ⟨first.size_eq.trans second.size_eq, first.mode_eq.trans second.mode_eq,
    first.engine_eq.trans second.engine_eq, first.width_eq.trans second.width_eq,
    first.entries_perm.trans second.entries_perm⟩

/-- The same index but for the order of its tables. -/
structure Unmoved (t u : Tiered) : Prop where
  closed_eq : u.closed = t.closed
  poisoned_eq : u.poisoned = t.poisoned
  view : SameView t u

theorem Unmoved.barrier_eq (unmoved : Unmoved t u) : u.barrier = t.barrier := by
  rw [barrier, barrier, unmoved.closed_eq, unmoved.poisoned_eq]

end

section

variable [Runtime] {settings : Settings} {t u : Tiered}

/-- Where an index comes to by more calls, made beside any files. -/
inductive Later (t : Tiered) : Tiered → Prop
  | start : Later t t
  | called {u : Tiered} (later : Later t u) (files : FileTree) (op : Operation) :
      Later t (u.after files op)
  | relisted {u : Tiered} (later : Later t u) (active : Active) (same : u.active.Relisted active) :
      Later t { u with active }

structure Retired (t : Tiered) : Prop where
  add : ∀ id vector files, t.add id vector files = ⟨.error (.fault .closed), t, files⟩
  remove : ∀ id files, t.remove id files = ⟨.error (.fault .closed), t, files⟩
  search : ∀ query count files, t.search query count files = ⟨.error (.fault .closed), t, files⟩
  save : ∀ files, t.save files = ⟨.error .closed, t, files⟩
  close : ∀ files, t.close files = ⟨.ok (), t, files⟩

theorem retired_of_closed (closed : t.closed = true) (unharmed : t.poisoned = false) : t.Retired := by
  have barred : t.barrier = some .closed := by simp [barrier, closed, unharmed]
  refine ⟨?_, ?_, ?_, ?_, ?_⟩
  · exact fun id vector files => add_of_barrier barred id vector files
  · exact fun id files => remove_of_barrier barred id files
  · exact fun query count files => search_of_barrier barred query count files
  · exact fun files => save_of_barrier barred files
  · intro files
    rw [Tiered.close, if_neg (by simp [unharmed]), if_pos closed]

theorem Sound.relisted_view (sound : t.Sound settings) {active : Active}
    (same : t.active.Relisted active) : SameView t { t with active } := by
  rcases t with ⟨own, before, closed, harmed⟩
  cases same with
  | scan entries order same =>
    have together : entries.Sound := sound.active
    exact ⟨congrArg (if closed then 0 else ·) same.length_eq, rfl, rfl, together.width_perm same, same⟩
  | promoted p backend relisted =>
    have whole := (sound.promoted rfl).1
    exact ⟨congrArg (if closed then 0 else ·) (whole.size_relisted relisted).symm, rfl,
      congrArg some relisted.engine_eq.symm, (whole.width_relisted relisted).symm, relisted.perm⟩

theorem Later.unmoved (later : Later t u) (sound : t.Sound settings) {fault : Fault}
    (barred : t.barrier = some fault) : u.Sound settings ∧ Unmoved t u := by
  -- The marks that make up the barrier are part of what does not move, so it holds at every call.
  induction later with
  | start => exact ⟨sound, rfl, rfl, .refl t⟩
  | called _ files op ih =>
    rw [after_of_barrier (ih.2.barrier_eq.trans barred)]
    exact ih
  | relisted _ active same ih =>
    obtain ⟨kept, unmoved⟩ := ih
    exact ⟨kept.relisted same, unmoved.closed_eq, unmoved.poisoned_eq,
      unmoved.view.trans (kept.relisted_view same)⟩

theorem Reachable.closed_only (reachable : Reachable settings t) (closed : t.closed = true) :
    t.poisoned = false ∧ (t.mode = .promoted → t.entries = []) := by
  induction reachable with
  | created files rest made =>
    rcases create_cases made with ⟨rfl, _⟩ | ⟨_, _, _, _, _, _, _, rfl⟩ <;> cases closed
  | @stepped t reachable files op ih =>
    cases barrier : t.barrier with
    | some fault =>
      rw [after_of_barrier barrier] at closed ⊢
      exact ih closed
    | none =>
      obtain ⟨unharmed, still_open⟩ := (barrier_eq_none_iff t).mp barrier
      -- Only closing can have set the mark, and it empties what was promoted.
      by_cases closing : op = .close
      · obtain ⟨active, closed_eq, mode_eq, _, emptied, _⟩ := reachable.sound.close_closed barrier files
        rw [closing, Tiered.after, closed_eq]
        exact ⟨unharmed, fun promoted => emptied (mode_eq.symm.trans promoted)⟩
      · rw [reachable.sound.after_closed files closing, still_open] at closed
        cases closed
  | relisted reachable active same ih =>
    obtain ⟨unharmed, emptied⟩ := ih closed
    refine ⟨unharmed, fun promoted => ?_⟩
    have held := same.perm
    rw [← entries, emptied ((mode_eq_of_relisted same).symm.trans promoted)] at held
    exact held.nil_eq.symm

theorem Sound.close_of_ok (sound : t.Sound settings) {files : FileTree}
    (answered : (t.close files).answer = .ok ()) :
    (t.close files).index.Sound settings ∧ (t.close files).index.closed = true ∧
      (t.close files).index.poisoned = false ∧ (t.close files).index.mode = t.mode ∧
      (t.close files).index.engine = t.engine := by
  cases barrier : t.barrier with
  | none =>
    obtain ⟨active, closed_eq, mode_eq, engine_eq, _, kept⟩ := sound.close_closed barrier files
    rw [closed_eq]
    exact ⟨kept, rfl, ((barrier_eq_none_iff t).mp barrier).1, mode_eq, engine_eq⟩
  | some fault =>
    have same : (t.close files).index = t := after_of_barrier barrier files .close
    rw [same]
    cases harmed : t.poisoned with
    | true =>
      rw [(refuses_of_poisoned harmed).close files] at answered
      cases answered
    | false =>
      refine ⟨sound, ?_, rfl, rfl, rfl⟩
      by_contra still_open
      rw [Bool.not_eq_true] at still_open
      rw [(barrier_eq_none_iff t).mpr ⟨harmed, still_open⟩] at barrier
      cases barrier

theorem search_of_crash {query : Embedding} {count : Nat} {files : FileTree}
    (crash : (t.search query count files).answer = .error .crash) :
    t.barrier = none ∧ (t.search query count files).index = { t with poisoned := true } := by
  cases barrier : t.barrier with
  | some fault =>
    rw [search_of_barrier barrier] at crash
    cases crash
  | none =>
    rw [search_of_free barrier] at crash ⊢
    have harmed : crashed (t.active.search query count) = true := by
      rw [← crashed_within "search", crashed_eq_true_iff]
      exact crash
    rw [harmed, Bool.or_true]
    exact ⟨rfl, rfl⟩

/-- Once an index was closed it answers that to everything but another closing, and counts nothing.
Once a search has crashed the index answers that to everything, and shows what it showed before. There
is no way on from either, and none from one to the other. -/
theorem Reachable.ends_for_good (reachable : Reachable settings t) :
    (∀ files, (t.close files).answer = .ok () → ∀ u, Later (t.close files).index u →
        u.Retired ∧ u.size = 0 ∧ u.mode = t.mode ∧ u.engine = t.engine) ∧
      (∀ query count files, (t.search query count files).answer = .error .crash →
        ∀ u, Later (t.search query count files).index u →
          u.Refuses (.lockPoisoned resource) ∧ u.closed = false ∧ SameView t u) ∧
      ¬ (t.closed = true ∧ t.poisoned = true) := by
  have sound := reachable.sound
  refine ⟨?_, ?_, ?_⟩
  · intro files answered u later
    obtain ⟨kept, closed, unharmed, mode_eq, engine_eq⟩ := sound.close_of_ok answered
    have barred : (t.close files).index.barrier = some .closed := by
      simp [barrier, closed, unharmed]
    obtain ⟨_, unmoved⟩ := later.unmoved kept barred
    have closed_still := unmoved.closed_eq.trans closed
    refine ⟨retired_of_closed closed_still (unmoved.poisoned_eq.trans unharmed), ?_,
      unmoved.view.mode_eq.symm.trans mode_eq, unmoved.view.engine_eq.symm.trans engine_eq⟩
    rw [size, if_pos closed_still]
  · intro query count files crash u later
    obtain ⟨free, index_eq⟩ := search_of_crash crash
    rw [index_eq] at later
    have kept : Sound settings { t with poisoned := true } :=
      ⟨sound.settings_eq, sound.active, fun _ => rfl⟩
    have barred : barrier { t with poisoned := true } = some (.lockPoisoned resource) := rfl
    obtain ⟨_, unmoved⟩ := later.unmoved kept barred
    have before : SameView t { t with poisoned := true } := ⟨rfl, rfl, rfl, rfl, List.Perm.refl _⟩
    exact ⟨refuses_of_poisoned unmoved.poisoned_eq,
      unmoved.closed_eq.trans ((barrier_eq_none_iff t).mp free).2, before.trans unmoved.view⟩
  · rintro ⟨closed, harmed⟩
    rw [(reachable.closed_only closed).1] at harmed
    cases harmed

end

theorem ends_for_good_sifted :
    (sifted.close ⟨[], []⟩).answer = .ok () ∧
      (sifted.search [⟨0x7fc00000⟩] 1 ⟨[], []⟩).answer = .error .crash ∧
      (∀ u, Later (sifted.close ⟨[], []⟩).index u →
        u.Retired ∧ u.size = 0 ∧ u.mode = sifted.mode ∧ u.engine = sifted.engine) ∧
      (∀ u, Later (sifted.search [⟨0x7fc00000⟩] 1 ⟨[], []⟩).index u →
        u.Refuses (.lockPoisoned resource) ∧ u.closed = false ∧ SameView sifted u) ∧
      ¬ (sifted.closed = true ∧ sifted.poisoned = true) := by
  obtain ⟨closing, harming, apart⟩ := Reachable.ends_for_good sifted_reachable
  exact ⟨by rfl, by rfl, closing _ (by rfl), harming _ _ _ (by rfl), apart⟩

section

variable [Runtime] {settings : Settings} {t : Tiered}

/-- An index shows a width just if it counts entries, and then it is the width of them all. Only a scan
that was closed keeps its entries, and their width, without counting them. -/
theorem Reachable.width_shown (reachable : Reachable settings t) :
    (¬ (t.closed = true ∧ t.mode = .exact) → (t.width = none ↔ t.size = 0)) ∧
      (t.closed = true ∧ t.mode = .exact → t.size = 0 ∧ (t.width = none ↔ t.entries = [])) ∧
      ∀ width, t.width = some width → ∀ entry ∈ t.entries, entry.vector.length = width := by
  have sound := reachable.sound
  obtain ⟨agrees, lengths⟩ := sound.active.width_agrees
  refine ⟨?_, ?_, lengths⟩
  · intro not_kept
    cases closed : t.closed with
    | false =>
      rw [size, if_neg (by simp [closed])]
      exact agrees
    | true =>
      obtain ⟨unharmed, emptied⟩ := reachable.closed_only closed
      have nothing := emptied ((exact_or_promoted t).resolve_left fun scanning =>
        not_kept ⟨closed, scanning⟩)
      rw [sound.width_eq unharmed, nothing, size, if_pos closed]
      exact ⟨fun _ => rfl, fun _ => rfl⟩
  · rintro ⟨closed, _⟩
    rw [sound.width_eq (reachable.closed_only closed).1, size, if_pos closed]
    exact ⟨rfl, Entries.width_eq_none_iff t.entries⟩

end

theorem width_shown_closed :
    (sifted.after ⟨[], []⟩ .close).closed = true ∧
      ((sifted.after ⟨[], []⟩ .close).width = none ↔ (sifted.after ⟨[], []⟩ .close).size = 0) := by
  have reachable := sifted_reachable.stepped ⟨[], []⟩ .close
  exact ⟨by rfl, (Reachable.width_shown reachable).1 (by decide)⟩

/-- A scan with one entry shows its width also when it was closed. -/
theorem width_of_closed_scan :
    ¬ ∀ (settings : Settings) (t : Tiered), Reachable settings t → (t.width = none ↔ t.size = 0) := by
  intro agree
  have start : Reachable .unset _ := .created ⟨[], []⟩ _ (by rfl)
  have reachable := (start.stepped ⟨[], []⟩ (.add "a" [⟨0x3f800000⟩])).stepped ⟨[], []⟩ .close
  have none_shown := (agree .unset _ reachable).mpr (by rfl)
  cases none_shown

end Tiered

end EmbeddingIndex
