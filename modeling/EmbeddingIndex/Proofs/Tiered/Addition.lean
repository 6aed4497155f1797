import EmbeddingIndex.Proofs.Active
/-!
What an addition does to a sound tiered index: the vector is refused, stored, taken along by a
promotion, or stored where it was because the promotion failed. Only a library that does not support
the graph makes any other trouble.
-/

namespace EmbeddingIndex

namespace Tiered

section

variable {t : Tiered}

theorem barrier_eq_none_iff (t : Tiered) :
    t.barrier = none ↔ t.poisoned = false ∧ t.closed = false := by
  rw [barrier]
  cases t.poisoned <;> cases t.closed <;> simp

theorem exists_scan (scanning : t.mode = .exact) : ∃ s, t.active = .scan s := by
  cases active : t.active with
  | scan s => exact ⟨s, rfl⟩
  | promoted p =>
    rw [mode, active] at scanning
    cases scanning

theorem exists_promoted (promoted : t.mode = .promoted) : ∃ p, t.active = .promoted p := by
  cases active : t.active with
  | promoted p => exact ⟨p, rfl⟩
  | scan s =>
    rw [mode, active] at promoted
    cases promoted

theorem mode_of_scan {s : Scan} (scanning : t.active = .scan s) : t.mode = .exact := by
  rw [mode, scanning]

theorem mode_of_promoted {p : Promoted} (promoted : t.active = .promoted p) :
    t.mode = .promoted := by
  rw [mode, promoted]

theorem entries_of_scan {s : Scan} (scanning : t.active = .scan s) : t.entries = s.entries := by
  rw [Tiered.entries, scanning]
  rfl

theorem entries_of_promoted {p : Promoted} (promoted : t.active = .promoted p) :
    t.entries = p.entries := by
  rw [Tiered.entries, promoted]
  rfl

theorem barrier_cases {fault : Fault} (barred : t.barrier = some fault) :
    fault = .lockPoisoned resource ∨ fault = .closed := by
  rw [barrier] at barred
  split at barred
  · exact Or.inl (Option.some.inj barred).symm
  · split at barred
    · exact Or.inr (Option.some.inj barred).symm
    · cases barred

theorem conclude_eq {α : Type} (answer : Except Halt α) (t : Tiered) (files : FileTree) :
    conclude answer t files =
      ⟨answer, { t with poisoned := t.poisoned || crashed answer }, files⟩ := by
  rcases answer with ⟨_ | _⟩ | _ <;> simp [conclude, crashed]

theorem crashed_within {α : Type} (op : String) (answer : Except Halt α) :
    crashed (within op answer) = crashed answer := by
  rcases answer with ⟨_ | _⟩ | _ <;> rfl

theorem fresh_effective (settings : Settings) :
    Promoted.fresh settings.effective = Promoted.fresh settings := by
  simp only [Promoted.fresh, Settings.effective_effective]
  rfl

end

variable [Runtime]

structure Sound (settings : Settings) (t : Tiered) : Prop where
  settings_eq : t.settings = settings.effective
  active : t.active.Sound settings
  harm_shown : t.active.poisoned = true → t.poisoned = true

inductive Added (settings : Settings) (t : Tiered) (id : String) (vector : Embedding) :
    Except Halt Unit → Tiered → Prop
  | rejected (fault : Fault) (invalid : rejection id vector t.entries.width = some fault) :
      Added settings t id vector (.error (.fault (.backend "add" fault))) t
  | crowded (promoted : t.mode = .promoted)
      (accepted : rejection id vector t.entries.width = none)
      (graph : Engine.choose settings.preference .here = .graph)
      (full : t.entries.length = settings.effective.tuning.capacity) :
      Added settings t id vector (.error (.fault (.backend "add" (.graph .full)))) t
  | stored (active : Active) (accepted : rejection id vector t.entries.width = none)
      (mode_eq : mode { t with active } = t.mode)
      (held : active.entries.Perm (t.entries.push id vector))
      (small : t.mode = .exact → (t.entries.push id vector).length ≤ t.settings.threshold) :
      Added settings t id vector (.ok ()) { t with active }
  | moved (p : Promoted) (scanning : t.mode = .exact)
      (accepted : rejection id vector t.entries.width = none)
      (held : p.entries.Perm (t.entries.push id vector))
      (beyond : t.settings.threshold < (t.entries.push id vector).length) :
      Added settings t id vector (.ok ()) { t with active := .promoted p }
  | stayed (s : Scan) (fault : Fault) (scanning : t.mode = .exact)
      (accepted : rejection id vector t.entries.width = none)
      (held : s.entries.Perm (t.entries.push id vector))
      (beyond : t.settings.threshold < (t.entries.push id vector).length)
      (cause : (∃ reason, fault = .construction reason) ∨
        (∃ key, fault = .copy key (.graph .full)) ∧
          Engine.choose settings.preference .here = .graph ∧
          settings.effective.tuning.capacity < (t.entries.push id vector).length) :
      Added settings t id vector (.error (.fault fault)) { t with active := .scan s }
  | troubled (halt : Halt) (next : Tiered) (accepted : rejection id vector t.entries.width = none)
      (closed_eq : next.closed = t.closed) (foreign : halt.Foreign)
      (unsupported : ¬ settings.Supported) : Added settings t id vector (.error halt) next

variable {settings : Settings} {t : Tiered}

theorem Sound.with_active (sound : t.Sound settings) {active : Active}
    (kept : active.Sound settings) {harmed : Bool}
    (shown : active.poisoned = true → harmed = true) :
    Sound settings { t with active, poisoned := harmed } :=
  ⟨sound.settings_eq, kept, shown⟩

theorem promote_cases (settings : Settings) (s : Scan) (files : FileTree) (sound : s.entries.Sound) :
    (∃ reason, (promote settings.effective s files).1 = .error (.fault (.construction reason))) ∨
      Promoted.Copied settings s.entries (promote settings.effective s files).1 := by
  rw [promote]
  rcases created : Promoted.create settings.effective files with ⟨outcome, rest⟩
  have cases := Promoted.create_cases settings.effective files
  rw [created, fresh_effective] at cases
  rcases cases with rfl | ⟨reason, rfl⟩
  · exact Or.inr (Promoted.copied_of_sound settings sound)
  · exact Or.inl ⟨reason, rfl⟩

theorem add_of_barrier {fault : Fault} (barred : t.barrier = some fault) (id : String)
    (vector : Embedding) (files : FileTree) :
    t.add id vector files = ⟨.error (.fault fault), t, files⟩ := by
  rw [add, barred]

theorem add_promoted {p : Promoted} (promoted : t.active = .promoted p) (free : t.barrier = none)
    (id : String) (vector : Embedding) (files : FileTree) :
    t.add id vector files =
      conclude (within "add" (p.add id vector).1)
        { t with active := .promoted (p.add id vector).2 } files := by
  rw [add, free, promoted]
  rcases added : p.add id vector with ⟨halt | _, q⟩
  · simp only [Active.add, added]
  · simp only [Active.add, added, ite_self]
    rfl

theorem add_scan {s : Scan} (scanning : t.active = .scan s) (free : t.barrier = none)
    (unique : t.entries.ids.Nodup) (id : String) (vector : Embedding) (files : FileTree) :
    t.add id vector files =
      match rejection id vector t.entries.width with
      | some fault => ⟨.error (.fault (.backend "add" fault)), t, files⟩
      | none =>
        let grown : Scan := ⟨t.entries.put id vector⟩
        if (t.entries.push id vector).length ≤ t.settings.threshold then
          ⟨.ok (), { t with active := .scan grown }, files⟩
        else
          match promote t.settings grown files with
          | (.error halt, files) => conclude (.error halt) { t with active := .scan grown } files
          | (.ok p, files) => ⟨.ok (), { t with active := .promoted p }, files⟩ := by
  have same : ({ t with active := .scan s } : Tiered) = t := by
    rw [← scanning]
  have entries_eq := entries_of_scan scanning
  have size_eq : (t.entries.push id vector).length = (Scan.mk (t.entries.put id vector)).size :=
    (Entries.put_perm_push t.entries id vector unique).length_eq.symm
  rw [size_eq, entries_eq]
  cases rejected : rejection id vector s.entries.width with
  | some fault =>
    have added : s.add id vector = .failed fault s := by rw [Scan.add, Scan.width, rejected]
    rw [add, free, scanning]
    simp only [Active.add, added, Attempt.failed, same]
    rfl
  | none =>
    have added : s.add id vector = .done ⟨s.entries.put id vector⟩ := by
      rw [Scan.add, Scan.width, rejected]
    rw [add, free, scanning]
    simp only [Active.add, added]
    rfl

theorem Sound.active_sane (sound : t.Sound settings) (unharmed : t.poisoned = false) :
    t.active.poisoned = false := by
  cases harmed : t.active.poisoned with
  | false => rfl
  | true =>
    have shown := sound.harm_shown harmed
    rw [unharmed] at shown
    cases shown

theorem Sound.size_eq (sound : t.Sound settings) (still_open : t.closed = false)
    (unharmed : t.poisoned = false) : t.size = t.entries.length := by
  rw [size, if_neg (by simp [still_open])]
  exact sound.active.size_eq (sound.active_sane unharmed)

theorem Sound.width_eq (sound : t.Sound settings) (unharmed : t.poisoned = false) :
    t.width = t.entries.width := sound.active.width_eq (sound.active_sane unharmed)

theorem Sound.entries (sound : t.Sound settings) (unharmed : t.poisoned = false) :
    t.entries.Sound := sound.active.entries (sound.active_sane unharmed)

theorem Sound.promoted (sound : t.Sound settings) {p : Promoted} (promoted : t.active = .promoted p) :
    p.Sound settings ∧ (t.poisoned = false → p.poisoned = false) := by
  constructor
  · have active := sound.active
    rwa [promoted] at active
  · intro unharmed
    have sane := sound.active_sane unharmed
    rwa [promoted] at sane

theorem Sound.add_promoted_of_refusal (sound : t.Sound settings) {p : Promoted}
    (promoted : t.active = .promoted p) (free : t.barrier = none) {id : String} {vector : Embedding}
    {fault : Fault} (refused : Promoted.refusal settings t.entries id vector = some fault)
    (files : FileTree) :
    t.add id vector files = ⟨.error (.fault (.backend "add" fault)), t, files⟩ := by
  have unharmed := ((barrier_eq_none_iff t).mp free).1
  rcases sound.promoted promoted with ⟨whole, sane⟩
  rw [entries_of_promoted promoted] at refused
  have same : ({ t with active := .promoted p } : Tiered) = t := by rw [← promoted]
  rw [add_promoted promoted free, whole.add_of_refusal (sane unharmed) refused]
  simp only [Attempt.failed, same]
  rfl

theorem Sound.add_of_rejected (sound : t.Sound settings) (free : t.barrier = none) {id : String}
    {vector : Embedding} {fault : Fault}
    (rejected : rejection id vector t.entries.width = some fault) (files : FileTree) :
    t.add id vector files = ⟨.error (.fault (.backend "add" fault)), t, files⟩ := by
  have together := sound.entries ((barrier_eq_none_iff t).mp free).1
  cases active : t.active with
  | scan s => rw [add_scan active free together.ids_nodup, rejected]
  | promoted p =>
    exact sound.add_promoted_of_refusal active free (Promoted.refusal_of_rejected settings rejected)
      files

theorem Sound.add_promoted_added (sound : t.Sound settings) {p : Promoted}
    (promoted : t.active = .promoted p) (free : t.barrier = none) (id : String) (vector : Embedding)
    (accepted : rejection id vector t.entries.width = none) (files : FileTree) :
    Added settings t id vector (t.add id vector files).answer (t.add id vector files).index ∧
      (t.add id vector files).index.Sound settings := by
  have unharmed := ((barrier_eq_none_iff t).mp free).1
  rcases sound.promoted promoted with ⟨whole, sane⟩
  have entries_eq := entries_of_promoted promoted
  have mode_eq := mode_of_promoted promoted
  rcases Promoted.refusal_of_accepted settings accepted with ⟨taken, _⟩ | ⟨refused, graph, full⟩
  · rw [entries_eq] at accepted taken
    have lands := whole.add_lands (sane unharmed) id vector accepted
    have ok (supported : settings.Supported) := whole.add_ok (sane unharmed) supported taken
    have active : Active.Sound settings (.promoted (p.add id vector).2) := lands.sound
    rw [add_promoted promoted free, conclude_eq, crashed_within, unharmed, Bool.false_or]
    refine ⟨?_, sound.with_active active fun harmed => lands.poisoned_eq.symm.trans harmed⟩
    rw [← entries_eq] at accepted
    rcases added : p.add id vector with ⟨halt | _, q⟩
    · rw [added] at lands ok
      exact .troubled _ _ accepted rfl ((lands.foreign halt rfl).within fun _ => rfl)
        fun supported => by cases ok supported
    · rw [added] at lands
      have plain : ({ t with active := .promoted q, poisoned := false } : Tiered) =
          { t with active := .promoted q } := by rw [← unharmed]
      have stored : Added settings t id vector (.ok ()) { t with active := .promoted q } := by
        refine .stored (.promoted q) accepted mode_eq.symm (entries_eq ▸ lands.entries_perm rfl) ?_
        intro scanning
        rw [mode_eq] at scanning
        cases scanning
      rwa [← plain] at stored
  · rw [sound.add_promoted_of_refusal promoted free refused]
    exact ⟨.crowded mode_eq accepted graph full, sound⟩

theorem Sound.add_scan_added (sound : t.Sound settings) {s : Scan} (scanning : t.active = .scan s)
    (free : t.barrier = none) (id : String) (vector : Embedding)
    (accepted : rejection id vector t.entries.width = none) (files : FileTree) :
    Added settings t id vector (t.add id vector files).answer (t.add id vector files).index ∧
      (t.add id vector files).index.Sound settings := by
  have together := sound.entries ((barrier_eq_none_iff t).mp free).1
  have mode_eq := mode_of_scan scanning
  have kept := together.put id vector accepted
  have held := Entries.put_perm_push t.entries id vector together.ids_nodup
  have active : Active.Sound settings (.scan ⟨t.entries.put id vector⟩) := kept
  have stored : Sound settings { t with active := .scan ⟨t.entries.put id vector⟩ } := by
    apply sound.with_active active
    simp [Active.poisoned]
  rw [add_scan scanning free together.ids_nodup, accepted]
  dsimp only
  by_cases small : (t.entries.push id vector).length ≤ t.settings.threshold
  · rw [if_pos small]
    exact ⟨.stored _ accepted mode_eq.symm held fun _ => small, stored⟩
  · have beyond := Nat.lt_of_not_le small
    rw [if_neg small]
    have cases := promote_cases settings ⟨t.entries.put id vector⟩ files kept
    rw [← sound.settings_eq] at cases
    generalize promote t.settings ⟨t.entries.put id vector⟩ files = result at cases ⊢
    rcases result with ⟨outcome, rest⟩
    dsimp only at cases
    rcases cases with ⟨reason, rfl⟩ | copied
    · exact ⟨.stayed _ _ mode_eq accepted held beyond (Or.inl ⟨reason, rfl⟩), stored⟩
    · cases copied with
      | whole p promoted sane same =>
        refine ⟨.moved p mode_eq accepted (same.trans held) beyond, ?_⟩
        have active : Active.Sound settings (.promoted p) := promoted
        apply sound.with_active active
        intro harmed
        rw [Active.poisoned, sane] at harmed
        cases harmed
      | crowded key graph full =>
        have crowded : settings.effective.tuning.capacity < (t.entries.push id vector).length := by
          rwa [← held.length_eq]
        exact ⟨.stayed _ _ mode_eq accepted held beyond (Or.inr ⟨⟨key, rfl⟩, graph, crowded⟩), stored⟩
      | troubled key cause foreign unsupported =>
        dsimp only
        rw [conclude_eq]
        refine ⟨.troubled _ _ accepted rfl (foreign.within fun _ => rfl) unsupported,
          stored.with_active stored.active ?_⟩
        simp [Active.poisoned]

theorem Sound.add_added (sound : t.Sound settings) (free : t.barrier = none) (id : String)
    (vector : Embedding) (files : FileTree) :
    Added settings t id vector (t.add id vector files).answer (t.add id vector files).index ∧
      (t.add id vector files).index.Sound settings := by
  cases rejected : rejection id vector t.entries.width with
  | some fault =>
    rw [sound.add_of_rejected free rejected]
    exact ⟨.rejected fault rejected, sound⟩
  | none =>
    cases active : t.active with
    | scan s => exact sound.add_scan_added active free id vector rejected files
    | promoted p => exact sound.add_promoted_added active free id vector rejected files

end Tiered

end EmbeddingIndex
