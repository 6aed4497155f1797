import EmbeddingIndex.Proofs.Tiered.Reachable
import EmbeddingIndex.Proofs.Search
import Mathlib.Data.Finset.Card
/-!
When an index without a directory is promoted. It is as soon as an addition leaves more ids than the
threshold, and for good, unless the graph is too small for them or the library does not support it.
-/

namespace EmbeddingIndex

namespace Promoted

variable {settings : Settings}

theorem create_of_memory (memory : settings.effective.dir = none) (files : FileTree) :
    create settings files = (.ok (fresh settings), files) := by
  rw [create]
  simp only [memory, fresh]
  rfl

end Promoted

namespace Tiered

section

variable {t : Tiered}

theorem exact_or_promoted (t : Tiered) : t.mode = .exact ∨ t.mode = .promoted := by
  cases t.mode <;> simp

theorem card_ids_of_held {id : String} {vector : Embedding} (active : Active) (harmed : Bool)
    (together : t.entries.Sound) (held : active.entries.Perm (t.entries.push id vector)) :
    (entries { t with active, poisoned := harmed }).ids.toFinset.card =
      (t.entries.push id vector).length := by
  have unique : active.entries.ids.Nodup := Entries.nodup_of_push together.ids_nodup held
  change active.entries.ids.toFinset.card = (t.entries.push id vector).length
  rw [List.toFinset_card_of_nodup unique, Entries.ids, List.length_map, held.length_eq]

theorem within_eq_fault {op : String} {own : Except Halt Unit} {cause : Fault}
    (failed : within op own = .error (.fault cause)) : ∃ source, cause = .backend op source := by
  rcases own with ⟨source | _⟩ | _
  · cases failed
    exact ⟨source, rfl⟩
  · cases failed
  · cases failed

/-- What anything but an addition makes of a scan. -/
structure Calm (t next : Tiered) : Prop where
  mode_eq : next.mode = .exact
  poisoned_eq : next.poisoned = t.poisoned
  length_le : next.entries.length ≤ t.entries.length

theorem Calm.refl (scanning : t.mode = .exact) : Calm t t := ⟨scanning, rfl, Nat.le_refl _⟩

/-- Room for one id more than the threshold, in whatever a promotion leads to. -/
def Roomy (settings : Settings) : Prop :=
  Engine.choose settings.preference .here = .scan ∨
    settings.effective.threshold < settings.effective.tuning.capacity

theorem not_roomy_iff (settings : Settings) :
    ¬ Roomy settings ↔ Engine.choose settings.preference .here = .graph ∧
      settings.effective.tuning.capacity ≤ settings.effective.threshold := by
  rw [Roomy]
  cases Engine.choose settings.preference .here <;> simp

end

section

variable [Runtime] {settings : Settings} {t : Tiered}

theorem promote_of_memory (memory : settings.effective.dir = none) (s : Scan) (files : FileTree) :
    promote settings.effective s files = ((Promoted.fresh settings).copyAll s.entries, files) := by
  have memory_again : settings.effective.effective.dir = none := by
    rw [Settings.effective_effective, memory]
  rw [promote, Promoted.create_of_memory memory_again, fresh_effective]

inductive Weighed (settings : Settings) (t : Tiered) (id : String) (vector : Embedding) :
    Except Halt Unit → Tiered → Prop
  | rejected (fault : Fault) (invalid : rejection id vector t.entries.width = some fault) :
      Weighed settings t id vector (.error (.fault (.backend "add" fault))) t
  | kept (s : Scan) (accepted : rejection id vector t.entries.width = none)
      (held : s.entries.Perm (t.entries.push id vector))
      (small : (t.entries.push id vector).length ≤ settings.effective.threshold) :
      Weighed settings t id vector (.ok ()) { t with active := .scan s }
  | moved (p : Promoted) (accepted : rejection id vector t.entries.width = none)
      (held : p.entries.Perm (t.entries.push id vector))
      (beyond : settings.effective.threshold < (t.entries.push id vector).length)
      (room : Engine.choose settings.preference .here = .graph →
        (t.entries.push id vector).length ≤ settings.effective.tuning.capacity) :
      Weighed settings t id vector (.ok ()) { t with active := .promoted p }
  | crowded (s : Scan) (key : String) (accepted : rejection id vector t.entries.width = none)
      (held : s.entries.Perm (t.entries.push id vector))
      (beyond : settings.effective.threshold < (t.entries.push id vector).length)
      (graph : Engine.choose settings.preference .here = .graph)
      (too_many : settings.effective.tuning.capacity < (t.entries.push id vector).length) :
      Weighed settings t id vector (.error (.fault (.copy key (.graph .full))))
        { t with active := .scan s }
  | troubled (s : Scan) (halt : Halt) (accepted : rejection id vector t.entries.width = none)
      (held : s.entries.Perm (t.entries.push id vector))
      (beyond : settings.effective.threshold < (t.entries.push id vector).length)
      (foreign : halt.Foreign) (unsupported : ¬ settings.Supported) :
      Weighed settings t id vector (.error halt)
        { t with active := .scan s, poisoned := crashed (.error halt : Except Halt Unit) }

theorem Sound.add_weighed (sound : t.Sound settings) (memory : settings.effective.dir = none)
    (scanning : t.mode = .exact) (free : t.barrier = none) (id : String) (vector : Embedding)
    (files : FileTree) :
    Weighed settings t id vector (t.add id vector files).answer (t.add id vector files).index := by
  obtain ⟨s, active⟩ := exists_scan scanning
  have unharmed := ((barrier_eq_none_iff t).mp free).1
  have together := sound.entries unharmed
  rw [add_scan active free together.ids_nodup]
  cases rejected : rejection id vector t.entries.width with
  | some fault => exact .rejected fault rejected
  | none =>
    have kept := together.put id vector rejected
    have held := Entries.put_perm_push t.entries id vector together.ids_nodup
    have threshold_eq : t.settings.threshold = settings.effective.threshold := by
      rw [sound.settings_eq]
    have promoting : promote t.settings ⟨t.entries.put id vector⟩ files =
        ((Promoted.fresh settings).copyAll (t.entries.put id vector), files) := by
      rw [sound.settings_eq]
      exact promote_of_memory memory _ files
    dsimp only
    rw [threshold_eq, promoting]
    by_cases small : (t.entries.push id vector).length ≤ settings.effective.threshold
    · rw [if_pos small]
      exact .kept _ rejected held small
    · have beyond := Nat.lt_of_not_le small
      rw [if_neg small]
      have copied := Promoted.copied_of_sound settings kept
      generalize (Promoted.fresh settings).copyAll (t.entries.put id vector) = result at copied
      cases copied with
      | whole p promoted sane same =>
        refine .moved p rejected (same.trans held) beyond fun graph => ?_
        calc
          (t.entries.push id vector).length = p.entries.length := (same.trans held).length_eq.symm
          _ ≤ settings.effective.tuning.capacity := promoted.length_le sane graph
      | crowded key graph too_many =>
        exact .crowded _ key rejected held beyond graph (held.length_eq ▸ too_many)
      | troubled key cause foreign unsupported =>
        dsimp only
        rw [conclude_eq, unharmed, Bool.false_or]
        exact .troubled _ _ rejected held beyond (foreign.within fun _ => rfl) unsupported

/-- One call, with the index it was made to and the files around it. -/
structure Moment where
  before : Tiered
  files : FileTree
  op : Operation

structure Moment.Outgrows (m : Moment) (threshold : Nat) : Prop where
  added : ∃ id vector, m.op = .add id vector ∧ (m.before.add id vector m.files).answer = .ok ()
  beyond : threshold < (m.before.after m.files m.op).entries.ids.toFinset.card

/-- The indexes that a new one becomes, each with all calls made to it, the last one first. -/
inductive Passed (settings : Settings) : Tiered → List Moment → Prop
  | created {t : Tiered} (files rest : FileTree) (made : create settings files = (.ok t, rest)) :
      Passed settings t []
  | stepped {t : Tiered} {past : List Moment} (passed : Passed settings t past) (files : FileTree)
      (op : Operation) : Passed settings (t.after files op) (⟨t, files, op⟩ :: past)
  | relisted {t : Tiered} {past : List Moment} (passed : Passed settings t past) (active : Active)
      (same : t.active.Relisted active) : Passed settings { t with active } past

theorem mode_eq_of_relisted {active : Active} (same : t.active.Relisted active) :
    mode { t with active } = t.mode := by
  rw [mode, mode]
  cases own : t.active <;> rw [own] at same <;> cases same <;> rfl

theorem mode_after_of_promoted (promoted : t.mode = .promoted) (files : FileTree) (op : Operation) :
    (t.after files op).mode = .promoted := by
  obtain ⟨p, active⟩ := exists_promoted promoted
  cases barrier : t.barrier with
  | some fault =>
    rw [after_of_barrier barrier]
    exact promoted
  | none =>
    cases op with
    | add id vector =>
      rw [after, add_promoted active barrier, conclude_eq]
      rfl
    | remove id =>
      rw [after, remove_promoted active barrier, conclude_eq]
      rfl
    | search query count =>
      rw [after, search_of_free barrier]
      exact promoted
    | save =>
      rw [after, save_index]
      exact promoted
    | close =>
      obtain ⟨unharmed, still_open⟩ := (barrier_eq_none_iff t).mp barrier
      rw [after, close, active, if_neg (by simp [unharmed]), if_neg (by simp [still_open])]
      simp only [Active.close]
      rcases p.close with ⟨fault | _, q⟩ <;> rfl

theorem calm_after (scanning : t.mode = .exact) (files : FileTree) {op : Operation}
    (other : ∀ id vector, op ≠ .add id vector) : Calm t (t.after files op) := by
  obtain ⟨s, active⟩ := exists_scan scanning
  have entries_eq := entries_of_scan active
  cases barrier : t.barrier with
  | some fault =>
    rw [after_of_barrier barrier]
    exact .refl scanning
  | none =>
    cases op with
    | add id vector => exact absurd rfl (other id vector)
    | remove id =>
      have fewer : (s.entries.erase id).length ≤ t.entries.length := by
        rw [entries_eq]
        exact List.length_filter_le _ _
      rw [after, remove, barrier, active]
      exact ⟨rfl, rfl, fewer⟩
    | search query count =>
      have unharmed : crashed (t.active.search query count) = false := by
        rw [Bool.eq_false_iff, Ne, crashed_eq_true_iff, active]
        exact s.search_ne_crash query count
      rw [after, search_of_free barrier, unharmed, Bool.or_false]
      exact .refl scanning
    | save =>
      rw [after, save_index]
      exact .refl scanning
    | close =>
      obtain ⟨unharmed, still_open⟩ := (barrier_eq_none_iff t).mp barrier
      rw [after, close, active, if_neg (by simp [unharmed]), if_neg (by simp [still_open])]
      exact ⟨rfl, rfl, Nat.le_of_eq (congrArg List.length entries_eq.symm)⟩

/-- What a run without a directory keeps to. -/
structure Tracked (settings : Settings) (t : Tiered) (past : List Moment) : Prop where
  sound : t.Sound settings
  stays : (∃ m ∈ past, m.before.mode = .promoted) → t.mode = .promoted
  promoted_iff : settings.Supported → Roomy settings →
    (t.mode = .promoted ↔ ∃ m ∈ past, m.Outgrows settings.effective.threshold)
  length_le : settings.Supported → Roomy settings → t.mode = .exact →
    t.entries.length ≤ settings.effective.threshold
  harmed_only : t.mode = .exact → t.poisoned = true → ¬ settings.Supported
  confined : ¬ Roomy settings → t.mode = .exact

variable {past : List Moment}

theorem Tracked.after_promoted (tracked : Tracked settings t past) (promoted : t.mode = .promoted)
    (files : FileTree) (op : Operation) :
    Tracked settings (t.after files op) (⟨t, files, op⟩ :: past) := by
  have still := mode_after_of_promoted promoted files op
  have not_exact : (t.after files op).mode ≠ .exact := by simp [still]
  refine ⟨tracked.sound.after files op, fun _ => still, ?_, ?_, ?_, ?_⟩
  · intro supported roomy
    obtain ⟨m, member, outgrows⟩ := (tracked.promoted_iff supported roomy).mp promoted
    exact ⟨fun _ => ⟨m, List.mem_cons_of_mem _ member, outgrows⟩, fun _ => still⟩
  · exact fun _ _ scanning => absurd scanning not_exact
  · exact fun scanning => absurd scanning not_exact
  · intro cramped
    have scanning := tracked.confined cramped
    rw [promoted] at scanning
    cases scanning

theorem outgrows_add_iff (t : Tiered) (files : FileTree) (id : String) (vector : Embedding)
    (threshold : Nat) :
    Moment.Outgrows ⟨t, files, .add id vector⟩ threshold ↔
      (t.add id vector files).answer = .ok () ∧
        threshold < (t.add id vector files).index.entries.ids.toFinset.card := by
  constructor
  · rintro ⟨⟨_, _, same, added⟩, beyond⟩
    cases same
    exact ⟨added, beyond⟩
  · rintro ⟨added, beyond⟩
    exact ⟨⟨id, vector, rfl, added⟩, beyond⟩

theorem Tracked.remain (tracked : Tracked settings t past) (scanning : t.mode = .exact)
    {next : Tiered} (sound : next.Sound settings) (still : next.mode = .exact) (files : FileTree)
    (op : Operation)
    (not_outgrown : settings.Supported → Roomy settings →
      ¬ Moment.Outgrows ⟨t, files, op⟩ settings.effective.threshold)
    (length_le : settings.Supported → Roomy settings →
      next.entries.length ≤ settings.effective.threshold)
    (harmed_only : next.poisoned = true → ¬ settings.Supported) :
    Tracked settings next (⟨t, files, op⟩ :: past) := by
  have not_promoted : ¬ t.mode = .promoted := by simp [scanning]
  refine ⟨sound, ?_, ?_, fun supported roomy _ => length_le supported roomy, fun _ => harmed_only,
    fun _ => still⟩
  · rintro ⟨m, member, promoted⟩
    rcases List.mem_cons.mp member with rfl | earlier
    · exact absurd promoted not_promoted
    · exact absurd (tracked.stays ⟨m, earlier, promoted⟩) not_promoted
  · intro supported roomy
    constructor
    · intro promoted
      rw [still] at promoted
      cases promoted
    · rintro ⟨m, member, outgrows⟩
      rcases List.mem_cons.mp member with rfl | earlier
      · exact absurd outgrows (not_outgrown supported roomy)
      · have promoted := (tracked.promoted_iff supported roomy).mpr ⟨m, earlier, outgrows⟩
        exact absurd promoted not_promoted

theorem Tracked.after_calm (tracked : Tracked settings t past) (scanning : t.mode = .exact)
    (files : FileTree) {op : Operation} (other : ∀ id vector, op ≠ .add id vector) :
    Tracked settings (t.after files op) (⟨t, files, op⟩ :: past) := by
  have calm := calm_after scanning files other
  apply tracked.remain scanning (tracked.sound.after files op) calm.mode_eq
  · rintro _ _ ⟨⟨id, vector, same, _⟩, _⟩
    exact other id vector same
  · intro supported roomy
    calc
      (t.after files op).entries.length ≤ t.entries.length := calm.length_le
      _ ≤ settings.effective.threshold := tracked.length_le supported roomy scanning
  · intro harmed
    exact tracked.harmed_only scanning (calm.poisoned_eq ▸ harmed)

/-- A roomy graph takes the entries of a scan with one more, which is what a promotion copies. -/
theorem Tracked.room (tracked : Tracked settings t past) (supported : settings.Supported)
    (roomy : Roomy settings) (scanning : t.mode = .exact)
    (graph : Engine.choose settings.preference .here = .graph) (id : String) (vector : Embedding) :
    (t.entries.push id vector).length ≤ settings.effective.tuning.capacity := by
  rcases roomy with scan | room
  · rw [graph] at scan
    cases scan
  · calc
      (t.entries.push id vector).length ≤ t.entries.length + 1 := Entries.length_push_le _ id vector
      _ ≤ settings.effective.threshold + 1 :=
        Nat.succ_le_succ (tracked.length_le supported (Or.inr room) scanning)
      _ ≤ settings.effective.tuning.capacity := room

theorem Tracked.after_add (tracked : Tracked settings t past) (memory : settings.effective.dir = none)
    (scanning : t.mode = .exact) (files : FileTree) (id : String) (vector : Embedding) :
    Tracked settings (t.add id vector files).index (⟨t, files, .add id vector⟩ :: past) := by
  have outgrows_iff := outgrows_add_iff t files id vector settings.effective.threshold
  have sound_after : (t.add id vector files).index.Sound settings :=
    tracked.sound.after files (.add id vector)
  cases barrier : t.barrier with
  | some fault =>
    rw [add_of_barrier barrier] at outgrows_iff ⊢
    apply tracked.remain scanning tracked.sound scanning
    · intro _ _ outgrown
      cases (outgrows_iff.mp outgrown).1
    · exact fun supported roomy => tracked.length_le supported roomy scanning
    · exact tracked.harmed_only scanning
  | none =>
    have unharmed := ((barrier_eq_none_iff t).mp barrier).1
    have together := tracked.sound.entries unharmed
    have calm (harmed : t.poisoned = true) : ¬ settings.Supported :=
      tracked.harmed_only scanning harmed
    have weighed := tracked.sound.add_weighed memory scanning barrier id vector files
    generalize t.add id vector files = step at outgrows_iff weighed sound_after ⊢
    rcases step with ⟨answer, next, rest⟩
    dsimp only at outgrows_iff weighed sound_after ⊢
    cases weighed with
    | rejected fault invalid =>
      apply tracked.remain scanning tracked.sound scanning _ _ _ _ calm
      · intro _ _ outgrown
        cases (outgrows_iff.mp outgrown).1
      · exact fun supported roomy => tracked.length_le supported roomy scanning
    | kept s accepted held small =>
      apply tracked.remain scanning sound_after rfl _ _ _ _ calm
      · intro _ _ outgrown
        have beyond := (outgrows_iff.mp outgrown).2
        rw [card_ids_of_held (.scan s) t.poisoned together held] at beyond
        omega
      · exact fun _ _ => held.length_eq.trans_le small
    | moved p accepted held beyond room =>
      have outgrown : Moment.Outgrows ⟨t, files, .add id vector⟩ settings.effective.threshold := by
        apply outgrows_iff.mpr
        rw [card_ids_of_held (.promoted p) t.poisoned together held]
        exact ⟨rfl, beyond⟩
      refine ⟨sound_after, fun _ => rfl, ?_, ?_, ?_, ?_⟩
      · exact fun _ _ => ⟨fun _ => ⟨_, List.mem_cons_self, outgrown⟩, fun _ => rfl⟩
      · intro _ _ still
        cases still
      · intro still
        cases still
      · intro cramped
        obtain ⟨graph, too_many⟩ := (not_roomy_iff settings).mp cramped
        have enough := room graph
        omega
    | crowded s key accepted held beyond graph too_many =>
      apply tracked.remain scanning sound_after rfl _ _ _ _ calm
      · intro _ _ outgrown
        cases (outgrows_iff.mp outgrown).1
      · intro supported roomy
        have room := tracked.room supported roomy scanning graph id vector
        exact absurd too_many (Nat.not_lt.mpr room)
    | troubled s halt accepted held beyond foreign unsupported =>
      apply tracked.remain scanning sound_after rfl _ _ _ _ fun _ => unsupported
      · exact fun supported => absurd supported unsupported
      · exact fun supported => absurd supported unsupported

theorem Tracked.relisted (tracked : Tracked settings t past) {active : Active}
    (same : t.active.Relisted active) : Tracked settings { t with active } past := by
  have mode_eq := mode_eq_of_relisted same
  have length_eq : (entries { t with active }).length = t.entries.length :=
    same.perm.length_eq.symm
  refine ⟨tracked.sound.relisted same, ?_, ?_, ?_, ?_, ?_⟩
  · exact fun earlier => mode_eq.trans (tracked.stays earlier)
  · rw [mode_eq]
    exact tracked.promoted_iff
  · rw [mode_eq, length_eq]
    exact tracked.length_le
  · rw [mode_eq]
    exact tracked.harmed_only
  · rw [mode_eq]
    exact tracked.confined

theorem Passed.tracked (passed : Passed settings t past) (memory : settings.effective.dir = none) :
    Tracked settings t past := by
  induction passed with
  | created files rest made =>
    have sound := create_sound made
    rcases create_cases made with ⟨rfl, _⟩ | ⟨path, _, _, dir, _⟩
    · refine ⟨sound, by simp, ?_, fun _ _ _ => Nat.zero_le _, ?_, fun _ => rfl⟩
      · intro _ _
        simp [mode]
      · intro _ harmed
        cases harmed
    · rw [memory] at dir
      cases dir
  | @stepped t past _ files op ih =>
    rcases exact_or_promoted t with scanning | promoted
    · by_cases addition : ∃ id vector, op = .add id vector
      · rcases addition with ⟨id, vector, rfl⟩
        exact ih.after_add memory scanning files id vector
      · exact ih.after_calm scanning files fun id vector same => addition ⟨id, vector, same⟩
    · exact ih.after_promoted promoted files op
  | relisted _ active same ih => exact ih.relisted same

/-- A promotion comes as soon as the threshold is passed. -/
structure Prompt (settings : Settings) (t : Tiered) (past : List Moment) : Prop where
  never_fails : ∀ files id vector,
    (∀ reason, (t.add id vector files).answer ≠ .error (.fault (.construction reason))) ∧
      ∀ key source, (t.add id vector files).answer ≠ .error (.fault (.copy key source))
  promoted_iff : t.mode = .promoted ↔ ∃ m ∈ past, m.Outgrows settings.effective.threshold
  size_le : t.mode = .exact → t.size ≤ settings.effective.threshold

/-- The index stays a scan, and additions beyond the threshold are stored but report that they could
not be copied. -/
structure Confined (settings : Settings) (t : Tiered) : Prop where
  mode_eq : t.mode = .exact
  copied : ∀ files id vector key source,
    (t.add id vector files).answer = .error (.fault (.copy key source)) →
      (∃ cause, (Fault.copy key source).root = .graph cause) ∧
        (settings.Supported → source = .graph .full) ∧
        (t.add id vector files).index.entries.lookup id = some vector
  copy_iff : settings.Supported → t.closed = false → ∀ files id vector,
    (∃ key source, (t.add id vector files).answer = .error (.fault (.copy key source))) ↔
      rejection id vector t.width = none ∧
        settings.effective.threshold < (t.add id vector files).index.entries.ids.toFinset.card

theorem Weighed.copy_iff {id : String} {vector : Embedding} {answer : Except Halt Unit}
    {next : Tiered} (weighed : Weighed settings t id vector answer next)
    (supported : settings.Supported) (cramped : ¬ Roomy settings) (together : t.entries.Sound) :
    (∃ key source, answer = .error (.fault (.copy key source))) ↔
      rejection id vector t.entries.width = none ∧
        settings.effective.threshold < next.entries.ids.toFinset.card := by
  obtain ⟨graph, too_many⟩ := (not_roomy_iff settings).mp cramped
  cases weighed with
  | rejected fault invalid => simp [invalid]
  | kept s accepted held small =>
    rw [card_ids_of_held (.scan s) t.poisoned together held]
    simp [small]
  | moved p accepted held beyond room =>
    have enough := room graph
    omega
  | crowded s key accepted held beyond graph too_many =>
    rw [card_ids_of_held (.scan s) t.poisoned together held]
    simp [accepted, beyond]
  | troubled s halt accepted held beyond foreign unsupported => exact absurd supported unsupported

theorem Weighed.copied {id key : String} {vector : Embedding} {source : Fault}
    {answer : Except Halt Unit} {next : Tiered} (weighed : Weighed settings t id vector answer next)
    (together : t.entries.Sound) (failed : answer = .error (.fault (.copy key source))) :
    (∃ cause, (Fault.copy key source).root = .graph cause) ∧
      (settings.Supported → source = .graph .full) ∧ next.entries.lookup id = some vector := by
  have stored {s : Scan} (held : s.entries.Perm (t.entries.push id vector)) :
      s.entries.lookup id = some vector := by
    have unique : s.entries.ids.Nodup := Entries.nodup_of_push together.ids_nodup held
    rw [Entries.lookup_perm held unique, Entries.lookup_push _ _ _ _ together.ids_nodup, if_pos rfl]
  cases weighed with
  | crowded s key accepted held beyond graph too_many =>
    cases failed
    exact ⟨⟨.full, rfl⟩, fun _ => rfl, stored held⟩
  | troubled s halt accepted held beyond foreign unsupported =>
    cases failed
    exact ⟨foreign _ rfl, fun supported => absurd supported unsupported, stored held⟩
  | rejected fault invalid => cases failed
  | kept s accepted held small => cases failed
  | moved p accepted held beyond room => cases failed

theorem Tracked.never_fails (tracked : Tracked settings t past)
    (memory : settings.effective.dir = none) (supported : settings.Supported)
    (roomy : Roomy settings) (files : FileTree) (id : String) (vector : Embedding) {cause : Fault}
    (failed : (t.add id vector files).answer = .error (.fault cause)) :
    cause = .lockPoisoned resource ∨ cause = .closed ∨ ∃ source, cause = .backend "add" source := by
  cases barrier : t.barrier with
  | some fault =>
    rw [add_of_barrier barrier] at failed
    cases failed
    rcases barrier_cases barrier with poisoned | closed
    · exact Or.inl poisoned
    · exact Or.inr (Or.inl closed)
  | none =>
    right
    right
    cases scanning : t.mode with
    | promoted =>
      obtain ⟨p, active⟩ := exists_promoted scanning
      rw [add_promoted active barrier, conclude_eq] at failed
      exact within_eq_fault failed
    | exact =>
      have weighed := tracked.sound.add_weighed memory scanning barrier id vector files
      rw [failed] at weighed
      generalize (t.add id vector files).index = next at weighed
      cases weighed with
      | rejected fault invalid => exact ⟨fault, rfl⟩
      | crowded s key accepted held beyond graph too_many =>
        have room := tracked.room supported roomy scanning graph id vector
        exact absurd too_many (Nat.not_lt.mpr room)
      | troubled s halt accepted held beyond foreign unsupported =>
        exact absurd supported unsupported

theorem Tracked.sane (tracked : Tracked settings t past) (supported : settings.Supported)
    (scanning : t.mode = .exact) : t.poisoned = false := by
  cases harmed : t.poisoned with
  | false => rfl
  | true => exact absurd supported (tracked.harmed_only scanning harmed)

theorem Tracked.prompt (tracked : Tracked settings t past) (memory : settings.effective.dir = none)
    (supported : settings.Supported) (roomy : Roomy settings) : Prompt settings t past := by
  refine ⟨?_, tracked.promoted_iff supported roomy, ?_⟩
  · intro files id vector
    constructor
    · intro reason failed
      have never := tracked.never_fails memory supported roomy files id vector failed
      rcases never with same | same | ⟨_, same⟩ <;> cases same
    · intro key source failed
      have never := tracked.never_fails memory supported roomy files id vector failed
      rcases never with same | same | ⟨_, same⟩ <;> cases same
  · intro scanning
    have small := tracked.length_le supported roomy scanning
    have unharmed := tracked.sane supported scanning
    rw [size]
    split
    · exact Nat.zero_le _
    · rwa [tracked.sound.active.size_eq (tracked.sound.active_sane unharmed)]

theorem Tracked.confined_adds (tracked : Tracked settings t past)
    (memory : settings.effective.dir = none) (cramped : ¬ Roomy settings) : Confined settings t := by
  have scanning := tracked.confined cramped
  have width_eq : t.width = t.entries.width := by
    obtain ⟨s, active⟩ := exists_scan scanning
    rw [width, entries, active]
    rfl
  refine ⟨scanning, ?_, ?_⟩
  · intro files id vector key source failed
    cases barrier : t.barrier with
    | some fault =>
      rw [add_of_barrier barrier] at failed
      cases failed
      rcases barrier_cases barrier with same | same <;> cases same
    | none =>
      have together := tracked.sound.entries ((barrier_eq_none_iff t).mp barrier).1
      exact (tracked.sound.add_weighed memory scanning barrier id vector files).copied together failed
  · intro supported still_open files id vector
    have unharmed := tracked.sane supported scanning
    have free : t.barrier = none := (barrier_eq_none_iff t).mpr ⟨unharmed, still_open⟩
    have weighed := tracked.sound.add_weighed memory scanning free id vector files
    rw [width_eq]
    exact weighed.copy_iff supported cramped (tracked.sound.entries unharmed)

/-- Without a directory a promoted index stays promoted, whatever the library. Where the engine has
room for one entry more than the threshold, the index is promoted once an addition has left more ids
than that; where it has not, the index stays a scan and answers such additions with the fault of a
copy, the vector being stored all the same. -/
theorem Passed.promotion (passed : Passed settings t past) (memory : settings.effective.dir = none) :
    ((∃ m ∈ past, m.before.mode = .promoted) → t.mode = .promoted) ∧
      (settings.Supported →
        Engine.choose settings.preference .here = .scan ∨
          settings.effective.threshold < settings.effective.tuning.capacity →
        Prompt settings t past) ∧
      (Engine.choose settings.preference .here = .graph ∧
          settings.effective.tuning.capacity ≤ settings.effective.threshold →
        Confined settings t) := by
  have tracked := passed.tracked memory
  refine ⟨tracked.stays, tracked.prompt memory, ?_⟩
  intro cramped
  exact tracked.confined_adds memory ((not_roomy_iff settings).mpr cramped)

end

def outgrown : Tiered :=
  let start : Tiered := ⟨Settings.effective ⟨1, none, .graph, .unset⟩, .scan .empty, false, false⟩
  let grown := (start.after ⟨[], []⟩ (.add "a" [⟨0x3f800000⟩])).after ⟨[], []⟩ (.add "b" [⟨0x40000000⟩])
  grown.after ⟨[], []⟩ (.remove "b")

def straitened : Settings := ⟨1, none, .graph, ⟨0, 0, ⟨0⟩, 0, 1⟩⟩

theorem promotion_outgrown :
    outgrown.mode = .promoted ∧ outgrown.size = 1 ∧
      (∃ past : List Moment, past.length = 3 ∧ Prompt ⟨1, none, .graph, .unset⟩ outgrown past) ∧
      Confined straitened (((⟨straitened.effective, .scan .empty, false, false⟩ : Tiered).after
        ⟨[], []⟩ (.add "a" [⟨0x3f800000⟩])).after ⟨[], []⟩ (.add "b" [⟨0x40000000⟩])) := by
  have start : Passed ⟨1, none, .graph, .unset⟩ _ _ := .created ⟨[], []⟩ _ (by rfl)
  have passed := ((start.stepped ⟨[], []⟩ (.add "a" [⟨0x3f800000⟩])).stepped ⟨[], []⟩
    (.add "b" [⟨0x40000000⟩])).stepped ⟨[], []⟩ (.remove "b")
  have supported : Settings.Supported ⟨1, none, .graph, .unset⟩ := fun _ =>
    Tuning.supported_of_held (by decide) (by decide)
  have stuck : Passed straitened _ _ := ((Passed.created ⟨[], []⟩ _ (by rfl)).stepped ⟨[], []⟩
    (.add "a" [⟨0x3f800000⟩])).stepped ⟨[], []⟩ (.add "b" [⟨0x40000000⟩])
  exact ⟨by rfl, by rfl, ⟨_, by rfl, (Passed.promotion passed (by rfl)).2.1 supported (by decide)⟩,
    (Passed.promotion stuck (by rfl)).2.2 (by decide)⟩

def sprawling : Settings := ⟨1, none, .graph, ⟨1152921504606846976, 0, ⟨0⟩, 0, 0⟩⟩

/-- A promotion that crashes leaves a scan with more entries than the threshold. -/
theorem size_of_crashed_promotion :
    ¬ ∀ (settings : Settings) (t : Tiered) (past : List Moment), Passed settings t past →
      settings.effective.dir = none →
      (Engine.choose settings.preference .here = .scan ∨
        settings.effective.threshold < settings.effective.tuning.capacity) →
      t.mode = .exact → t.size ≤ settings.effective.threshold := by
  intro bounded
  have start : Passed sprawling _ _ := .created ⟨[], []⟩ _ (by rfl)
  have passed := (start.stepped ⟨[], []⟩ (.add "a" [⟨0x3f800000⟩])).stepped ⟨[], []⟩
    (.add "b" [⟨0x40000000⟩])
  have small := bounded sprawling _ _ passed (by rfl) (by decide) (by rfl)
  exact absurd small (by decide)

end Tiered

end EmbeddingIndex
