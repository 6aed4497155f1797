import EmbeddingIndex.Proofs.Tiered.Promotion
/-!
What an addition that fails tells. A fault of validation is about the vector that was passed, and
then nothing has happened. A promotion that fails has stored the vector, and never for want of a
vector that fits.
-/

namespace EmbeddingIndex

namespace Tiered

/-- The index still scans, with the new vector in it and more ids than the threshold. -/
structure Stayed (settings : Settings) (t : Tiered) (id : String) (vector : Embedding)
    (next : Tiered) : Prop where
  mode_before : t.mode = .exact
  mode_after : next.mode = .exact
  beyond : settings.effective.threshold < next.entries.ids.toFinset.card
  lookup_eq : ∀ key, next.entries.lookup key = if id = key then some vector else t.entries.lookup key

theorem Stayed.of_put {settings : Settings} {t : Tiered} (together : t.entries.Sound)
    (scanning : t.mode = .exact) (id : String) (vector : Embedding) (harmed : Bool)
    (beyond : settings.effective.threshold < (t.entries.push id vector).length) :
    Stayed settings t id vector
      { t with active := .scan ⟨t.entries.put id vector⟩, poisoned := harmed } := by
  have held := Entries.put_perm_push t.entries id vector together.ids_nodup
  refine ⟨scanning, rfl, ?_, fun key => Entries.lookup_put t.entries id key vector⟩
  rw [card_ids_of_held (.scan ⟨t.entries.put id vector⟩) harmed together held]
  exact beyond

section

variable [Runtime]

/-- How the addition of a vector that fits fails. The last two ways are those of a library that does
not support the graph. -/
inductive Failed (settings : Settings) (t : Tiered) (id : String) (vector : Embedding)
    (files : FileTree) : Step (Except Halt Unit) → Prop
  | full (engine_eq : t.engine = some .graph)
      (size_eq : t.size = settings.effective.tuning.capacity) :
      Failed settings t id vector files ⟨.error (.fault (.backend "add" (.graph .full))), t, files⟩
  | construction (reason : String) (next : Tiered) (rest : FileTree) (unharmed : next.poisoned = false)
      (stayed : Stayed settings t id vector next) :
      Failed settings t id vector files ⟨.error (.fault (.construction reason)), next, rest⟩
  | copy (key : String) (next : Tiered) (rest : FileTree) (unharmed : next.poisoned = false)
      (stayed : Stayed settings t id vector next) :
      Failed settings t id vector files ⟨.error (.fault (.copy key (.graph .full))), next, rest⟩
  | troubledCopy (key : String) (cause : Halt) (next : Tiered) (rest : FileTree)
      (foreign : cause.Foreign) (unsupported : ¬ settings.Supported)
      (stayed : Stayed settings t id vector next) :
      Failed settings t id vector files ⟨.error (cause.within (.copy key)), next, rest⟩
  | troubled (cause : Halt) (next : Tiered) (foreign : cause.Foreign)
      (unsupported : ¬ settings.Supported) (engine_eq : t.engine = some .graph) :
      Failed settings t id vector files ⟨.error (cause.within (.backend "add")), next, files⟩

variable {settings : Settings} {t : Tiered}

theorem Sound.add_scan_failed (sound : t.Sound settings) {s : Scan} (scanning : t.active = .scan s)
    (free : t.barrier = none) {id : String} {vector : Embedding}
    (accepted : rejection id vector t.entries.width = none) (files : FileTree) {halt : Halt}
    (failed : (t.add id vector files).answer = .error halt) :
    Failed settings t id vector files (t.add id vector files) := by
  have unharmed := ((barrier_eq_none_iff t).mp free).1
  have together := sound.entries unharmed
  have mode_eq := mode_of_scan scanning
  rw [add_scan scanning free together.ids_nodup, accepted] at failed ⊢
  dsimp only at failed ⊢
  by_cases small : (t.entries.push id vector).length ≤ t.settings.threshold
  · rw [if_pos small] at failed
    cases failed
  · rw [if_neg small] at failed ⊢
    have beyond : settings.effective.threshold < (t.entries.push id vector).length := by
      rw [← sound.settings_eq]
      exact Nat.lt_of_not_le small
    have stayed (harmed : Bool) := Stayed.of_put together mode_eq id vector harmed beyond
    have calm : ({ t with active := .scan ⟨t.entries.put id vector⟩, poisoned := false } : Tiered) =
        { t with active := .scan ⟨t.entries.put id vector⟩ } := by rw [← unharmed]
    have kept := together.put id vector accepted
    have cases := promote_cases settings ⟨t.entries.put id vector⟩ files kept
    rw [← sound.settings_eq] at cases
    generalize promote t.settings ⟨t.entries.put id vector⟩ files = result at cases failed ⊢
    rcases result with ⟨outcome, rest⟩
    dsimp only at cases
    rcases cases with ⟨reason, rfl⟩ | copied
    · exact .construction reason _ rest unharmed (calm ▸ stayed false)
    · cases copied with
      | whole p promoted sane same => cases failed
      | crowded key graph full => exact .copy key _ rest unharmed (calm ▸ stayed false)
      | troubled key cause foreign unsupported =>
        dsimp only
        rw [conclude_eq]
        exact .troubledCopy key cause _ rest foreign unsupported (stayed _)

theorem Sound.add_promoted_failed (sound : t.Sound settings) {p : Promoted}
    (promoted : t.active = .promoted p) (free : t.barrier = none) {id : String} {vector : Embedding}
    (accepted : rejection id vector t.entries.width = none) (files : FileTree) {halt : Halt}
    (failed : (t.add id vector files).answer = .error halt) :
    Failed settings t id vector files (t.add id vector files) := by
  obtain ⟨unharmed, still_open⟩ := (barrier_eq_none_iff t).mp free
  rcases sound.promoted promoted with ⟨whole, sane⟩
  have entries_eq := entries_of_promoted promoted
  have engine_eq (graph : Engine.choose settings.preference .here = .graph) :
      t.engine = some .graph := by
    rw [engine, promoted]
    exact congrArg some (whole.engine_eq.trans graph)
  rcases Promoted.refusal_of_accepted settings accepted with ⟨taken, _⟩ | ⟨refused, graph, full⟩
  · rw [entries_eq] at accepted taken
    have lands := whole.add_lands (sane unharmed) id vector accepted
    have ok (supported : settings.Supported) := whole.add_ok (sane unharmed) supported taken
    rw [add_promoted promoted free, conclude_eq] at failed ⊢
    rcases added : p.add id vector with ⟨cause | _, q⟩
    · rw [added] at lands ok
      have unsupported : ¬ settings.Supported := fun supported => by cases ok supported
      exact .troubled cause _ (lands.foreign cause rfl) unsupported
        (engine_eq (Settings.graph_of_unsupported unsupported))
    · rw [added] at failed
      cases failed
  · rw [sound.add_promoted_of_refusal promoted free refused]
    exact .full (engine_eq graph) ((sound.size_eq still_open unharmed).trans full)

theorem Sound.unfit_iff (sound : t.Sound settings) (still_open : t.closed = false)
    (unharmed : t.poisoned = false) (id : String) (vector : Embedding) :
    rejection id vector t.entries.width ≠ none ↔
      vector = [] ∨ (∃ x ∈ vector, x.isFinite = false) ∨
        t.size ≠ 0 ∧ t.width ≠ some vector.length := by
  have finite_iff : vector.isFinite = true ↔ ¬ ∃ x ∈ vector, x.isFinite = false := by
    simp [Embedding.isFinite]
  have fits_iff : (∀ width, t.entries.width = some width → width = vector.length) ↔
      ¬ (t.size ≠ 0 ∧ t.width ≠ some vector.length) := by
    rw [sound.size_eq still_open unharmed, sound.width_eq unharmed]
    cases t.entries with
    | nil => simp [Entries.width]
    | cons head tail => simp [Entries.width]
  rw [Ne, rejection_eq_none_iff, finite_iff, fits_iff, not_and_or, not_and_or, not_ne_iff, not_not,
    not_not]

/-- An addition gets a fault of validation exactly if its own vector does not fit, named by the first
check that it fails, and then nothing has changed. Any other failure is a full graph, in which
nothing has changed either, or a promotion that came to nothing, after which the index scans on with
the new vector in it. A library that does not support the graph adds troubles of its own, never a
fault of validation. -/
theorem Reachable.add_failed (reachable : Reachable settings t) (still_open : t.closed = false)
    (unharmed : t.poisoned = false) (id : String) (vector : Embedding) (files : FileTree) :
    ((∃ fault, (t.add id vector files).answer = .error (.fault fault) ∧ fault.isValidation = true) ↔
        vector = [] ∨ (∃ x ∈ vector, x.isFinite = false) ∨
          t.size ≠ 0 ∧ t.width ≠ some vector.length) ∧
      (∀ fault, (t.add id vector files).answer = .error (.fault fault) → fault.isValidation = true →
        ∃ cause, Unfit id vector t.width cause ∧
          t.add id vector files = ⟨.error (.fault (.backend "add" cause)), t, files⟩) ∧
      ∀ halt, (t.add id vector files).answer = .error halt →
        (∀ fault, halt = .fault fault → fault.isValidation = false) →
        Failed settings t id vector files (t.add id vector files) := by
  have sound := reachable.sound
  have free : t.barrier = none := (barrier_eq_none_iff t).mpr ⟨unharmed, still_open⟩
  rw [← sound.unfit_iff still_open unharmed id vector, sound.width_eq unharmed]
  cases rejected : rejection id vector t.entries.width with
  | some cause =>
    have unfit := unfit_of_rejection rejected
    have invalid : (Fault.backend "add" cause).isValidation = true := by cases unfit <;> rfl
    rw [sound.add_of_rejected free rejected files]
    refine ⟨⟨fun _ => by simp, fun _ => ⟨_, rfl, invalid⟩⟩, fun _ _ _ => ⟨cause, unfit, rfl⟩, ?_⟩
    intro halt answer valid
    cases answer
    rw [valid _ rfl] at invalid
    cases invalid
  | none =>
    have failed (halt : Halt) (answer : (t.add id vector files).answer = .error halt) :
        Failed settings t id vector files (t.add id vector files) := by
      cases active : t.active with
      | scan s => exact sound.add_scan_failed active free rejected files answer
      | promoted p => exact sound.add_promoted_failed active free rejected files answer
    have valid (fault : Fault) (answer : (t.add id vector files).answer = .error (.fault fault)) :
        fault.isValidation = false := by
      have shape := failed _ answer
      generalize t.add id vector files = step at shape answer
      cases shape with
      | full engine_eq size_eq => cases answer; rfl
      | construction reason next rest unharmed stayed => cases answer; rfl
      | copy key next rest unharmed stayed => cases answer; rfl
      | troubledCopy key cause next rest foreign unsupported stayed =>
        have outer : (cause.within (.copy key)).Foreign := foreign.within fun _ => rfl
        rw [Except.error.inj answer] at outer
        exact outer.isValidation_eq
      | troubled cause next foreign unsupported engine_eq =>
        have outer : (cause.within (.backend "add")).Foreign := foreign.within fun _ => rfl
        rw [Except.error.inj answer] at outer
        exact outer.isValidation_eq
    refine ⟨⟨?_, fun absurdity => absurd rfl absurdity⟩, ?_, fun halt answer _ => failed halt answer⟩
    · rintro ⟨fault, answer, invalid⟩
      rw [valid fault answer] at invalid
      cases invalid
    · intro fault answer invalid
      rw [valid fault answer] at invalid
      cases invalid

end

def brimful : Tiered :=
  let start : Tiered :=
    ⟨Settings.effective ⟨1, none, .graph, ⟨0, 0, ⟨0⟩, 0, 2⟩⟩, .scan .empty, false, false⟩
  (start.after ⟨[], []⟩ (.add "a" [⟨0x3f800000⟩])).after ⟨[], []⟩ (.add "b" [⟨0x40000000⟩])

theorem add_failed_brimful :
    (brimful.add "c" [⟨0x40400000⟩] ⟨[], []⟩).answer =
        .error (.fault (.backend "add" (.graph .full))) ∧
      ((∃ fault, (brimful.add "c" [⟨0x40400000⟩] ⟨[], []⟩).answer = .error (.fault fault) ∧
            fault.isValidation = true) ↔
          [(⟨0x40400000⟩ : Binary32)] = [] ∨
            (∃ x ∈ [(⟨0x40400000⟩ : Binary32)], x.isFinite = false) ∨
            brimful.size ≠ 0 ∧ brimful.width ≠ some 1) ∧
        (∀ fault, (brimful.add "c" [⟨0x40400000⟩] ⟨[], []⟩).answer = .error (.fault fault) →
          fault.isValidation = true →
          ∃ cause, Unfit "c" [⟨0x40400000⟩] brimful.width cause ∧
            brimful.add "c" [⟨0x40400000⟩] ⟨[], []⟩ =
              ⟨.error (.fault (.backend "add" cause)), brimful, ⟨[], []⟩⟩) ∧
        ∀ halt, (brimful.add "c" [⟨0x40400000⟩] ⟨[], []⟩).answer = .error halt →
          (∀ fault, halt = .fault fault → fault.isValidation = false) →
          Failed ⟨1, none, .graph, ⟨0, 0, ⟨0⟩, 0, 2⟩⟩ brimful "c" [⟨0x40400000⟩] ⟨[], []⟩
            (brimful.add "c" [⟨0x40400000⟩] ⟨[], []⟩) := by
  have start : Reachable ⟨1, none, .graph, ⟨0, 0, ⟨0⟩, 0, 2⟩⟩ _ := .created ⟨[], []⟩ _ (by rfl)
  have reachable := (start.stepped ⟨[], []⟩ (.add "a" [⟨0x3f800000⟩])).stepped ⟨[], []⟩
    (.add "b" [⟨0x40000000⟩])
  exact ⟨by rfl, Reachable.add_failed reachable (by rfl) (by rfl) _ _ _⟩

/-- A promotion into a graph that no memory holds fails without a fault. -/
theorem add_crash_of_sprawling :
    ¬ ∀ (settings : Settings) (t : Tiered), Reachable settings t → t.closed = false →
      t.poisoned = false → ∀ id vector files halt, (t.add id vector files).answer = .error halt →
        (∀ fault, halt = .fault fault → fault.isValidation = false) →
        halt = .fault (.backend "add" (.graph .full)) ∨
          (∃ reason, halt = .fault (.construction reason)) ∨
          ∃ key source, halt = .fault (.copy key source) := by
  intro told
  have start : Reachable sprawling _ := .created ⟨[], []⟩ _ (by rfl)
  have reachable := start.stepped ⟨[], []⟩ (.add "a" [⟨0x3f800000⟩])
  have cause := told sprawling _ reachable (by rfl) (by rfl) "b" [⟨0x40000000⟩] ⟨[], []⟩ .crash
    (by rfl) (fun fault same => by cases same)
  simp at cause

end Tiered

end EmbeddingIndex
