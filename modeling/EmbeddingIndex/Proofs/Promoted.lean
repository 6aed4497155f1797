import EmbeddingIndex.Proofs.Backend
import EmbeddingIndex.Proofs.Settings
import EmbeddingIndex.Proofs.Snapshot.Store
/-!
The promoted index follows its backend until a change crashes. Copying entries into a fresh one
fails for want of room and for no other reason, unless the library does not support the graph.
-/

namespace EmbeddingIndex

def crashed {α : Type} : Except Halt α → Bool
  | .error .crash => true
  | _ => false

theorem crashed_eq_true_iff {α : Type} (answer : Except Halt α) :
    crashed answer = true ↔ answer = .error .crash := by
  rcases answer with ⟨_ | _⟩ | _ <;> simp [crashed]

theorem Settings.graph_of_unsupported [Runtime] {s : Settings} (unsupported : ¬ s.Supported) :
    Engine.choose s.preference .here = .graph := by
  by_contra other
  exact unsupported fun graph => absurd graph other

namespace Promoted

def refusal (settings : Settings) : Entries → String → Embedding → Option Fault :=
  Backend.refusal (Engine.choose settings.preference .here) settings.effective.tuning

theorem refusal_of_rejected (settings : Settings) {entries : Entries} {id : String}
    {vector : Embedding} {fault : Fault}
    (rejected : rejection id vector entries.width = some fault) :
    refusal settings entries id vector = some fault := by
  rw [refusal]
  cases Engine.choose settings.preference .here with
  | scan => exact rejected
  | graph => simp only [Backend.refusal, Graph.refusal, rejected]

theorem refusal_of_accepted (settings : Settings) {entries : Entries} {id : String}
    {vector : Embedding} (accepted : rejection id vector entries.width = none) :
    refusal settings entries id vector = none ∧
        ¬ (Engine.choose settings.preference .here = .graph ∧
          entries.length = settings.effective.tuning.capacity) ∨
      refusal settings entries id vector = some (.graph .full) ∧
        Engine.choose settings.preference .here = .graph ∧
        entries.length = settings.effective.tuning.capacity := by
  rw [refusal]
  cases Engine.choose settings.preference .here with
  | scan => simp [Backend.refusal, accepted]
  | graph =>
    by_cases full : entries.length = settings.effective.tuning.capacity
    · simp [Backend.refusal, Graph.refusal, accepted, full]
    · simp [Backend.refusal, Graph.refusal, accepted, full]

theorem accepted_of_taken {settings : Settings} {entries : Entries} {id : String}
    {vector : Embedding} (taken : refusal settings entries id vector = none) :
    rejection id vector entries.width = none := by
  cases rejected : rejection id vector entries.width with
  | none => rfl
  | some fault =>
    rw [refusal_of_rejected settings rejected] at taken
    cases taken

section

variable {settings : Settings} {p : Promoted}

theorem saveUnder_of_poisoned (harmed : p.poisoned = true) {path : String} (dir : p.dir = some path)
    (refusals : SnapshotFile.Refusals) (files : FileTree) :
    p.saveUnder refusals files = (.error (.lockPoisoned resource), files) := by
  have listed : p.listing = .error (.lockPoisoned resource) := by
    simp only [Promoted.listing, barrier, harmed, if_true]
  rw [saveUnder, dir]
  simp only [listed]

theorem files_of_failed_save {refusals : SnapshotFile.Refusals} {files after : FileTree}
    {fault : Fault} (failed : p.saveUnder refusals files = (.error fault, after)) : after = files := by
  rw [saveUnder] at failed
  cases dir : p.dir with
  | none =>
    rw [dir] at failed
    cases failed
  | some path =>
    rw [dir] at failed
    cases listed : p.listing with
    | error cause =>
      rw [listed] at failed
      cases failed
      rfl
    | ok entries =>
      rw [listed] at failed
      exact SnapshotFile.files_of_failed_write failed

theorem close_of_sane (sane : p.poisoned = false) :
    p.close = .done { p with backend := p.backend.clear } := by
  simp only [Promoted.close, barrier, sane, Bool.false_eq_true, if_false]

theorem change_of_sane (f : Backend → Attempt Halt Backend) (sane : p.poisoned = false) :
    p.change f = ((f p.backend).1,
      { p with backend := (f p.backend).2, poisoned := crashed (f p.backend).1 }) := by
  have free : p.barrier = none := by simp [barrier, sane]
  rw [change, free]
  rcases f p.backend with ⟨⟨_ | _⟩ | _, backend⟩
  · simp only [crashed, ← sane]
  · rfl
  · simp only [crashed, ← sane]

theorem change_of_poisoned (f : Backend → Attempt Halt Backend) (harmed : p.poisoned = true) :
    p.change f = .failed (.fault (.lockPoisoned resource)) p := by
  have barred : p.barrier = some (.lockPoisoned resource) := by simp [barrier, harmed]
  rw [change, barred]

def fresh (settings : Settings) : Promoted :=
  ⟨.empty settings.effective.tuning (Engine.choose settings.preference .here), settings.effective.dir,
    settings.effective.tuning, false⟩

theorem entries_fresh (settings : Settings) : (fresh settings).entries = [] :=
  Backend.entries_empty _ _

theorem create_cases (settings : Settings) (files : FileTree) :
    (create settings files).1 = .ok (fresh settings) ∨
      ∃ reason, (create settings files).1 = .error (.construction reason) := by
  rw [create]
  cases dir : settings.effective.dir with
  | none =>
    left
    simp only [fresh, dir]
    rfl
  | some path =>
    simp only [prepare]
    rcases files.makeDirectories path with ⟨fault | _, made⟩
    · exact Or.inr ⟨_, rfl⟩
    · by_cases there : made.isDirectory path = true
      · left
        simp only [if_pos there, fresh, dir]
        rfl
      · right
        simp only [if_neg there]
        exact ⟨_, rfl⟩

end

variable [Runtime]

/-- The index that settings ask for. A change that crashed may have left its backend in any state. -/
structure Sound (settings : Settings) (p : Promoted) : Prop where
  dir_eq : p.dir = settings.effective.dir
  tuning_eq : p.tuning = settings.effective.tuning
  engine_eq : p.engine = Engine.choose settings.preference .here
  backend : p.poisoned = false → p.backend.Sound settings.effective.tuning
  poisoned_only : p.poisoned = true → ¬ settings.Supported

/-- What an attempt leaves: a sound index, which holds the entries aimed at if it succeeds and is
poisoned if it crashes. -/
structure Lands (attempt : Attempt Halt Promoted) (settings : Settings) (aim : Entries) : Prop where
  sound : attempt.2.Sound settings
  poisoned_eq : attempt.2.poisoned = crashed attempt.1
  entries_perm : attempt.1 = .ok () → attempt.2.entries.Perm aim
  foreign : ∀ halt, attempt.1 = .error halt → halt.Foreign

variable {settings : Settings} {p : Promoted}

theorem Sound.size_eq (sound : p.Sound settings) (sane : p.poisoned = false) :
    p.size = p.entries.length := by
  rw [size, if_neg (by simp [sane])]
  exact (sound.backend sane).size_eq

theorem Sound.width_eq (sound : p.Sound settings) (sane : p.poisoned = false) :
    p.width = p.entries.width := by
  rw [width, if_neg (by simp [sane])]
  exact (sound.backend sane).width_eq

theorem Sound.length_le (sound : p.Sound settings) (sane : p.poisoned = false)
    (graph : Engine.choose settings.preference .here = .graph) :
    p.entries.length ≤ settings.effective.tuning.capacity :=
  (sound.backend sane).length_le (sound.engine_eq.trans graph)

theorem Sound.sane (sound : p.Sound settings) (supported : settings.Supported) :
    p.poisoned = false := by
  cases harmed : p.poisoned with
  | false => rfl
  | true => exact absurd supported (sound.poisoned_only harmed)

theorem Sound.relisted (sound : p.Sound settings) {backend : Backend}
    (same : p.backend.Relisted backend) : Sound settings { p with backend } :=
  ⟨sound.dir_eq, sound.tuning_eq, same.engine_eq.trans sound.engine_eq,
    fun sane => same.sound (sound.backend sane), sound.poisoned_only⟩

theorem Sound.change_lands (sound : p.Sound settings) (sane : p.poisoned = false)
    {f : Backend → Attempt Halt Backend} {aim : Entries}
    (lands : Backend.Lands (f p.backend) p.engine settings.effective.tuning aim)
    (crash_only : (f p.backend).1 = .error .crash → ¬ settings.Supported) :
    Lands (p.change f) settings aim := by
  rw [change_of_sane f sane]
  refine ⟨⟨sound.dir_eq, sound.tuning_eq, lands.engine_eq.trans sound.engine_eq, ?_, ?_⟩, rfl,
    lands.entries_perm, lands.foreign⟩
  · intro calm
    apply lands.sound
    rw [Ne, ← crashed_eq_true_iff, show crashed (f p.backend).1 = false from calm]
    exact Bool.false_ne_true
  · exact fun poisoned => crash_only ((crashed_eq_true_iff _).mp poisoned)

theorem Sound.supported (sound : p.Sound settings) (supported : settings.Supported) :
    p.backend.engine = .graph → settings.effective.tuning.Supported :=
  fun graph => supported (sound.engine_eq.symm.trans graph)

theorem Sound.backend_refusal (sound : p.Sound settings) (id : String) (vector : Embedding) :
    Backend.refusal p.backend.engine settings.effective.tuning p.backend.entries id vector =
      refusal settings p.entries id vector := by
  rw [show p.backend.engine = _ from sound.engine_eq]
  rfl

theorem Sound.add_of_refusal (sound : p.Sound settings) (sane : p.poisoned = false) {id : String}
    {vector : Embedding} {fault : Fault}
    (refused : refusal settings p.entries id vector = some fault) :
    p.add id vector = .failed (.fault fault) p := by
  have kept : p.backend.add id vector = .failed (.fault fault) p.backend :=
    (sound.backend sane).add_of_refusal ((sound.backend_refusal id vector).trans refused)
  rw [Promoted.add, change_of_sane _ sane, kept]
  simp only [Attempt.failed, crashed, ← sane]

theorem Sound.add_ok (sound : p.Sound settings) (sane : p.poisoned = false)
    (supported : settings.Supported) {id : String} {vector : Embedding}
    (taken : refusal settings p.entries id vector = none) : (p.add id vector).1 = .ok () := by
  rw [Promoted.add, change_of_sane _ sane]
  exact (sound.backend sane).add_ok (sound.supported supported) id vector
    ((sound.backend_refusal id vector).trans taken)

theorem Sound.add_lands (sound : p.Sound settings) (sane : p.poisoned = false) (id : String)
    (vector : Embedding) (accepted : rejection id vector p.entries.width = none) :
    Lands (p.add id vector) settings (p.entries.push id vector) := by
  apply sound.change_lands sane ((sound.backend sane).add_lands id vector accepted)
  intro crash supported
  cases taken : refusal settings p.entries id vector with
  | some fault =>
    have refused := (sound.backend sane).add_of_refusal
      ((sound.backend_refusal id vector).trans taken)
    rw [refused] at crash
    cases crash
  | none =>
    have stored := (sound.backend sane).add_ok (sound.supported supported) id vector
      ((sound.backend_refusal id vector).trans taken)
    rw [stored] at crash
    cases crash

theorem Sound.remove_ok (sound : p.Sound settings) (sane : p.poisoned = false)
    (supported : settings.Supported) (id : String) : (p.remove id).1 = .ok () := by
  rw [Promoted.remove, change_of_sane _ sane]
  exact (sound.backend sane).remove_ok (sound.supported supported) id

theorem Sound.remove_lands (sound : p.Sound settings) (sane : p.poisoned = false) (id : String) :
    Lands (p.remove id) settings (p.entries.erase id) := by
  apply sound.change_lands sane ((sound.backend sane).remove_lands id)
  intro crash supported
  rw [(sound.backend sane).remove_ok (sound.supported supported) id] at crash
  cases crash

theorem Sound.add (sound : p.Sound settings) (id : String) (vector : Embedding) :
    (p.add id vector).2.Sound settings := by
  cases sane : p.poisoned with
  | false =>
    cases rejected : rejection id vector p.entries.width with
    | some fault =>
      rw [sound.add_of_refusal sane (refusal_of_rejected settings rejected)]
      exact sound
    | none => exact (sound.add_lands sane id vector rejected).sound
  | true =>
    rw [Promoted.add, change_of_poisoned _ sane]
    exact sound

theorem Sound.remove (sound : p.Sound settings) (id : String) :
    (p.remove id).2.Sound settings := by
  cases sane : p.poisoned with
  | false => exact (sound.remove_lands sane id).sound
  | true =>
    rw [Promoted.remove, change_of_poisoned _ sane]
    exact sound

theorem Sound.saveUnder_eq (sound : p.Sound settings) (sane : p.poisoned = false) {path : String}
    (dir : settings.effective.dir = some path) (refusals : SnapshotFile.Refusals)
    (files : FileTree) :
    p.saveUnder refusals files =
      SnapshotFile.writeUnder refusals files path (.ofEntries p.width p.entries) := by
  have listed : p.listing = .ok p.entries := by
    simp only [Promoted.listing, barrier, sane, Bool.false_eq_true, if_false]
  rw [saveUnder, sound.dir_eq, dir]
  simp only [listed]

theorem Sound.close (sound : p.Sound settings) : p.close.2.Sound settings := by
  cases sane : p.poisoned with
  | true =>
    simp only [Promoted.close, barrier, sane, if_true]
    exact sound
  | false =>
    rw [close_of_sane sane]
    rcases (sound.backend sane).clear with ⟨kept, engine_eq, _⟩
    exact ⟨sound.dir_eq, sound.tuning_eq, engine_eq.trans sound.engine_eq, fun _ => kept,
      fun harmed => absurd (sane.symm.trans harmed) (by decide)⟩

theorem fresh_sound (settings : Settings) : (fresh settings).Sound settings :=
  ⟨rfl, rfl, Backend.engine_empty _ _, fun _ => Backend.sound_empty _ _, by simp [fresh]⟩

inductive Copied (settings : Settings) (entries : Entries) : Except Halt Promoted → Prop
  | whole (q : Promoted) (sound : q.Sound settings) (sane : q.poisoned = false)
      (same : q.entries.Perm entries) : Copied settings entries (.ok q)
  | crowded (id : String) (graph : Engine.choose settings.preference .here = .graph)
      (beyond : settings.effective.tuning.capacity < entries.length) :
      Copied settings entries (.error (.fault (.copy id (.graph .full))))
  | troubled (id : String) (cause : Halt) (foreign : cause.Foreign)
      (unsupported : ¬ settings.Supported) :
      Copied settings entries (.error (cause.within (.copy id)))

theorem Copied.perm {a b : Entries} {result : Except Halt Promoted}
    (copied : Copied settings a result) (same : a.Perm b) : Copied settings b result := by
  cases copied with
  | whole q sound sane held => exact .whole q sound sane (held.trans same)
  | crowded id graph beyond => exact .crowded id graph (same.length_eq ▸ beyond)
  | troubled id cause foreign unsupported => exact .troubled id cause foreign unsupported

theorem Sound.copyAll (sound : p.Sound settings) (sane : p.poisoned = false) (rest : Entries)
    (together : Entries.Sound (p.entries ++ rest)) :
    Copied settings (p.entries ++ rest) (p.copyAll rest) := by
  induction rest generalizing p with
  | nil =>
    rw [List.append_nil]
    exact .whole p sound sane (List.Perm.refl _)
  | cons entry rest ih =>
    rcases together.accepts with ⟨accepted, absent⟩
    rw [Promoted.copyAll]
    rcases refusal_of_accepted settings accepted with ⟨taken, _⟩ | ⟨refused, graph, full⟩
    · have lands := sound.add_lands sane entry.id entry.vector accepted
      have ok (supported : settings.Supported) := sound.add_ok sane supported taken
      rcases added : p.add entry.id entry.vector with ⟨halt | _, q⟩
      · rw [added] at lands ok
        refine .troubled entry.id halt (lands.foreign halt rfl) fun supported => ?_
        cases ok supported
      · rw [added] at lands
        have grown : q.entries.Perm (p.entries ++ [entry]) := by
          have held := lands.entries_perm rfl
          rwa [Entries.push, Entries.erase_of_absent _ _ absent] at held
        have whole : (q.entries ++ rest).Perm (p.entries ++ entry :: rest) := by
          have appended := grown.append_right rest
          rwa [List.append_assoc] at appended
        exact (ih lands.sound lands.poisoned_eq (together.perm whole.symm)).perm whole
    · rw [sound.add_of_refusal sane refused]
      refine .crowded entry.id graph ?_
      rw [List.length_append, List.length_cons]
      omega

theorem copied_of_sound (settings : Settings) {entries : Entries} (sound : entries.Sound) :
    Copied settings entries ((fresh settings).copyAll entries) := by
  have start := entries_fresh settings
  have together : Entries.Sound ((fresh settings).entries ++ entries) := by
    rwa [start]
  have copied := (fresh_sound settings).copyAll rfl entries together
  rwa [start] at copied

theorem load_ok {q : Promoted} {entries : Entries} (loaded : (fresh settings).load entries = .ok q) :
    q.Sound settings ∧ q.poisoned = false ∧ q.entries.Hold (Contents.ofEntries entries) := by
  rw [load] at loaded
  cases made : (fresh settings).backend.load (fresh settings).tuning entries with
  | error halt =>
    rw [made] at loaded
    cases loaded
  | ok backend =>
    rw [made] at loaded
    cases loaded
    rcases Backend.load_ok made with ⟨sound, engine_eq, hold⟩
    refine ⟨⟨rfl, rfl, ?_, fun _ => sound, by simp [fresh]⟩, rfl, hold⟩
    exact engine_eq.trans (Backend.engine_empty _ _)

theorem create_sound {files rest : FileTree} (made : create settings files = (.ok p, rest)) :
    p.Sound settings := by
  rcases create_cases settings files with start | ⟨reason, failed⟩
  · rw [made] at start
    cases start
    exact fresh_sound settings
  · rw [made] at failed
    cases failed

theorem restore_sound {files rest : FileTree} (made : restore settings files = (.ok p, rest)) :
    p.Sound settings := by
  rw [restore] at made
  rcases create_cases settings files with start | ⟨reason, failed⟩
  · rcases created : create settings files with ⟨outcome, files⟩
    rw [created] at start made
    cases start
    have blank := fresh_sound settings
    cases dir : (fresh settings).dir with
    | none =>
      simp only [dir] at made
      cases made
      exact blank
    | some path =>
      simp only [dir] at made
      split at made
      · split at made
        · cases made
        · exact (load_ok (congrArg Prod.fst made)).1
      · cases made
        exact blank
  · rcases created : create settings files with ⟨outcome, files⟩
    rw [created] at failed made
    cases failed
    cases made

theorem restore_eq {files : FileTree} {path : String} (dir : settings.effective.dir = some path)
    (there : SnapshotFile.existsIn files path = true) :
    restore settings files =
      ((SnapshotFile.read files path).bind fun snapshot => (fresh settings).load snapshot.entries,
        files) := by
  have filled := Settings.effective_dir_ne_empty dir
  have directory := SnapshotFile.isDirectory_of_existsIn filled there
  have prepared : prepare files path = (.ok (), files) := by
    rw [prepare, FileTree.makeDirectories_of_isDirectory filled directory]
    simp only [if_pos directory]
  have created : create settings files = (.ok (fresh settings), files) := by
    rw [create, dir]
    simp only [prepared, fresh, dir]
    rfl
  have dir_eq : (fresh settings).dir = some path := dir
  rw [restore, created]
  simp only [dir_eq, if_pos there]
  rcases SnapshotFile.read files path with _ | _ <;> rfl

/-- The indexes that calls lead to from an empty one or from a snapshot, whatever happens to the
files meanwhile. -/
inductive Reachable (settings : Settings) : Promoted → Prop
  | created {p : Promoted} (files rest : FileTree) (made : create settings files = (.ok p, rest)) :
      Reachable settings p
  | restored {p : Promoted} (files rest : FileTree)
      (made : restore settings files = (.ok p, rest)) : Reachable settings p
  | added {p : Promoted} (reachable : Reachable settings p) (id : String) (vector : Embedding) :
      Reachable settings (p.add id vector).2
  | removed {p : Promoted} (reachable : Reachable settings p) (id : String) :
      Reachable settings (p.remove id).2
  | closed {p : Promoted} (reachable : Reachable settings p) : Reachable settings p.close.2
  | relisted {p : Promoted} (reachable : Reachable settings p) (backend : Backend)
      (same : p.backend.Relisted backend) : Reachable settings { p with backend }

theorem Reachable.sound (reachable : Reachable settings p) : p.Sound settings := by
  induction reachable with
  | created files rest made => exact create_sound made
  | restored files rest made => exact restore_sound made
  | added _ id vector ih => exact ih.add id vector
  | removed _ id ih => exact ih.remove id
  | closed _ ih => exact ih.close
  | relisted _ backend same ih => exact ih.relisted same

end Promoted

end EmbeddingIndex
