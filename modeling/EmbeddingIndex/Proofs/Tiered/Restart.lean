import EmbeddingIndex.Proofs.Tiered.Query
import EmbeddingIndex.Proofs.Snapshot.RoundTrip
/-!
An index that was saved and one that starts from the snapshot cannot be told apart: slots,
tombstones and the order of tables may differ, but no answer does. Only a search for so many hits that
their number and that of the tombstones overflow a machine word tells the two apart.
-/

namespace EmbeddingIndex

theorem Entries.Hold.addressable {entries given : Entries}
    (hold : entries.Hold (Contents.ofEntries given)) (addressable : given.Addressable) :
    entries.Addressable where
  count := by
    calc
      entries.length = given.ids.toFinset.card := hold.length_eq
      _ ≤ given.ids.length := List.toFinset_card_le given.ids
      _ = given.length := List.length_map _
      _ < 2 ^ 64 := addressable.count
  ids entry member := addressable.ids entry (hold.subset member)
  vectors entry member := addressable.vectors entry (hold.subset member)

namespace Promoted

variable [Runtime]

/-- Two sound indexes of the same settings with the same entries. -/
structure Alike (settings : Settings) (p q : Promoted) : Prop where
  left : p.Sound settings
  right : q.Sound settings
  entries_perm : p.entries.Perm q.entries

structure AlikeAttempts (settings : Settings) (first second : Attempt Halt Promoted) : Prop where
  outcome_eq : first.1 = second.1
  calm : crashed first.1 = false
  alike : Alike settings first.2 second.2

variable {settings : Settings} {p q : Promoted}

theorem Alike.symm (alike : Alike settings p q) : Alike settings q p :=
  ⟨alike.right, alike.left, alike.entries_perm.symm⟩

theorem Lands.alike {first second : Attempt Halt Promoted} {a b : Entries}
    (left : Lands first settings a) (right : Lands second settings b) (same : a.Perm b)
    (ok_left : first.1 = .ok ()) (ok_right : second.1 = .ok ()) :
    AlikeAttempts settings first second where
  outcome_eq := ok_left.trans ok_right.symm
  calm := by rw [ok_left]; rfl
  alike :=
    { left := left.sound
      right := right.sound
      entries_perm := by
        calc
          first.2.entries.Perm a := left.entries_perm ok_left
          a.Perm b := same
          b.Perm second.2.entries := (right.entries_perm ok_right).symm }

theorem Alike.add (alike : Alike settings p q) (supported : settings.Supported) (id : String)
    (vector : Embedding) : AlikeAttempts settings (p.add id vector) (q.add id vector) := by
  have sane := alike.left.sane supported
  have sane_right := alike.right.sane supported
  have together := (alike.left.backend sane).entries
  have refusal_eq : refusal settings q.entries id vector = refusal settings p.entries id vector :=
    (Backend.refusal_perm _ _ together alike.entries_perm id vector).symm
  cases taken : refusal settings p.entries id vector with
  | some fault =>
    rw [alike.left.add_of_refusal sane taken,
      alike.right.add_of_refusal sane_right (refusal_eq.trans taken)]
    exact ⟨rfl, rfl, alike⟩
  | none =>
    have taken_right := refusal_eq.trans taken
    have left := alike.left.add_lands sane id vector (accepted_of_taken taken)
    have right := alike.right.add_lands sane_right id vector (accepted_of_taken taken_right)
    exact left.alike right (Entries.push_perm alike.entries_perm id vector)
      (alike.left.add_ok sane supported taken)
      (alike.right.add_ok sane_right supported taken_right)

theorem Alike.remove (alike : Alike settings p q) (supported : settings.Supported) (id : String) :
    AlikeAttempts settings (p.remove id) (q.remove id) := by
  have sane := alike.left.sane supported
  have sane_right := alike.right.sane supported
  exact (alike.left.remove_lands sane id).alike (alike.right.remove_lands sane_right id)
    (Entries.erase_perm alike.entries_perm id) (alike.left.remove_ok sane supported id)
    (alike.right.remove_ok sane_right supported id)

theorem Alike.size_eq (alike : Alike settings p q) (supported : settings.Supported) :
    p.size = q.size := by
  rw [alike.left.size_eq (alike.left.sane supported), alike.right.size_eq (alike.right.sane supported)]
  exact alike.entries_perm.length_eq

theorem Alike.width_eq (alike : Alike settings p q) (supported : settings.Supported) :
    p.width = q.width := by
  have sane := alike.left.sane supported
  rw [alike.left.width_eq sane, alike.right.width_eq (alike.right.sane supported)]
  exact (alike.left.backend sane).entries.width_perm alike.entries_perm

theorem Alike.relisted (alike : Alike settings p q) {backend : Backend}
    (same : p.backend.Relisted backend) : Alike settings { p with backend } q :=
  ⟨alike.left.relisted same, alike.right, same.perm.symm.trans alike.entries_perm⟩

end Promoted

namespace Tiered

theorem SameFind.within {first second : Except Halt (List Hit)} (same : SameFind first second)
    (op : String) : SameFind (within op first) (within op second) := by
  cases same with
  | hits same => exact .hits same
  | halt cause => exact .refl _

theorem calm_of_found {answer : Except Halt (List Hit)} {entries : Entries} {query : Embedding}
    {count : Nat} (found : SameFind answer (entries.found query count)) : crashed answer = false := by
  rw [Entries.found] at found
  split at found
  · cases found
    rfl
  · split at found <;> cases found <;> rfl

theorem save_promoted_ok {t : Tiered} {p : Promoted} (active : t.active = .promoted p)
    (free : t.barrier = none) {files : FileTree} (saved : (t.save files).answer = .ok ()) :
    (p.save files).1 = .ok () ∧ (t.save files).files = (p.save files).2 := by
  rw [save, saveUnder_promoted active free] at saved ⊢
  refine ⟨?_, rfl⟩
  rw [Promoted.save]
  rcases outcome : (p.saveUnder .none files).1 with fault | _
  · rw [outcome] at saved
    cases saved
  · rfl

section

/-- A search for every entry, that counts its slots in a machine word. -/
structure Reaches (t : Tiered) (count : Nat) : Prop where
  all : t.size ≤ count
  word : count + t.active.tombstones < wordLimit

/-- Calls whose answers do not depend on how the indexes are laid out. -/
def Covers (a b : Tiered) : Operation → Prop
  | .add _ _ => True
  | .remove _ => True
  | .search query count => query.unit.isFinite = true ∧ a.Reaches count ∧ b.Reaches count
  | .save => False
  | .close => False

variable [Runtime]

def SameAnswer (a b : Tiered) (left right : FileTree) : Operation → Prop
  | .add id vector => (a.add id vector left).answer = (b.add id vector right).answer
  | .remove id => (a.remove id left).answer = (b.remove id right).answer
  | .search query count =>
    SameFind (a.search query count left).answer (b.search query count right).answer
  | .save => (a.save left).answer = (b.save right).answer
  | .close => (a.close left).answer = (b.close right).answer

structure SameView (a b : Tiered) : Prop where
  size_eq : a.size = b.size
  mode_eq : a.mode = b.mode
  engine_eq : a.engine = b.engine
  width_eq : a.width = b.width
  entries_perm : a.entries.Perm b.entries

/-- Where two indexes come to by the same calls, made beside any files. -/
inductive Continued (t r : Tiered) : Tiered → Tiered → Prop
  | start : Continued t r t r
  | called {a b : Tiered} (continued : Continued t r a b) (op : Operation) (covered : Covers a b op)
      (left right : FileTree) : Continued t r (a.after left op) (b.after right op)
  | relisted_left {a b : Tiered} (continued : Continued t r a b) (active : Active)
      (same : a.active.Relisted active) : Continued t r { a with active } b
  | relisted_right {a b : Tiered} (continued : Continued t r a b) (active : Active)
      (same : b.active.Relisted active) : Continued t r a { b with active }

/-- Open promoted indexes that cannot be told apart, of maybe different thresholds. -/
inductive Alike (settings : Settings) : Tiered → Tiered → Prop
  | intro {p q : Promoted} (own other : Settings) (alike : p.Alike settings q) :
      Alike settings ⟨own, .promoted p, false, false⟩ ⟨other, .promoted q, false, false⟩

variable {settings : Settings} {t r a b : Tiered}

theorem Alike.view (alike : Alike settings a b) (supported : settings.Supported) : SameView a b := by
  cases alike with
  | intro own other alike =>
    exact ⟨alike.size_eq supported, rfl,
      congrArg some (alike.left.engine_eq.trans alike.right.engine_eq.symm),
      alike.width_eq supported, alike.entries_perm⟩

theorem Alike.concluded {first second : Attempt Halt Promoted}
    (attempts : Promoted.AlikeAttempts settings first second) (own other : Settings) (op : String)
    (left right : FileTree) :
    Alike settings (conclude (within op first.1) ⟨own, .promoted first.2, false, false⟩ left).index
        (conclude (within op second.1) ⟨other, .promoted second.2, false, false⟩ right).index ∧
      (conclude (within op first.1) ⟨own, .promoted first.2, false, false⟩ left).answer =
        (conclude (within op second.1) ⟨other, .promoted second.2, false, false⟩ right).answer := by
  rw [conclude_eq, conclude_eq, crashed_within, crashed_within, ← attempts.outcome_eq, attempts.calm]
  exact ⟨.intro own other attempts.alike, rfl⟩

theorem Alike.add (alike : Alike settings a b) (supported : settings.Supported)
    (left right : FileTree) (id : String) (vector : Embedding) :
    Alike settings (a.add id vector left).index (b.add id vector right).index ∧
      (a.add id vector left).answer = (b.add id vector right).answer := by
  cases alike with
  | intro own other alike =>
    rw [add_promoted rfl rfl, add_promoted rfl rfl]
    exact Alike.concluded (alike.add supported id vector) own other "add" left right

theorem Alike.remove (alike : Alike settings a b) (supported : settings.Supported)
    (left right : FileTree) (id : String) :
    Alike settings (a.remove id left).index (b.remove id right).index ∧
      (a.remove id left).answer = (b.remove id right).answer := by
  cases alike with
  | intro own other alike =>
    rw [remove_promoted rfl rfl, remove_promoted rfl rfl]
    exact Alike.concluded (alike.remove supported id) own other "remove" left right

theorem Alike.search (alike : Alike settings a b) (supported : settings.Supported)
    (complete : Runtime.library.Complete) (left right : FileTree) {query : Embedding}
    (finite : query.unit.isFinite = true) {count : Nat} (reaches : a.Reaches count)
    (reaches_right : b.Reaches count) :
    Alike settings (a.search query count left).index (b.search query count right).index ∧
      SameFind (a.search query count left).answer (b.search query count right).answer := by
  cases alike with
  | @intro p q own other alike =>
    have sane := alike.left.sane supported
    have sane_right := alike.right.sane supported
    have all : p.entries.length ≤ count := (alike.left.size_eq sane).symm.le.trans reaches.all
    have all_right : q.entries.length ≤ count :=
      (alike.right.size_eq sane_right).symm.le.trans reaches_right.all
    have active : Active.Sound settings (.promoted p) := alike.left
    have active_right : Active.Sound settings (.promoted q) := alike.right
    have found : SameFind ((Active.promoted p).search query count) (p.entries.found query count) :=
      active.search_same sane complete finite reaches.word all
    have found_right : SameFind ((Active.promoted q).search query count)
        (q.entries.found query count) :=
      active_right.search_same sane_right complete finite reaches_right.word all_right
    have listed := (alike.left.backend sane).entries.found_same alike.entries_perm query count all
    rw [search_of_free rfl, search_of_free rfl]
    simp only [calm_of_found found, calm_of_found found_right, Bool.or_false]
    exact ⟨.intro own other alike, SameFind.within ((found.trans listed).trans found_right.symm) _⟩

theorem Alike.after (alike : Alike settings a b) (supported : settings.Supported)
    (complete : Runtime.library.Complete) (op : Operation) (covered : Covers a b op)
    (left right : FileTree) :
    Alike settings (a.after left op) (b.after right op) ∧ SameAnswer a b left right op := by
  cases op with
  | add id vector => exact alike.add supported left right id vector
  | remove id => exact alike.remove supported left right id
  | search query count =>
    obtain ⟨finite, reaches, reaches_right⟩ := covered
    exact alike.search supported complete left right finite reaches reaches_right
  | save => cases covered
  | close => cases covered

theorem Alike.symm (alike : Alike settings a b) : Alike settings b a := by
  cases alike with
  | intro own other alike => exact .intro other own alike.symm

theorem Alike.relisted (alike : Alike settings a b) {active : Active}
    (same : a.active.Relisted active) : Alike settings { a with active } b := by
  cases alike with
  | intro own other alike =>
    cases same with
    | promoted p backend relisted => exact .intro own other (alike.relisted relisted)

theorem Continued.alike (continued : Continued t r a b) (supported : settings.Supported)
    (complete : Runtime.library.Complete) (start : Alike settings t r) : Alike settings a b := by
  induction continued with
  | start => exact start
  | called _ op covered left right ih => exact (ih.after supported complete op covered left right).1
  | relisted_left _ active same ih => exact ih.relisted same
  | relisted_right _ active same ih => exact (ih.symm.relisted same).symm

theorem read_of_save {p : Promoted} {path : String} {files : FileTree} (sound : p.Sound settings)
    (sane : p.poisoned = false) (dir : settings.effective.dir = some path)
    (addressable : p.entries.Addressable) (saved : (p.save files).1 = .ok ()) :
    SnapshotFile.existsIn (p.save files).2 path = true ∧
      SnapshotFile.read (p.save files).2 path = .ok (Snapshot.ofEntries p.width p.entries) := by
  have whole : (Snapshot.ofEntries p.width p.entries).Addressable := by
    rw [sound.width_eq sane]
    exact addressable.snapshot
  rw [Promoted.save, sound.saveUnder_eq sane dir] at saved ⊢
  rcases SnapshotFile.read_of_write (Prod.ext saved rfl) with ⟨there, read⟩
  exact ⟨there, read.trans (Snapshot.decode_encode .blake3 _ whole rfl)⟩

theorem Sound.save_ok (sound : t.Sound settings) (free : t.barrier = none) {path : String}
    (dir : settings.effective.dir = some path) {files : FileTree}
    (saved : (t.save files).answer = .ok ()) :
    (t.mode = .exact → (t.save files).files = files) ∧
      (t.mode = .promoted → SnapshotFile.existsIn (t.save files).files path = true ∧
        (t.entries.Addressable → ∃ width, SnapshotFile.read (t.save files).files path =
          .ok (Snapshot.ofEntries width t.entries))) := by
  rw [mode, Tiered.entries]
  cases active : t.active with
  | scan s =>
    refine ⟨fun _ => ?_, fun promoted => Mode.noConfusion promoted⟩
    rw [save, saveUnder_of_scan active free]
  | promoted p =>
    refine ⟨fun scanning => Mode.noConfusion scanning, fun _ => ?_⟩
    obtain ⟨written, files_eq⟩ := save_promoted_ok active free saved
    obtain ⟨whole, sane_of⟩ := sound.promoted active
    have sane := sane_of ((barrier_eq_none_iff t).mp free).1
    rw [files_eq]
    constructor
    · rw [Promoted.save, whole.saveUnder_eq sane dir] at written ⊢
      exact (SnapshotFile.read_of_write (Prod.ext written rfl)).1
    · exact fun addressable => ⟨p.width, (read_of_save whole sane dir addressable written).2⟩

theorem load_alike {p : Promoted} (sound : p.Sound settings) (supported : settings.Supported) :
    ∃ q, (Promoted.fresh settings).load p.entries = .ok q ∧ p.Alike settings q := by
  have sane := sound.sane supported
  have room : (Promoted.fresh settings).backend.engine = .graph →
      p.entries.length ≤ settings.effective.tuning.capacity ∧
        settings.effective.tuning.Supported := by
    intro graph
    have chosen : Engine.choose settings.preference .here = .graph :=
      (Backend.engine_empty _ _).symm.trans graph
    exact ⟨sound.length_le sane chosen, supported chosen⟩
  rcases Backend.load_of_sound _ (sound.backend sane).entries room with ⟨backend, loaded, entries_eq⟩
  have load_eq : (Promoted.fresh settings).load p.entries =
      .ok { Promoted.fresh settings with backend } := by
    rw [Promoted.load]
    exact congrArg (Except.map _) loaded
  rcases Promoted.load_ok load_eq with ⟨right, _, _⟩
  exact ⟨_, load_eq, sound, right, List.Perm.of_eq entries_eq.symm⟩

theorem create_of_save (own : Settings) {p q : Promoted} (whole : p.Sound settings)
    (sane : p.poisoned = false) {path : String} (dir : settings.effective.dir = some path)
    (addressable : p.entries.Addressable) {files : FileTree} (written : (p.save files).1 = .ok ())
    (loaded : (Promoted.fresh settings).load p.entries = .ok q) (threshold : Nat) :
    create { settings with threshold }
        (save ⟨own, .promoted p, false, false⟩ files).files =
      (.ok ⟨Settings.effective { settings with threshold }, .promoted q, false, false⟩,
        (save ⟨own, .promoted p, false, false⟩ files).files) := by
  have dir_again : (Settings.effective { settings with threshold }).dir = some path := dir
  have loaded_again : (Promoted.fresh { settings with threshold }).load p.entries = .ok q := loaded
  rcases read_of_save whole sane dir addressable written with ⟨there, read⟩
  change create _ (p.save files).2 = (_, (p.save files).2)
  rw [create_of_snapshot dir_again there, read]
  simp only [Except.bind, Snapshot.ofEntries, loaded_again]
  rfl

/-- After a save that succeeded, an index that starts in the same directory, with any threshold, is
promoted with the same engine and the same entries, and whatever is done to both, they give the
same answers and hold the same entries. -/
theorem Reachable.restart (reachable : Reachable settings t) (still_open : t.closed = false)
    (unharmed : t.poisoned = false) (supported : settings.Supported)
    (complete : Runtime.library.Complete) (promoted : t.mode = .promoted) {path : String}
    (dir : settings.effective.dir = some path) (addressable : t.entries.Addressable)
    {files : FileTree} (saved : (t.save files).answer = .ok ()) (threshold : Nat) :
    ∃ r, create { settings with threshold } (t.save files).files = (.ok r, (t.save files).files) ∧
      r.mode = .promoted ∧ r.engine = t.engine ∧
      ∀ a b, Continued (t.save files).index r a b → SameView a b ∧
        ∀ op, Covers a b op → ∀ left right, SameAnswer a b left right op := by
  have sound := reachable.sound
  rcases t with ⟨own, active, closed, poisoned⟩
  cases still_open
  cases unharmed
  cases active with
  | scan s => cases promoted
  | promoted p =>
    rcases sound.promoted rfl with ⟨whole, sane_of⟩
    have written := (save_promoted_ok rfl rfl saved).1
    rcases load_alike whole supported with ⟨q, loaded, alike⟩
    have created := create_of_save own whole (sane_of rfl) dir addressable written loaded threshold
    have start : Alike settings ⟨own, .promoted p, false, false⟩
        ⟨Settings.effective { settings with threshold }, .promoted q, false, false⟩ :=
      .intro own _ alike
    refine ⟨_, created, rfl, (start.view supported).engine_eq.symm, ?_⟩
    intro a b continued
    have still := continued.alike supported complete start
    exact ⟨still.view supported,
      fun op covered left right => (still.after supported complete op covered left right).2⟩

end

/-- A graph with a tombstone, which the index that starts after it does not have. -/
def thinned : Tiered :=
  let start : Tiered := ⟨Settings.effective ⟨1, some "store", .graph, .unset⟩, .scan .empty, false, false⟩
  let grown := (start.after ⟨[], []⟩ (.add "a" [⟨0x3f800000⟩])).after ⟨[], []⟩ (.add "b" [⟨0x40000000⟩])
  grown.after ⟨[], []⟩ (.remove "a")

theorem thinned_reachable : Reachable ⟨1, some "store", .graph, .unset⟩ thinned := by
  have start : Reachable ⟨1, some "store", .graph, .unset⟩ _ := .created ⟨[], []⟩ _ (by rfl)
  exact ((start.stepped ⟨[], []⟩ (.add "a" [⟨0x3f800000⟩])).stepped ⟨[], []⟩
    (.add "b" [⟨0x40000000⟩])).stepped ⟨[], []⟩ (.remove "a")

theorem addressable_thinned : thinned.entries.Addressable := by
  have held : thinned.entries = [⟨"b", [⟨0x40000000⟩]⟩] := by rfl
  rw [held]
  exact ⟨by decide, by decide, by decide⟩

theorem restart_thinned :
    thinned.active.tombstones = 1 ∧
    ∃ r, create ⟨7, some "store", .graph, .unset⟩
        (thinned.save ⟨[], [(["store"], .directory)]⟩).files =
          (.ok r, (thinned.save ⟨[], [(["store"], .directory)]⟩).files) ∧
      r.mode = .promoted ∧ r.engine = thinned.engine ∧
      ∀ a b, Continued (thinned.save ⟨[], [(["store"], .directory)]⟩).index r a b → SameView a b ∧
        ∀ op, Covers a b op → ∀ left right, SameAnswer a b left right op := by
  have supported : Settings.Supported ⟨1, some "store", .graph, .unset⟩ := fun _ =>
    Tuning.supported_of_held (by decide) (by decide)
  exact ⟨by rfl, Reachable.restart thinned_reachable (by rfl) (by rfl) supported
    GraphLibrary.exhaustive_complete (by rfl) (by rfl) addressable_thinned (by rfl) 7⟩

def buried : Promoted :=
  ⟨.graph ⟨.standard, some [[⟨0x3f800000⟩], [⟨0x3f800000⟩]], [none, some ⟨"b", [⟨0x40000000⟩]⟩],
    [("b", 1)], 1⟩, some "store", .standard, false⟩

def reloaded : Promoted :=
  ⟨.graph ⟨.standard, some [[⟨0x3f800000⟩]], [some ⟨"b", [⟨0x40000000⟩]⟩], [("b", 0)], 0⟩,
    some "store", .standard, false⟩

/-- Asked for the largest number of hits there is, the graph with a tombstone looks at no slot. -/
theorem search_of_restarted_thinned :
    ¬ ∀ (settings : Settings) (t r : Tiered) (path : String) (files : FileTree) (threshold : Nat),
      Reachable settings t → t.closed = false → t.poisoned = false → t.mode = .promoted →
      settings.effective.dir = some path → (t.save files).answer = .ok () →
      create { settings with threshold } (t.save files).files = (.ok r, (t.save files).files) →
      ∀ query count, query.unit.isFinite = true → t.size ≤ count → count < wordLimit →
        SameFind (t.search query count files).answer (r.search query count files).answer := by
  intro alike
  have thinned_eq : thinned = ⟨thinned.settings, .promoted buried, false, false⟩ := by
    decide +kernel
  have reachable := thinned_reachable
  have addressable := addressable_thinned
  rw [thinned_eq] at reachable addressable
  have whole := (reachable.sound.promoted rfl).1
  have loaded : (Promoted.fresh ⟨1, some "store", .graph, .unset⟩).load buried.entries =
      .ok reloaded := by
    decide +kernel
  have created := @create_of_save _ _ thinned.settings buried reloaded whole rfl "store" (by rfl)
    addressable ⟨[], [(["store"], .directory)]⟩ (by rfl) loaded 7
  have same := alike _ _ _ "store" _ 7 reachable rfl rfl rfl (by rfl) (by rfl) created [⟨0x3f800000⟩]
    0xffffffffffffffff (by decide +kernel) (by decide +kernel) (by decide)
  have none_found : (search ⟨thinned.settings, .promoted buried, false, false⟩ [⟨0x3f800000⟩]
      0xffffffffffffffff ⟨[], [(["store"], .directory)]⟩).answer = .ok [] := by
    decide +kernel
  have one_found : (search ⟨Settings.effective ⟨7, some "store", .graph, .unset⟩,
      .promoted reloaded, false, false⟩ [⟨0x3f800000⟩] 0xffffffffffffffff
      ⟨[], [(["store"], .directory)]⟩).answer = .ok [⟨"b", ⟨0x3f800000⟩⟩] := by
    decide +kernel
  rw [none_found, one_found] at same
  cases same with
  | hits same => exact absurd same.perm.length_eq (by decide)

end Tiered

end EmbeddingIndex
