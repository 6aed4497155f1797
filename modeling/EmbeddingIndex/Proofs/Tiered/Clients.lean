import EmbeddingIndex.Proofs.Tiered.Contents
import EmbeddingIndex.Proofs.Tiered.Promotion
import Mathlib.Data.Fin.VecNotation
import Mathlib.Data.Finset.Union
/-!
Clients that keep to ids of their own. However their steps are interleaved, each step succeeds, and
in the end the index holds just what each client alone would have left.
-/

namespace EmbeddingIndex

inductive Edit
  | add (id : String) (vector : Embedding)
  | remove (id : String)
  deriving DecidableEq, Repr

namespace Edit

def id : Edit → String
  | add id _ => id
  | remove id => id

def vector? : Edit → Option Embedding
  | add _ vector => some vector
  | remove _ => none

def operation : Edit → Operation
  | add id vector => .add id vector
  | remove id => .remove id

def Fits (width : Nat) : Edit → Prop
  | add _ vector => vector ≠ [] ∧ vector.isFinite = true ∧ vector.length = width
  | remove _ => True

instance (width : Nat) : (e : Edit) → Decidable (e.Fits width)
  | add _ vector =>
    inferInstanceAs (Decidable (vector ≠ [] ∧ vector.isFinite = true ∧ vector.length = width))
  | remove _ => inferInstanceAs (Decidable True)

end Edit

namespace Contents

def edit (m : Contents) (e : Edit) : Contents := Function.update m e.id e.vector?

def ofEdits (edits : List Edit) : Contents := edits.foldl edit empty

theorem edit_apply (m : Contents) (e : Edit) (key : String) :
    m.edit e key = if e.id = key then e.vector? else m key := by
  simp only [edit, Function.update_apply, eq_comm]

theorem ofEdits_concat (edits : List Edit) (e : Edit) :
    ofEdits (edits ++ [e]) = (ofEdits edits).edit e := by
  rw [ofEdits, List.foldl_append]
  rfl

theorem add_mem_of_ofEdits {edits : List Edit} {id : String} {vector : Embedding}
    (leads : ofEdits edits id = some vector) : Edit.add id vector ∈ edits := by
  induction edits using List.reverseRecOn with
  | nil => cases leads
  | append_singleton edits e ih =>
    rw [ofEdits_concat, edit_apply] at leads
    by_cases here : e.id = id
    · rw [if_pos here] at leads
      cases e with
      | add key given =>
        cases here
        cases leads
        exact List.mem_append_right _ (List.mem_singleton_self _)
      | remove key => cases leads
    · rw [if_neg here] at leads
      exact List.mem_append_left _ (ih leads)

theorem ofEdits_filter (edits : List Edit) (id : String) :
    ofEdits (edits.filter (·.id = id)) id = ofEdits edits id := by
  induction edits using List.reverseRecOn with
  | nil => rfl
  | append_singleton edits e ih =>
    rw [List.filter_append, ofEdits_concat, edit_apply]
    by_cases here : e.id = id
    · rw [List.filter_singleton, decide_eq_true here, cond_true, ofEdits_concat, edit_apply, if_pos here,
        if_pos here]
    · rw [List.filter_singleton, decide_eq_false here, cond_false, List.append_nil, if_neg here, ih]

end Contents

/-- Each client's steps come in its order, and every step is some client's. -/
def Interleaves {n : Nat} (clients : Fin n → List Edit) (steps : List (Fin n × Edit)) : Prop :=
  ∀ i, (steps.filter (·.1 = i)).map (·.2) = clients i

instance {n : Nat} (clients : Fin n → List Edit) (steps : List (Fin n × Edit)) :
    Decidable (Interleaves clients steps) :=
  inferInstanceAs (Decidable (∀ i, (steps.filter (·.1 = i)).map (·.2) = clients i))

def Apart {n : Nat} (clients : Fin n → List Edit) : Prop :=
  ∀ i j, i ≠ j → ∀ a ∈ clients i, ∀ b ∈ clients j, a.id ≠ b.id

instance {n : Nat} (clients : Fin n → List Edit) : Decidable (Apart clients) :=
  inferInstanceAs (Decidable (∀ i j, i ≠ j → ∀ a ∈ clients i, ∀ b ∈ clients j, a.id ≠ b.id))

def clientIds {n : Nat} (clients : Fin n → List Edit) : Finset String :=
  Finset.univ.biUnion fun i => ((clients i).map Edit.id).toFinset

section Interleaving

variable {n : Nat} {clients : Fin n → List Edit} {steps : List (Fin n × Edit)}

theorem mem_clientIds {i : Fin n} {e : Edit} (member : e ∈ clients i) : e.id ∈ clientIds clients := by
  rw [clientIds, Finset.mem_biUnion]
  exact ⟨i, Finset.mem_univ i, List.mem_toFinset.mpr (List.mem_map_of_mem member)⟩

theorem Interleaves.mem (interleaved : Interleaves clients steps) {step : Fin n × Edit}
    (member : step ∈ steps) : step.2 ∈ clients step.1 := by
  rw [← interleaved step.1]
  exact List.mem_map_of_mem (List.mem_filter.mpr ⟨member, decide_eq_true rfl⟩)

theorem Interleaves.filter_eq (interleaved : Interleaves clients steps) (apart : Apart clients)
    {i : Fin n} {e : Edit} (owned : e ∈ clients i) :
    (steps.map (·.2)).filter (·.id = e.id) = (clients i).filter (·.id = e.id) := by
  have own_only : ∀ step ∈ steps, step.2.id = e.id → step.1 = i := by
    intro step member same
    by_contra other
    exact apart step.1 i other step.2 (interleaved.mem member) e owned same
  rw [← interleaved i, List.filter_map, List.filter_map, List.filter_filter]
  congr 1
  apply List.filter_congr
  intro step member
  by_cases same : step.2.id = e.id
  · simp [same, own_only step member same]
  · simp [same]

theorem Interleaves.ofEdits_eq_some_iff (interleaved : Interleaves clients steps)
    (apart : Apart clients) (id : String) (vector : Embedding) :
    Contents.ofEdits (steps.map (·.2)) id = some vector ↔
      ∃ i, Contents.ofEdits (clients i) id = some vector := by
  constructor
  · intro leads
    obtain ⟨step, member, same⟩ := List.mem_map.mp (Contents.add_mem_of_ofEdits leads)
    have owned : Edit.add id vector ∈ clients step.1 := same ▸ interleaved.mem member
    refine ⟨step.1, ?_⟩
    rw [← Contents.ofEdits_filter] at leads ⊢
    exact (congrArg (Contents.ofEdits · id) (interleaved.filter_eq apart owned)).symm.trans leads
  · rintro ⟨i, leads⟩
    have owned := Contents.add_mem_of_ofEdits leads
    rw [← Contents.ofEdits_filter] at leads ⊢
    exact (congrArg (Contents.ofEdits · id) (interleaved.filter_eq apart owned)).trans leads

end Interleaving

theorem Entries.length_le_card {entries : Entries} (unique : entries.ids.Nodup)
    {known : Finset String} (inside : ∀ entry ∈ entries, entry.id ∈ known) :
    entries.length ≤ known.card := by
  have included : entries.ids.toFinset ⊆ known := by
    intro id member
    obtain ⟨entry, present, rfl⟩ := List.mem_map.mp (List.mem_toFinset.mp member)
    exact inside entry present
  calc
    entries.length = entries.ids.toFinset.card := by
      rw [List.toFinset_card_of_nodup unique, Entries.ids, List.length_map]
    _ ≤ known.card := Finset.card_le_card included

namespace Tiered

section

variable [Runtime]

def Moment.Succeeds (m : Moment) : Prop :=
  match m.op with
  | .add id vector => (m.before.add id vector m.files).answer = .ok ()
  | .remove id => (m.before.remove id m.files).answer = .ok ()
  | .search query count => ∃ hits, (m.before.search query count m.files).answer = .ok hits
  | .save => (m.before.save m.files).answer = .ok ()
  | .close => (m.before.close m.files).answer = .ok ()

/-- A new index goes through just these edits. -/
structure Performs (settings : Settings) (edits : List Edit) (t : Tiered) (past : List Moment) :
    Prop where
  passed : Passed settings t past
  calls : past.map (·.op) = (edits.map Edit.operation).reverse

/-- The index takes operations and holds what the edits made. -/
structure Served (settings : Settings) (edits : List Edit) (t : Tiered) : Prop where
  sound : t.Sound settings
  free : t.barrier = none
  hold : t.entries.Hold (Contents.ofEdits edits)

variable {settings : Settings} {t : Tiered} {edits : List Edit} {past : List Moment}

theorem Sound.add_ok (sound : t.Sound settings) (memory : settings.effective.dir = none)
    (free : t.barrier = none) {id : String} {vector : Embedding}
    (accepted : rejection id vector t.entries.width = none) (supported : settings.Supported)
    (room : Engine.choose settings.preference .here = .graph →
      t.entries.length < settings.effective.tuning.capacity ∧
        (t.entries.push id vector).length ≤ settings.effective.tuning.capacity)
    (files : FileTree) :
    (t.add id vector files).answer = .ok () ∧ (t.add id vector files).index.barrier = none := by
  rcases exact_or_promoted t with scanning | promoted
  · have weighed := sound.add_weighed memory scanning free id vector files
    generalize t.add id vector files = step at weighed
    rcases step with ⟨answer, next, rest⟩
    dsimp only at weighed ⊢
    cases weighed with
    | rejected fault invalid =>
      rw [accepted] at invalid
      cases invalid
    | kept s _ held small => exact ⟨rfl, free⟩
    | moved p _ held beyond _ => exact ⟨rfl, free⟩
    | crowded s key _ held beyond graph too_many =>
      exact absurd too_many (Nat.not_lt.mpr (room graph).2)
    | troubled s halt _ held beyond foreign unsupported => exact absurd supported unsupported
  · have added := (sound.add_added free id vector files).1
    generalize t.add id vector files = step at added
    rcases step with ⟨answer, next, rest⟩
    dsimp only at added ⊢
    cases added with
    | rejected fault invalid =>
      rw [accepted] at invalid
      cases invalid
    | crowded _ _ graph full => exact absurd full (Nat.ne_of_lt (room graph).1)
    | stored active _ mode_eq held small => exact ⟨rfl, free⟩
    | moved p scanning _ held beyond => exact ⟨rfl, free⟩
    | stayed s fault scanning _ held beyond cause =>
      rw [promoted] at scanning
      cases scanning
    | troubled halt next _ closed_eq foreign unsupported => exact absurd supported unsupported

theorem Served.accepts_fitting (served : Served settings edits t) {width : Nat}
    (fits : ∀ e ∈ edits, e.Fits width) {id : String} {vector : Embedding}
    (fitting : (Edit.add id vector).Fits width) : rejection id vector t.entries.width = none := by
  obtain ⟨filled, finite, length_eq⟩ := fitting
  refine (rejection_eq_none_iff id vector _).mpr ⟨filled, finite, ?_⟩
  intro established same
  obtain ⟨entry, first, rfl⟩ := Option.map_eq_some_iff.mp same
  have leads := (served.hold.mem_iff entry.id entry.vector).mp (List.mem_of_head? first)
  have fitted := fits _ (Contents.add_mem_of_ofEdits leads)
  exact fitted.2.2.trans length_eq.symm

theorem Served.known (served : Served settings edits t) {known : Finset String}
    (inside : ∀ e ∈ edits, e.id ∈ known) : ∀ entry ∈ t.entries, entry.id ∈ known := by
  intro entry member
  have leads := (served.hold.mem_iff entry.id entry.vector).mp member
  exact inside _ (Contents.add_mem_of_ofEdits leads)

/-- One more edit succeeds, if it fits and there is room for all ids that are known. -/
theorem Served.step (served : Served settings edits t) (memory : settings.effective.dir = none)
    (supported : settings.Supported) {width : Nat} {known : Finset String} {e : Edit}
    (fits : ∀ other ∈ edits ++ [e], other.Fits width) (inside : ∀ other ∈ edits ++ [e], other.id ∈ known)
    (room : Engine.choose settings.preference .here = .graph →
      known.card < settings.effective.tuning.capacity)
    (files : FileTree) :
    Moment.Succeeds ⟨t, files, e.operation⟩ ∧
      Served settings (edits ++ [e]) (t.after files e.operation) := by
  have known_before := served.known fun other member => inside other (List.mem_append_left _ member)
  have last : e ∈ edits ++ [e] := List.mem_append_right _ (List.mem_singleton_self e)
  have sound_after := served.sound.after files e.operation
  cases e with
  | add id vector =>
    have accepted := served.accepts_fitting
      (fun other member => fits other (List.mem_append_left _ member)) (fits _ last)
    have known_after : ∀ entry ∈ t.entries.push id vector, entry.id ∈ known := by
      intro entry member
      rcases (Entries.mem_push_iff t.entries id vector entry).mp member with rfl | ⟨old, _⟩
      · exact inside _ last
      · exact known_before entry old
    have unique := served.hold.ids_nodup
    have before := Entries.length_le_card unique known_before
    have after := Entries.length_le_card (Entries.nodup_push t.entries id vector unique) known_after
    have added := served.sound.add_ok memory served.free accepted supported
      (fun graph => ⟨by have spare := room graph; omega, by have spare := room graph; omega⟩) files
    have hold := served.sound.after_hold served.hold supported files (.add id vector) (by simp)
    rw [Contents.after, added.1] at hold
    refine ⟨added.1, sound_after, added.2, ?_⟩
    rw [Contents.ofEdits_concat]
    exact hold
  | remove id =>
    have hold := served.sound.after_hold served.hold supported files (.remove id) (by simp)
    have removed := (served.sound.remove_removed served.free id files).1
    have answered := (removed.of_supported supported).1
    rw [Contents.after, answered] at hold
    rw [answered] at removed
    refine ⟨answered, sound_after, removed.free served.free, ?_⟩
    rw [Contents.ofEdits_concat]
    exact hold

theorem Performs.served (performs : Performs settings edits t past)
    (memory : settings.effective.dir = none) (supported : settings.Supported) {width : Nat}
    {known : Finset String} (fits : ∀ e ∈ edits, e.Fits width) (inside : ∀ e ∈ edits, e.id ∈ known)
    (room : Engine.choose settings.preference .here = .graph →
      known.card < settings.effective.tuning.capacity) :
    (∀ m ∈ past, m.Succeeds) ∧ Served settings edits t := by
  obtain ⟨passed, calls⟩ := performs
  induction passed generalizing edits with
  | created files rest made =>
    have nothing : edits = [] := by simpa using calls.symm
    subst nothing
    refine ⟨by simp, create_sound made, ?_, ?_⟩
    · rcases create_cases made with ⟨rfl, _⟩ | ⟨path, _, _, dir, _⟩
      · rfl
      · rw [memory] at dir
        cases dir
    · have hold := (create_hold made).2
      rwa [Contents.initial, memory] at hold
  | @stepped t past _ files op ih =>
    rcases List.eq_nil_or_concat' edits with rfl | ⟨earlier, e, rfl⟩
    · cases calls
    · rw [List.map_append, List.reverse_append] at calls
      obtain ⟨rfl, calls_before⟩ := List.cons.inj calls
      obtain ⟨succeeded, served⟩ := ih (fun e member => fits e (List.mem_append_left _ member))
        (fun e member => inside e (List.mem_append_left _ member)) calls_before
      obtain ⟨succeeds, served⟩ := served.step memory supported fits inside room files
      exact ⟨List.forall_mem_cons.mpr ⟨succeeds, succeeded⟩, served⟩
  | relisted _ active same ih =>
    obtain ⟨succeeded, served⟩ := ih fits inside calls
    exact ⟨succeeded, served.sound.relisted same, served.free, served.hold.perm same.perm⟩

/-- Clients that use ids of their own do not get in each other's way. Every step of theirs succeeds,
whatever the order they come in, the index ends with what each client alone would have left, all
taken together, and so it ends alike for all orders. A graph is to have room for one id more than
there are. -/
theorem Performs.union {n : Nat} {clients : Fin n → List Edit} {steps : List (Fin n × Edit)}
    (performs : Performs settings (steps.map (·.2)) t past)
    (interleaved : Interleaves clients steps) (memory : settings.effective.dir = none)
    (supported : settings.Supported) (apart : Apart clients) (width : Nat)
    (fits : ∀ i, ∀ e ∈ clients i, e.Fits width)
    (room : Engine.choose settings.preference .here = .scan ∨
      (clientIds clients).card < settings.effective.tuning.capacity) :
    (∀ m ∈ past, m.Succeeds) ∧ t.entries.ids.Nodup ∧
      (∀ alone : Fin n → Tiered, (∀ i, ∃ own, Performs settings (clients i) (alone i) own) →
        ∀ entry, entry ∈ t.entries ↔ ∃ i, entry ∈ (alone i).entries) ∧
      ∀ others u later, Interleaves clients others →
        Performs settings (others.map (·.2)) u later → t.entries.Perm u.entries := by
  have room_for_all (graph : Engine.choose settings.preference .here = .graph) :
      (clientIds clients).card < settings.effective.tuning.capacity := by
    rcases room with scan | spare
    · rw [graph] at scan
      cases scan
    · exact spare
  have served_of {order : List (Fin n × Edit)} {u : Tiered} {calls : List Moment}
      (mixed : Interleaves clients order) (performs : Performs settings (order.map (·.2)) u calls) :
      (∀ m ∈ calls, m.Succeeds) ∧ Served settings (order.map (·.2)) u := by
    have owned (e : Edit) (member : e ∈ order.map (·.2)) : ∃ i, e ∈ clients i := by
      obtain ⟨step, present, rfl⟩ := List.mem_map.mp member
      exact ⟨step.1, mixed.mem present⟩
    have fitting (e : Edit) (member : e ∈ order.map (·.2)) : e.Fits width := by
      obtain ⟨i, own⟩ := owned e member
      exact fits i e own
    have inside (e : Edit) (member : e ∈ order.map (·.2)) : e.id ∈ clientIds clients := by
      obtain ⟨i, own⟩ := owned e member
      exact mem_clientIds own
    exact performs.served memory supported fitting inside room_for_all
  have member_iff {order : List (Fin n × Edit)} {u : Tiered} {calls : List Moment}
      (mixed : Interleaves clients order) (performs : Performs settings (order.map (·.2)) u calls)
      (entry : Entry) :
      entry ∈ u.entries ↔ ∃ i, Contents.ofEdits (clients i) entry.id = some entry.vector := by
    rw [← mixed.ofEdits_eq_some_iff apart]
    exact (served_of mixed performs).2.hold.mem_iff entry.id entry.vector
  obtain ⟨succeeded, served⟩ := served_of interleaved performs
  refine ⟨succeeded, served.hold.ids_nodup, ?_, ?_⟩
  · intro alone ran entry
    rw [member_iff interleaved performs]
    apply exists_congr
    intro i
    obtain ⟨own, performs_own⟩ := ran i
    have served_own := (performs_own.served memory supported (fits i)
      (fun e member => mem_clientIds member) room_for_all).2
    exact (served_own.hold.mem_iff entry.id entry.vector).symm
  · intro others u later mixed performs_other
    have unique := (served_of mixed performs_other).2.hold.ids_nodup
    apply (List.perm_ext_iff_of_nodup (served.hold.ids_nodup.of_map _) (unique.of_map _)).mpr
    intro entry
    rw [member_iff interleaved performs, member_iff mixed performs_other]

end

def neighbours : Fin 2 → List Edit :=
  ![[.add "a" [⟨0x3f800000⟩], .remove "a", .add "a" [⟨0x40400000⟩]], [.add "b" [⟨0x40000000⟩]]]

def neighbourly : List (Fin 2 × Edit) :=
  [(0, .add "a" [⟨0x3f800000⟩]), (1, .add "b" [⟨0x40000000⟩]), (0, .remove "a"),
    (0, .add "a" [⟨0x40400000⟩])]

/-- A graph with room for three, promoted by the second client and gone through a tombstone. -/
def blended : Tiered :=
  let start : Tiered :=
    ⟨Settings.effective ⟨1, none, .auto, ⟨0, 0, ⟨0⟩, 0, 3⟩⟩, .scan .empty, false, false⟩
  let grown := (start.after ⟨[], []⟩ (.add "a" [⟨0x3f800000⟩])).after ⟨[], []⟩ (.add "b" [⟨0x40000000⟩])
  (grown.after ⟨[], []⟩ (.remove "a")).after ⟨[], []⟩ (.add "a" [⟨0x40400000⟩])

theorem union_blended :
    blended.mode = .promoted ∧ ∃ past : List Moment, past.length = 4 ∧
      (∀ m ∈ past, m.Succeeds) ∧ blended.entries.ids.Nodup ∧
        (∀ alone : Fin 2 → Tiered, (∀ i, ∃ own, Performs ⟨1, none, .auto, ⟨0, 0, ⟨0⟩, 0, 3⟩⟩
            (neighbours i) (alone i) own) →
          ∀ entry, entry ∈ blended.entries ↔ ∃ i, entry ∈ (alone i).entries) ∧
        ∀ others u later, Interleaves neighbours others →
          Performs ⟨1, none, .auto, ⟨0, 0, ⟨0⟩, 0, 3⟩⟩ (others.map (·.2)) u later →
            blended.entries.Perm u.entries := by
  have start : Passed ⟨1, none, .auto, ⟨0, 0, ⟨0⟩, 0, 3⟩⟩ _ _ := .created ⟨[], []⟩ _ (by rfl)
  have grown := (start.stepped ⟨[], []⟩ (.add "a" [⟨0x3f800000⟩])).stepped ⟨[], []⟩
    (.add "b" [⟨0x40000000⟩])
  have passed := (grown.stepped ⟨[], []⟩ (.remove "a")).stepped ⟨[], []⟩ (.add "a" [⟨0x40400000⟩])
  have performs : Performs _ (neighbourly.map (·.2)) blended _ := ⟨passed, by rfl⟩
  have supported : Settings.Supported ⟨1, none, .auto, ⟨0, 0, ⟨0⟩, 0, 3⟩⟩ := fun _ =>
    Tuning.supported_of_held (by decide) (by decide)
  exact ⟨by rfl, _, by rfl, Performs.union performs (by decide) (by rfl) supported (by decide) 1
    (by decide) (Or.inr (by decide))⟩

/-- Two clients that each add one entry, where a promotion crashes. -/
theorem crash_between_neighbours :
    ¬ ∀ (settings : Settings) (t : Tiered) (past : List Moment) (n : Nat)
      (clients : Fin n → List Edit) (steps : List (Fin n × Edit)),
      Performs settings (steps.map (·.2)) t past → Interleaves clients steps →
      settings.effective.dir = none → Apart clients → (∀ i, ∀ e ∈ clients i, e.Fits 1) →
      (Engine.choose settings.preference .here = .scan ∨
        (clientIds clients).card < settings.effective.tuning.capacity) →
      ∀ m ∈ past, m.Succeeds := by
  intro succeed
  have start : Passed sprawling _ _ := .created ⟨[], []⟩ _ (by rfl)
  have passed := (start.stepped ⟨[], []⟩ (.add "a" [⟨0x3f800000⟩])).stepped ⟨[], []⟩
    (.add "b" [⟨0x40000000⟩])
  have succeeded := succeed sprawling _ _ 2
    ![[.add "a" [⟨0x3f800000⟩]], [.add "b" [⟨0x40000000⟩]]]
    [(0, .add "a" [⟨0x3f800000⟩]), (1, .add "b" [⟨0x40000000⟩])] ⟨passed, by rfl⟩ (by decide) (by rfl)
    (by decide) (by decide) (Or.inr (by decide)) _ List.mem_cons_self
  cases succeeded

end Tiered

end EmbeddingIndex
