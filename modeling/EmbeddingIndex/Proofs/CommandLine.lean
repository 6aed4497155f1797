import EmbeddingIndex.CommandLine
import Mathlib.Data.List.Basic
/-!
Every value that the command line hands on has passed its own check.
-/

namespace EmbeddingIndex.CommandLine

namespace Taken

def Checked (t : Taken) : Prop := ∀ pair ∈ t.given, pair.1.fault? pair.2 = .none

theorem checked_none : Taken.none.Checked := by simp [Checked, Taken.none]

variable {t u : Taken}

theorem Checked.fault_of_get (checked : t.Checked) {p : Parameter} {value : String}
    (given : t.get? p = some value) : p.fault? value = .none := by
  obtain ⟨before, after, split, _⟩ := List.lookup_eq_some_iff.mp given
  apply checked (p, value)
  rw [split]
  exact List.mem_append_right _ List.mem_cons_self

theorem Checked.store (checked : t.Checked) {p : Parameter} {value : String}
    (stored : t.store p value = .ok u) : u.Checked := by
  rw [Taken.store] at stored
  split at stored
  · cases stored
  · cases fault : p.fault? value with
    | some cause =>
      rw [fault] at stored
      cases stored
    | none =>
      rw [fault] at stored
      cases stored
      intro pair member
      rcases List.mem_append.mp member with old | new
      · exact checked pair old
      · rw [List.mem_singleton.mp new]
        exact fault

theorem Checked.settle (checked : t.Checked) (settled : t.settle = .ok u) : u.Checked := by
  rw [Taken.settle] at settled
  rcases pending : t.pending with _ | ⟨p, _ | value⟩
  · rw [pending] at settled
    cases settled
    exact checked
  · rw [pending] at settled
    cases settled
  · rw [pending] at settled
    have cleared : Checked { t with pending := .none } := checked
    exact cleared.store settled

theorem Checked.begin (checked : t.Checked) {p : Parameter} {attached : Option String}
    (begun : t.begin p attached = .ok u) : u.Checked := by
  rw [Taken.begin] at begun
  cases settled : t.settle with
  | error fault =>
    rw [settled] at begun
    cases begun
  | ok next =>
    rw [settled] at begun
    have still := checked.settle settled
    cases attached with
    | some value => exact still.store begun
    | none =>
      cases begun
      exact still

theorem Checked.request (checked : t.Checked) {r : Request} {attached : Option String}
    (taken : t.request r attached = .ok u) : u.Checked := by
  cases r with
  | option p => exact checked.begin taken
  | help =>
    rw [Taken.request] at taken
    split at taken
    · cases taken
    · cases settled : t.settle <;> rw [settled] at taken <;> cases taken
  | version =>
    rw [Taken.request] at taken
    split at taken
    · cases taken
    · cases settled : t.settle <;> rw [settled] at taken <;> cases taken

theorem Checked.readShort (checked : t.Checked) {l : Level} {letters : List Char}
    (taken : readShort l t letters = .ok u) : u.Checked := by
  cases letters with
  | nil =>
    cases taken
    exact checked
  | cons letter rest =>
    rw [CommandLine.readShort] at taken
    cases found : l.findShort letter with
    | none =>
      rw [found] at taken
      cases taken
    | some r =>
      rw [found] at taken
      cases r with
      | option p => exact checked.begin taken
      | help => exact checked.request taken
      | version => exact checked.request taken

end Taken

open Taken

theorem checked_of_readArguments {l : Level} {t u : Taken} {trailing filled : Bool}
    {arguments : List String} (checked : t.Checked)
    (taken : readArguments l t trailing filled arguments = .ok u) : u.Checked := by
  induction arguments generalizing t trailing filled with
  | nil =>
    cases taken
    exact checked
  | cons argument rest ih =>
    -- A positional argument waits to be checked: it settles the parameter before it.
    have positional {next : Taken} (settled : t.settle = .ok next) (p : Parameter) (trailing : Bool)
        (taken : readArguments l { next with pending := some (p, some argument) } trailing true rest =
          .ok u) : u.Checked := by
      have unchanged := checked.settle settled
      have still : Checked { next with pending := some (p, some argument) } := unchanged
      exact ih still taken
    rw [readArguments] at taken
    split at taken
    -- Behind a double dash.
    · split at taken
      · split at taken
        · cases taken
        · split at taken
          · cases taken
          · rename_i settled
            exact positional settled _ _ taken
      · cases taken
    -- Before it, by the shape of the argument: a double dash, a long option, letters or a word.
    · split at taken
      · exact ih checked taken
      · split at taken
        · cases taken
        · split at taken
          · cases taken
          · rename_i requested
            exact ih (checked.request requested) taken
      · split at taken
        · cases taken
        · rename_i short
          exact ih (checked.readShort short) taken
      · split at taken
        · have supplied : (t.supply argument).Checked := checked
          exact ih supplied taken
        · split at taken
          · split at taken
            · cases taken
            · split at taken
              · cases taken
              · rename_i settled
                exact positional settled _ _ taken
          · cases taken

theorem checked_of_readLevel {l : Level} {u : Taken} {arguments : List String}
    (taken : readLevel l arguments = .ok u) : u.Checked := by
  rw [readLevel] at taken
  split at taken
  · cases taken
  · rename_i arguments_taken
    split at taken
    · cases taken
    · rename_i settled
      split at taken
      · cases taken
        exact (checked_of_readArguments checked_none arguments_taken).settle settled
      · cases taken

theorem checked_of_readTop {t : Taken} {trailing : Bool} {arguments : List String}
    {invocation : Invocation} (found : readTop t trailing arguments = .ok invocation) :
    ∃ verb taken, Checked taken ∧ invocation.command = commandOf verb taken := by
  induction arguments generalizing t trailing with
  | nil =>
    rw [readTop] at found
    split at found <;> cases found
  | cons argument rest ih =>
    rw [readTop] at found
    split at found
    · split at found <;> cases found
    · split at found
      · cases found
      · rename_i verb _ _
        rw [finish] at found
        split at found
        · cases found
        · rename_i inner inner_read
          split at found
          · cases found
          · cases found
            exact ⟨verb, inner, checked_of_readLevel inner_read, rfl⟩
      · split at found
        · exact ih found
        · split at found
          · cases found
          · split at found
            · cases found
            · exact ih found
        · split at found
          · cases found
          · exact ih found
        · split at found
          · exact ih found
          · cases found

theorem dir_ne_empty_of_parse {arguments : List String} {config : Option String} {records : String}
    {dir : Option String} {threshold : Option Nat}
    (parsed : parse arguments = .ok ⟨config, .index records dir threshold⟩) :
    dir ≠ some "" := by
  obtain ⟨verb, taken, checked, command_eq⟩ := checked_of_readTop parsed
  rintro rfl
  cases verb with
  | index =>
    simp only [commandOf, Command.index.injEq] at command_eq
    have passed := checked.fault_of_get command_eq.2.1.symm
    cases passed
  | init => cases command_eq
  | search => cases command_eq
  | inspect => cases command_eq
  | help => cases command_eq

end EmbeddingIndex.CommandLine
