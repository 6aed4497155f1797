import EmbeddingIndex.Record
import Mathlib.Data.List.Count
/-!
Records read from texts that follow one another. A text of whole lines does not show in what is
read from the text behind it, but for the numbers of its lines.
-/

namespace EmbeddingIndex

namespace Lines

/-- Nothing, or lines of which the last is ended too. -/
def Whole (bytes : Bytes) : Prop := bytes = [] ∨ bytes.getLast? = some newline

instance (bytes : Bytes) : Decidable (Whole bytes) := inferInstanceAs (Decidable (_ ∨ _))

theorem split_cons (line : Bytes) (byte : UInt8) (rest : Bytes) :
    split line (byte :: rest) =
      if byte = newline then dropReturn line.reverse :: split [] rest
      else split (byte :: line) rest := by
  rw [split]

theorem split_ended (line front rest : Bytes) :
    split line (front ++ newline :: rest) = split line (front ++ [newline]) ++ split [] rest := by
  induction front generalizing line with
  | nil => simp [split]
  | cons byte front ih =>
    simp only [List.cons_append, split_cons, ih]
    split <;> simp

theorem length_split_ended (line front : Bytes) :
    (split line (front ++ [newline])).length = (front ++ [newline]).count newline := by
  induction front generalizing line with
  | nil => simp [split]
  | cons byte front ih =>
    rw [List.cons_append, split_cons, List.count_cons]
    by_cases here : byte = newline <;> simp [here, ih]

theorem Whole.ofBytes_append {a : Bytes} (whole : Whole a) (b : Bytes) :
    ofBytes (a ++ b) = ofBytes a ++ ofBytes b := by
  rcases whole with rfl | ended
  · rfl
  · obtain ⟨front, rfl⟩ := List.getLast?_eq_some_iff.mp ended
    rw [List.append_assoc]
    exact split_ended [] front b

theorem Whole.length_ofBytes {a : Bytes} (whole : Whole a) :
    (ofBytes a).length = a.count newline := by
  rcases whole with rfl | ended
  · rfl
  · obtain ⟨front, rfl⟩ := List.getLast?_eq_some_iff.mp ended
    exact length_split_ended [] front

end Lines

def RecordFault.after {ε : Type} (lines : Nat) : RecordFault ε → RecordFault ε
  | line number (e := e) => line (lines + number) (e := e)
  | notUtf8 => notUtf8

section

variable {ε : Type} (parse : String → Except ε Entry)

theorem readLines_append (number : Nat) (first last : List Bytes) :
    readLines parse number (first ++ last) =
      (readLines parse number first).bind fun records =>
        (readLines parse (number + first.length) last).map (records ++ ·) := by
  induction first generalizing number with
  | nil =>
    change readLines parse number last = (readLines parse number last).map ([] ++ ·)
    rcases readLines parse number last with fault | records <;> rfl
  | cons line rest ih =>
    have behind : number + (line :: rest).length = number + 1 + rest.length := by
      rw [List.length_cons]
      omega
    rw [behind, List.cons_append, readLines, readLines]
    cases text? line with
    | none => rfl
    | some text =>
      simp only
      split
      · exact ih (number + 1)
      · cases parse text with
        | error cause => rfl
        | ok record =>
          simp only [ih (number + 1)]
          rcases readLines parse (number + 1) rest with fault | records
          · rfl
          · rcases readLines parse (number + 1 + rest.length) last with fault | more <;> rfl

theorem readLines_after (skipped number : Nat) (lines : List Bytes) :
    readLines parse (skipped + number) lines =
      (readLines parse number lines).mapError (·.after skipped) := by
  induction lines generalizing number with
  | nil => rfl
  | cons line rest ih =>
    rw [readLines, readLines, Nat.add_assoc, ih]
    cases text? line with
    | none => rfl
    | some text =>
      simp only
      split
      · rfl
      · cases parse text with
        | error cause => rfl
        | ok record => rcases readLines parse (number + 1) rest with fault | records <;> rfl

theorem Lines.Whole.readRecords_eq {a : Bytes} (whole : Whole a) (b : Bytes) :
    readRecords parse (a ++ b) =
      (readRecords parse a).bind fun records =>
        ((readRecords parse b).mapError (·.after (a.count newline))).map (records ++ ·) := by
  rw [readRecords, whole.ofBytes_append, readLines_append, whole.length_ofBytes, Nat.add_comm 1]
  simp only [readLines_after, readRecords]

def IsBlankLine (line : Bytes) : Prop :=
  ∃ text, text? line = some text ∧ text.toList.all isBlank = true

theorem readLines_of_blank (number : Nat) (lines : List Bytes)
    (blank : ∀ line ∈ lines, IsBlankLine line) : readLines parse number lines = .ok [] := by
  induction lines generalizing number with
  | nil => rfl
  | cons line rest ih =>
    obtain ⟨text, spelled, white⟩ := blank line List.mem_cons_self
    simp only [readLines, spelled, if_pos white]
    exact ih (number + 1) fun other member => blank other (List.mem_cons_of_mem line member)

def lineFault (line : Bytes) (number : Nat) : Option (RecordFault ε) :=
  match text? line with
  | none => some .notUtf8
  | some text =>
    if text.toList.all isBlank then none
    else
      match parse text with
      | .error e => some (.line number (e := e))
      | .ok _ => none

def firstFault (number : Nat) (lines : List Bytes) : Option (RecordFault ε) :=
  (lines.zipIdx number).findSome? fun pair => lineFault parse pair.1 pair.2

theorem firstFault_cons (number : Nat) (line : Bytes) (rest : List Bytes) :
    firstFault parse number (line :: rest) =
      (lineFault parse line number).or (firstFault parse (number + 1) rest) := by
  rw [firstFault, List.zipIdx_cons, List.findSome?_cons]
  cases lineFault parse line number <;> rfl

theorem readLines_eq_error_iff (number : Nat) (lines : List Bytes) (fault : RecordFault ε) :
    readLines parse number lines = .error fault ↔ firstFault parse number lines = some fault := by
  induction lines generalizing number with
  | nil => simp [readLines, firstFault]
  | cons line rest ih =>
    rw [readLines, firstFault_cons, lineFault]
    cases text? line with
    | none => simp
    | some text =>
      by_cases white : text.toList.all isBlank = true
      · simp only [if_pos white, Option.none_or]
        exact ih (number + 1)
      · simp only [if_neg white]
        cases parse text with
        | error cause => simp
        | ok record =>
          simp only [Option.none_or, ← ih (number + 1)]
          rcases readLines parse (number + 1) rest with own | records <;> simp [Except.map]

/-- Records of a text of whole lines and of what follows are read one after the other. The fault
that is told is the first one, with the number of its line in all of the text, and blank lines
between the two change no record. -/
theorem readRecords_append (a b : Bytes) (whole : Lines.Whole a) :
    (∀ fault, readRecords parse a = .error fault → readRecords parse (a ++ b) = .error fault) ∧
      (∀ first last, readRecords parse a = .ok first → readRecords parse b = .ok last →
        readRecords parse (a ++ b) = .ok (first ++ last)) ∧
      (∀ first fault, readRecords parse a = .ok first → readRecords parse b = .error fault →
        readRecords parse (a ++ b) = .error (fault.after (a.count Lines.newline))) ∧
      (∀ fault, readRecords parse (a ++ b) = .error fault ↔
        firstFault parse 1 (Lines.ofBytes a ++ Lines.ofBytes b) = some fault) ∧
      ∀ blank, Lines.Whole blank → (∀ line ∈ Lines.ofBytes blank, IsBlankLine line) →
        readRecords parse blank = .ok [] ∧
          ∀ records, readRecords parse (a ++ blank ++ b) = .ok records ↔
            readRecords parse (a ++ b) = .ok records := by
  refine ⟨?_, ?_, ?_, ?_, ?_⟩
  · intro fault failed
    rw [whole.readRecords_eq, failed]
    rfl
  · intro first last before behind
    rw [whole.readRecords_eq, before, behind]
    rfl
  · intro first fault before failed
    rw [whole.readRecords_eq, before, failed]
    rfl
  · intro fault
    rw [← whole.ofBytes_append]
    exact readLines_eq_error_iff parse 1 _ fault
  · intro blank ended white
    have nothing : readRecords parse blank = .ok [] := readLines_of_blank parse 1 _ white
    refine ⟨nothing, fun records => ?_⟩
    rw [List.append_assoc, whole.readRecords_eq, whole.readRecords_eq,
      ended.readRecords_eq, nothing]
    rcases readRecords parse a with fault | first
    · rfl
    · rcases readRecords parse b with fault | last
      · simp [Except.bind, Except.map, Except.mapError]
      · rfl

end

def spaced : Bytes := utf8 "[\"a\",[1]]\r\n \t\n"

def broken : Bytes := utf8 "\n\x7b\"id\":\"b\",\"vector\":[2]\x7d\n[\"c\","

theorem readRecords_append_broken :
    Lines.Whole spaced ∧ readRecords parseRecord spaced = .ok [⟨"a", [⟨0x3f800000⟩]⟩] ∧
      readRecords parseRecord broken = .error (.line 3 (e := "not a record")) ∧
      readRecords parseRecord (spaced ++ broken) =
        .error (.line 5 (e := "not a record")) := by
  have whole : Lines.Whole spaced := by decide +kernel
  have before : readRecords parseRecord spaced = .ok [⟨"a", [⟨0x3f800000⟩]⟩] := by
    decide +kernel
  have failed : readRecords parseRecord broken = .error (.line 3 (e := "not a record")) := by
    decide +kernel
  obtain ⟨_, _, behind, _⟩ := readRecords_append parseRecord spaced broken whole
  exact ⟨whole, before, failed, behind _ _ before failed⟩

end EmbeddingIndex
