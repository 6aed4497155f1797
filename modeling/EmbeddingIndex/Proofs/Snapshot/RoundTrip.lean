import EmbeddingIndex.Snapshot.Frame
import Mathlib.Algebra.Group.Nat.Defs
import Mathlib.Data.List.Basic
/-!
A snapshot is read back from its bytes, whatever follows them.
-/

namespace EmbeddingIndex

/-- Lengths fit a word of 64 bits and ids a block of memory, as everything held by a machine of
such words does. -/
structure Entries.Addressable (entries : Entries) : Prop where
  count : entries.length < 2 ^ 64
  ids : ∀ entry ∈ entries, Memory.holds (utf8 entry.id).length 1 = true
  vectors : ∀ entry ∈ entries, entry.vector.length < 2 ^ 64

structure Snapshot.Addressable (s : Snapshot) : Prop where
  width : ∀ width, s.width = some width → width < 2 ^ 64
  entries : s.entries.Addressable

theorem Entries.Addressable.snapshot {entries : Entries} (addressable : entries.Addressable) :
    (Snapshot.ofEntries entries.width entries).Addressable where
  width width established := by
    obtain ⟨entry, first, rfl⟩ := Option.map_eq_some_iff.mp established
    exact addressable.vectors entry (List.mem_of_head? first)
  entries := addressable

theorem Memory.lt_of_holds {count : Nat} (held : holds count 1 = true) : count < 2 ^ 64 := by
  have bound : count * 1 ≤ largestBlock := of_decide_eq_true held
  rw [largestBlock] at bound
  omega

theorem Varint.decode_four_append (n : Nat) (small : n < 2 ^ 32) (rest : Bytes) :
    Varint.decode 4 (Varint.encode n ++ rest) = some (n, rest) := by
  rw [Varint.encode]
  by_cases byte : n < 251
  · have lead : (UInt8.ofNat n).toNat = n := by
      rw [UInt8.toNat_ofNat', Nat.mod_eq_of_lt (by omega)]
    have fits : UInt8.ofNat n < 251 := by
      rw [UInt8.lt_iff_toNat_lt, lead]
      exact byte
    rw [if_pos byte]
    simp only [List.cons_append, List.nil_append, Varint.decode, if_pos fits, lead]
  · by_cases short : n < 0x10000
    · rw [if_neg byte, if_pos short]
      exact LittleEndian.decode_encode_append 2 n short rest
    · have word : n < 0x100000000 := small
      rw [if_neg byte, if_neg short, if_pos word]
      exact LittleEndian.decode_encode_append 4 n word rest

namespace Payload

theorem expect_of_some {α : Type} {read : Reader α} {bytes : Bytes} {found : α × Bytes}
    (reads : read bytes = some found) : expect read bytes = .ok found := by
  simp only [expect, reads]

theorem expect_varint (n : Nat) (small : n < 2 ^ 64) (rest : Bytes) :
    expect (Varint.decode 8) (Varint.encode n ++ rest) = .ok (n, rest) :=
  expect_of_some (Varint.decode_encode_append n small rest)

theorem readMany_append {α : Type} (read : Intake α) (write : α → Bytes) (values : List α)
    (rest : Bytes)
    (each : ∀ value ∈ values, ∀ rest, read (write value ++ rest) = .ok (value, rest)) :
    readMany read values.length (values.flatMap write ++ rest) = .ok (values, rest) := by
  induction values with
  | nil => rfl
  | cons value values ih =>
    have first := each value List.mem_cons_self (values.flatMap write ++ rest)
    have later := ih fun other member => each other (List.mem_cons_of_mem value member)
    rw [List.length_cons, List.flatMap_cons, List.append_assoc, readMany, first]
    simp only [later]

theorem readComponent_append (x : Binary32) (rest : Bytes) :
    readComponent (encodeComponent x ++ rest) = .ok (x, rest) := by
  have small : x.bits.toNat < LittleEndian.capacity 4 := by
    have bound := x.bits.toNat_lt
    simp only [LittleEndian.capacity]
    omega
  have reads := LittleEndian.decode_encode_append 4 x.bits.toNat small rest
  rw [readComponent, encodeComponent, expect_of_some reads]
  simp

theorem readWidth_append (width : Option Nat) (small : ∀ w, width = some w → w < 2 ^ 64)
    (rest : Bytes) : readWidth (encodeWidth width ++ rest) = .ok (width, rest) := by
  cases width with
  | none => rfl
  | some width =>
    rw [encodeWidth, List.cons_append, readWidth, expect_varint width (small width rfl)]

theorem readText_append (text : String) (held : Memory.holds (utf8 text).length 1 = true)
    (rest : Bytes) : readText (encodeText text ++ rest) = .ok (text, rest) := by
  have small := Memory.lt_of_holds held
  have enough : ¬ (utf8 text ++ rest).length < (utf8 text).length := by
    rw [List.length_append]
    omega
  rw [readText, encodeText, List.append_assoc, expect_varint _ small]
  simp only [held, Bool.not_true, Bool.false_eq_true, if_false, if_neg enough, List.take_left,
    text?_utf8, List.drop_left]

theorem readVector_append (vector : Embedding) (small : vector.length < 2 ^ 64) (rest : Bytes) :
    readVector (encodeVector vector ++ rest) = .ok (vector, rest) := by
  rw [readVector, encodeVector, List.append_assoc, expect_varint _ small]
  exact readMany_append readComponent encodeComponent vector rest fun x _ => readComponent_append x

theorem readEntry_append (entry : Entry) (held : Memory.holds (utf8 entry.id).length 1 = true)
    (small : entry.vector.length < 2 ^ 64) (rest : Bytes) :
    readEntry (encodeEntry entry ++ rest) = .ok (entry, rest) := by
  rw [readEntry, encodeEntry, List.append_assoc, readText_append _ held]
  simp only [readVector_append _ small]

theorem read_append (s : Snapshot) (addressable : s.Addressable) (rest : Bytes) :
    read (encode s ++ rest) = .ok (s, rest) := by
  have version : s.version.toNat < 2 ^ 32 := s.version.toNat_lt
  have entries := readMany_append readEntry encodeEntry s.entries rest fun entry member =>
    readEntry_append entry (addressable.entries.ids entry member)
      (addressable.entries.vectors entry member)
  rw [read, encode]
  simp only [List.append_assoc]
  rw [expect_of_some (Varint.decode_four_append _ version _)]
  simp only [readWidth_append _ addressable.width, expect_varint _ addressable.entries.count, entries]
  simp

end Payload

theorem Frame.unwrap_wrap (digest : Digest) (payload : Bytes) :
    unwrap digest (wrap digest payload) = .ok payload := by
  have digest_length : (digest.run payload).length = digestSize := digest.length_run payload
  have long : ¬ (wrap digest payload).length < mark.length + digestSize := by
    rw [wrap, List.length_append, List.length_append, digest_length]
    omega
  have marked : (wrap digest payload).take mark.length = mark := by
    rw [wrap, List.append_assoc, List.take_left]
  have behind : (wrap digest payload).drop mark.length = digest.run payload ++ payload := by
    rw [wrap, List.append_assoc, List.drop_left]
  have split : (digest.run payload ++ payload).drop digestSize = payload := by
    rw [← digest_length, List.drop_left]
  have front : (digest.run payload ++ payload).take digestSize = digest.run payload := by
    rw [← digest_length, List.take_left]
  rw [unwrap, behind]
  simp only [long, marked, split, front, decide_false, ne_eq, not_true_eq_false, Bool.or_self,
    Bool.false_eq_true, if_false, if_true]

theorem Snapshot.decode_encode (digest : Digest) (s : Snapshot) (addressable : s.Addressable)
    (current : s.version = currentVersion) : decode digest (encode digest s) = .ok s := by
  have payload := Payload.read_append s addressable []
  rw [List.append_nil] at payload
  rw [decode, encode, Frame.unwrap_wrap]
  simp only [payload, if_pos current]

end EmbeddingIndex
