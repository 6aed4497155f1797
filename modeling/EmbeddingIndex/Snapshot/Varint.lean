import EmbeddingIndex.Text.Bytes
/-!
Little-endian words, and naturals in one, three, five or nine bytes.
-/

namespace EmbeddingIndex

/-- A reader takes a value off the front of a byte string and hands back the rest. -/
abbrev Reader (α : Type) := Bytes → Option (α × Bytes)

namespace LittleEndian

def encode : Nat → Nat → Bytes
  | 0, _ => []
  | width + 1, n => UInt8.ofNat n :: encode width (n / 256)

def decode : Nat → Reader Nat
  | 0, bytes => some (0, bytes)
  | _ + 1, [] => none
  | width + 1, byte :: rest =>
    match decode width rest with
    | some (high, rest) => some (byte.toNat + 256 * high, rest)
    | none => none

def capacity : Nat → Nat
  | 0 => 1
  | width + 1 => capacity width * 256

theorem length_encode (width n : Nat) : (encode width n).length = width := by
  induction width generalizing n with
  | zero => rfl
  | succ width ih => simp only [encode, List.length_cons, ih]

theorem decode_encode_append (width n : Nat) (small : n < capacity width) (rest : Bytes) :
    decode width (encode width n ++ rest) = some (n, rest) := by
  induction width generalizing n with
  | zero =>
    have zero : n = 0 := Nat.lt_one_iff.mp small
    simp [encode, decode, zero]
  | succ width ih =>
    have high : n / 256 < capacity width :=
      (Nat.div_lt_iff_lt_mul (by decide : 0 < 256)).mpr small
    simp only [encode, List.cons_append, decode, ih _ high]
    simp only [UInt8.toNat_ofNat', Option.some.injEq, Prod.mk.injEq, and_true]
    exact Nat.mod_add_div n 256

end LittleEndian

namespace Varint

/-- A small number is its own byte; otherwise the byte tells the width of what follows. -/
def encode (n : Nat) : Bytes :=
  if n < 251 then [UInt8.ofNat n]
  else if n < 0x10000 then 251 :: LittleEndian.encode 2 n
  else if n < 0x100000000 then 252 :: LittleEndian.encode 4 n
  else 253 :: LittleEndian.encode 8 n

/-- Reads numbers whose following bytes are at most `widest`, also those that would have fit in
fewer. -/
def decode (widest : Nat) : Reader Nat
  | [] => none
  | lead :: rest =>
    if lead < 251 then some (lead.toNat, rest)
    else if lead = 251 && 2 ≤ widest then LittleEndian.decode 2 rest
    else if lead = 252 && 4 ≤ widest then LittleEndian.decode 4 rest
    else if lead = 253 && 8 ≤ widest then LittleEndian.decode 8 rest
    else none

theorem decode_encode_append (n : Nat) (small : n < 0x10000000000000000) (rest : Bytes) :
    decode 8 (encode n ++ rest) = some (n, rest) := by
  unfold encode
  split
  · rename_i byte
    have lead : (UInt8.ofNat n).toNat = n := by
      rw [UInt8.toNat_ofNat', Nat.mod_eq_of_lt (by omega)]
    have fits : UInt8.ofNat n < 251 := by
      rw [UInt8.lt_iff_toNat_lt, lead]
      exact byte
    simp only [List.cons_append, List.nil_append, decode, if_pos fits, lead]
  · split
    · exact LittleEndian.decode_encode_append 2 n
          (by simp only [LittleEndian.capacity]; omega) rest
    · split
      · exact LittleEndian.decode_encode_append 4 n
          (by simp only [LittleEndian.capacity]; omega) rest
      · exact LittleEndian.decode_encode_append 8 n
          (by simp only [LittleEndian.capacity]; omega) rest

end Varint

end EmbeddingIndex
