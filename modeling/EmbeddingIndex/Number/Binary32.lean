import EmbeddingIndex.Number.Rounding
/-!
Single-precision numbers by their bits. Arithmetic rounds to nearest even; a NaN operand passes
its payload on, and an operation without a value gives the negative quiet NaN.
-/

namespace EmbeddingIndex

structure Binary32 where
  bits : UInt32
  deriving DecidableEq, Repr, Inhabited

namespace Binary32

def zero : Binary32 := ⟨0⟩

def magnitude (x : Binary32) : UInt32 := x.bits &&& 0x7fffffff

def isNaN (x : Binary32) : Bool := 0x7f800000 < x.magnitude

def isFinite (x : Binary32) : Bool := x.magnitude < 0x7f800000

def isZero (x : Binary32) : Bool := x.magnitude == 0

def isNegative (x : Binary32) : Bool := 0x80000000 ≤ x.bits

def quiet (x : Binary32) : Binary32 := ⟨x.bits ||| 0x00400000⟩

def invalid : Binary32 := ⟨0xffc00000⟩

def ofResult (x : Float32) : Binary32 := if x.isNaN then invalid else ⟨x.toBits⟩

/-- An operation on numbers, with the first NaN operand, quieted, as its result if there is one. -/
def combine (op : Float32 → Float32 → Float32) (x y : Binary32) : Binary32 :=
  if x.isNaN then x.quiet
  else if y.isNaN then y.quiet
  else ofResult (op (Float32.ofBits x.bits) (Float32.ofBits y.bits))

instance : Add Binary32 := ⟨combine (· + ·)⟩
instance : Sub Binary32 := ⟨combine (· - ·)⟩
instance : Mul Binary32 := ⟨combine (· * ·)⟩
instance : Div Binary32 := ⟨combine (· / ·)⟩

def sqrt (x : Binary32) : Binary32 :=
  if x.isNaN then x.quiet else ofResult (Float32.ofBits x.bits).sqrt

/-- Position in the total order of all bit patterns: negative NaN, negative numbers, -0, +0,
positive numbers, positive NaN. -/
def rankKey (x : Binary32) : Nat :=
  if x.isNegative then 0xffffffff - x.bits.toNat else 0x80000000 + x.bits.toNat

theorem isNegative_iff (x : Binary32) : x.isNegative = true ↔ 0x80000000 ≤ x.bits.toNat := by
  rw [isNegative, decide_eq_true_eq, UInt32.le_iff_toNat_le]
  rfl

theorem rankKey_lt (x : Binary32) : x.rankKey < 0x100000000 := by
  have bound := x.bits.toNat_lt
  simp only [rankKey, isNegative_iff]
  split <;> omega

theorem rankKey_injective {x y : Binary32} (same : x.rankKey = y.rankKey) : x = y := by
  have wordX := x.bits.toNat_lt
  have wordY := y.bits.toNat_lt
  have bits : x.bits.toNat = y.bits.toNat := by
    simp only [rankKey, isNegative_iff] at same
    split at same <;> split at same <;> omega
  cases x
  cases y
  exact congrArg mk (UInt32.toNat_inj.mp bits)

def descendingKey (x : Binary32) : Nat := 0xffffffff - x.rankKey

theorem descendingKey_le_iff (x y : Binary32) :
    x.descendingKey ≤ y.descendingKey ↔ y.rankKey ≤ x.rankKey := by
  have boundX := x.rankKey_lt
  have boundY := y.rankKey_lt
  unfold descendingKey
  omega

def ofMagnitude (negative : Bool) (magnitude : Nat) : Binary32 :=
  ⟨UInt32.ofNat (if negative then 0x80000000 + magnitude else magnitude)⟩

def ofInt (n : Int) : Binary32 := ofMagnitude (n < 0) (FloatFormat.single.nearest n.natAbs 1)

end Binary32

end EmbeddingIndex
