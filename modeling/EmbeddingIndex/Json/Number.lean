import EmbeddingIndex.Number.Binary64
/-!
Numbers of a JSON text and their values. The leading digits that fit in 64 bits make up a
significand, and a power of ten scales it in double precision.
-/

namespace EmbeddingIndex

structure JsonNumber where
  negative : Bool
  whole : List Nat
  fraction : List Nat
  exponent : Option Int
  deriving DecidableEq, Repr

namespace JsonNumber

def significandLimit : Nat := 0x10000000000000000

/-- Appends digits to a significand while it stays within the limit, and tells how many were left. -/
def absorb : Nat → List Nat → Nat × Nat
  | significand, [] => (significand, 0)
  | significand, digit :: rest =>
    let longer := significand * 10 + digit
    if longer < significandLimit then absorb longer rest else (significand, rest.length + 1)

def powerOfTen (exponent : Nat) : Binary64 := .ofNat (Nat.pow 10 exponent)

def widestStep : Nat := 308

/-- `f · 10 ^ exponent`, unless that is too large. Every step rounds. -/
def scale : Nat → Binary64 → Int → Option Binary64
  | 0, f, _ => some f
  | fuel + 1, f, exponent =>
    if exponent.natAbs ≤ widestStep then
      if 0 ≤ exponent then
        let scaled := f * powerOfTen exponent.toNat
        if scaled.isFinite then some scaled else none
      else some (f / powerOfTen exponent.natAbs)
    else if f.isZero then some f
    else if 0 ≤ exponent then none
    else scale fuel (f / powerOfTen widestStep) (exponent + widestStep)

def widestExponent : Nat := 0x7fffffff

def signed (negative : Bool) (f : Binary64) : Binary64 := if negative then f.negate else f

/-- The value in single precision, unless the number is too large for double precision. A whole
number that fits in 64 bits is rounded once, any other twice. -/
def toBinary32? (n : JsonNumber) : Option Binary32 :=
  let (head, wholeLeft) := absorb 0 n.whole
  let (significand, fractionLeft) := absorb head n.fraction
  let exponent := (wholeLeft : Int) - ((n.fraction.length : Int) - fractionLeft)
  let start := Binary64.ofNat significand
  let double := fun f => some (signed n.negative f).toBinary32
  match n.exponent with
  | some power =>
    if widestExponent < power.natAbs then
      if significand ≠ 0 && 0 < power then none else double (.ofNat 0)
    else (scale 8 start (exponent + power)).bind double
  | none =>
    if n.fraction.isEmpty && wholeLeft = 0 then
      if n.negative then
        if significand = 0 || 0x8000000000000000 < significand then double start
        else some (.ofInt (-(significand : Int)))
      else some (.ofInt significand)
    else (scale 8 start exponent).bind double

end JsonNumber

end EmbeddingIndex
