import EmbeddingIndex.Number.Binary32
/-!
Double-precision numbers by their bits: conversion from decimals and to single precision.
-/

namespace EmbeddingIndex

structure Binary64 where
  bits : UInt64
  deriving DecidableEq, Repr, Inhabited

namespace Binary64

def signBit : Nat := 0x8000000000000000

def isNegative (x : Binary64) : Bool := signBit ≤ x.bits.toNat

def magnitude (x : Binary64) : Nat := x.bits.toNat % signBit

def infinity : Binary64 := ⟨0x7ff0000000000000⟩
def negativeInfinity : Binary64 := ⟨0xfff0000000000000⟩
def notANumber : Binary64 := ⟨0x7ff8000000000000⟩

def isNaN (x : Binary64) : Bool := FloatFormat.double.infinity < x.magnitude

def isFinite (x : Binary64) : Bool := x.magnitude < FloatFormat.double.infinity

def isZero (x : Binary64) : Bool := x.magnitude = 0

def isPositive (x : Binary64) : Bool := !x.isNegative && !x.isZero && !x.isNaN

def ofMagnitude (negative : Bool) (magnitude : Nat) : Binary64 :=
  ⟨UInt64.ofNat (if negative then signBit + magnitude else magnitude)⟩

def negate (x : Binary64) : Binary64 := ofMagnitude (!x.isNegative) x.magnitude

def ofNat (n : Nat) : Binary64 := ofMagnitude false (FloatFormat.double.nearest n 1)

def digitCount (n : Nat) : Nat := if n = 0 then 0 else (Nat.toDigits 10 n).length

/-- The number nearest to `± digits · 10 ^ exponent`. Exponents far outside the format's range
are decided by the count of digits alone. -/
def ofDecimal (negative : Bool) (digits : Nat) (exponent : Int) : Binary64 :=
  let top := exponent + digitCount digits
  ofMagnitude negative <|
    if digits = 0 || top < -400 then 0
    else if 400 < top then FloatFormat.double.infinity
    else if 0 ≤ exponent then FloatFormat.double.nearest (digits * Nat.pow 10 exponent.toNat) 1
    else FloatFormat.double.nearest digits (Nat.pow 10 (-exponent).toNat)

instance : Mul Binary64 := ⟨fun x y => ⟨(Float.ofBits x.bits * Float.ofBits y.bits).toBits⟩⟩
instance : Div Binary64 := ⟨fun x y => ⟨(Float.ofBits x.bits / Float.ofBits y.bits).toBits⟩⟩

def toBinary32 (x : Binary64) : Binary32 :=
  Binary32.ofMagnitude x.isNegative <|
    if x.isNaN then 0x7fc00000
    else if !x.isFinite then FloatFormat.single.infinity
    else
      let (num, den) := FloatFormat.double.ratio x.magnitude
      FloatFormat.single.nearest num den

end Binary64

end EmbeddingIndex
