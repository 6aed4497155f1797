/-!
Binary floating-point formats: the nearest value to a ratio of naturals, and the exact value
that given magnitude bits stand for.
-/

namespace EmbeddingIndex

structure FloatFormat where
  /-- Bits of a significand, the implicit one included. -/
  width : Nat
  /-- Exponent of the last place of the smallest values. -/
  lowest : Int
  infinity : Nat
  deriving DecidableEq, Repr

def FloatFormat.single : FloatFormat := ⟨24, -149, 0x7f800000⟩
def FloatFormat.double : FloatFormat := ⟨53, -1074, 0x7ff0000000000000⟩

def roundHalfEven (num den : Nat) : Nat :=
  let quotient := num / den
  let twice := 2 * (num % den)
  if den < twice || (twice == den && quotient % 2 == 1) then quotient + 1 else quotient

def scaledRatio (num den : Nat) (shift : Int) : Nat × Nat :=
  if 0 ≤ shift then (num <<< shift.toNat, den) else (num, den <<< (-shift).toNat)

/-- The exponent `d` with `2 ^ d ≤ num / den < 2 ^ (d + 1)`. -/
def binaryOrder (num den : Nat) : Int :=
  let guess : Int := (num.log2 : Int) - (den.log2 : Int)
  let (scaled, unit) := scaledRatio num den (-guess)
  if scaled < unit then guess - 1 else guess

namespace FloatFormat

def implicitBit (format : FloatFormat) : Nat := 1 <<< (format.width - 1)

/-- Magnitude bits of the value nearest to `num / den`, a tie going to the even significand.
Consecutive values have consecutive bits, so a significand that rounds up past its width carries
into the exponent by itself. -/
def nearest (format : FloatFormat) (num den : Nat) : Nat :=
  if num = 0 then 0
  else
    let place := max format.lowest (binaryOrder num den - ((format.width : Int) - 1))
    let (scaled, unit) := scaledRatio num den (-place)
    min format.infinity
      ((place - format.lowest).toNat * format.implicitBit + roundHalfEven scaled unit)

def parts (format : FloatFormat) (magnitude : Nat) : Nat × Int :=
  let field := magnitude / format.implicitBit
  let fraction := magnitude % format.implicitBit
  if field = 0 then (fraction, format.lowest)
  else (fraction + format.implicitBit, format.lowest + ((field : Int) - 1))

def ratio (format : FloatFormat) (magnitude : Nat) : Nat × Nat :=
  let (significand, exponent) := format.parts magnitude
  scaledRatio significand 1 exponent

end FloatFormat

end EmbeddingIndex
