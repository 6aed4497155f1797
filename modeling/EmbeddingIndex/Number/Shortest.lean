import EmbeddingIndex.Number.Binary64
/-!
The shortest decimal that reads back as a given number, and its text.
-/

namespace EmbeddingIndex

structure Decimal where
  digits : Nat
  exponent : Int
  deriving DecidableEq, Repr

namespace Decimal

def strip : Nat → Decimal → Decimal
  | 0, d => d
  | fuel + 1, d =>
    if d.digits ≠ 0 ∧ d.digits % 10 = 0 then strip fuel ⟨d.digits / 10, d.exponent + 1⟩ else d

end Decimal

/-- An interval of reals around a value, over one common denominator. -/
structure Surrounding where
  low : Nat
  value : Nat
  high : Nat
  den : Nat
  closed : Bool

namespace Surrounding

/-- The reals that round to the given magnitude: half a place on each side, a quarter below where
the places get finer, with the ends included iff the significand is even. -/
def ofMagnitude (format : FloatFormat) (magnitude : Nat) : Surrounding :=
  let (significand, exponent) := format.parts magnitude
  let finerBelow := significand = format.implicitBit ∧ format.lowest < exponent
  let scale := fun n => scaledRatio n 1 (exponent - 2)
  let (value, den) := scale (4 * significand)
  ⟨(scale (4 * significand - (if finerBelow then 1 else 2))).1, value,
    (scale (4 * significand + 2)).1, den, significand % 2 = 0⟩

def onGrid (s : Surrounding) (place : Int) : Surrounding :=
  if 0 ≤ place then { s with den := s.den * Nat.pow 10 place.toNat }
  else
    let factor := Nat.pow 10 (-place).toNat
    { s with low := s.low * factor, value := s.value * factor, high := s.high * factor }

def holds (s : Surrounding) (multiple : Nat) : Bool :=
  let point := multiple * s.den
  if s.closed then s.low ≤ point && point ≤ s.high else s.low < point && point < s.high

def pick (s : Surrounding) : Option Nat :=
  let below := s.value / s.den
  let rest := s.value % s.den
  match s.holds below, s.holds (below + 1) with
  | true, true =>
    if 2 * rest < s.den || (2 * rest == s.den && below % 2 == 0) then some below
    else some (below + 1)
  | true, false => some below
  | false, true => some (below + 1)
  | false, false => none

def decimalOrder (s : Surrounding) : Int :=
  let guess := ((binaryOrder s.value s.den) * 30103).fdiv 100000
  let reaches := fun place => let g := s.onGrid place; g.den ≤ g.value
  if reaches (guess + 2) then guess + 2 else if reaches (guess + 1) then guess + 1 else guess

def search (s : Surrounding) (place : Int) : Nat → Decimal
  | 0 => ⟨s.value / s.den, 0⟩
  | fuel + 1 =>
    match (s.onGrid place).pick with
    | some multiple => Decimal.strip 20 ⟨multiple, place⟩
    | none => search s (place - 1) fuel

end Surrounding

/-- The shortest decimal that reads back as a finite magnitude other than zero, the nearest of
those of that length. -/
def FloatFormat.shortest (format : FloatFormat) (magnitude : Nat) : Decimal :=
  let s := Surrounding.ofMagnitude format magnitude
  s.search s.decimalOrder 18

/-- Where positional notation ends: the least and greatest count of digits before the point. -/
structure NumberStyle where
  least : Int
  greatest : Int

def NumberStyle.single : NumberStyle := ⟨-5, 13⟩
def NumberStyle.double : NumberStyle := ⟨-4, 16⟩

def NumberStyle.render (style : NumberStyle) (d : Decimal) : String :=
  let digits := Nat.toDigits 10 d.digits
  let point := (digits.length : Int) + d.exponent
  let zeros := fun n => List.replicate n '0'
  String.ofList <|
    if 0 ≤ d.exponent && point ≤ style.greatest then
      digits ++ zeros d.exponent.toNat ++ ['.', '0']
    else if 0 < point && point ≤ style.greatest then
      digits.take point.toNat ++ '.' :: digits.drop point.toNat
    else if style.least ≤ point && point ≤ 0 then
      '0' :: '.' :: zeros (-point).toNat ++ digits
    else
      let tail := digits.drop 1
      digits.take 1 ++ (if tail.isEmpty then [] else '.' :: tail) ++ 'e' ::
        (toString (point - 1)).toList

def FloatFormat.text (format : FloatFormat) (style : NumberStyle) (negative : Bool)
    (magnitude : Nat) : String :=
  (if negative then "-" else "") ++
    (if magnitude = 0 then "0.0" else style.render (format.shortest magnitude))

def Binary32.text (x : Binary32) : String :=
  FloatFormat.single.text .single x.isNegative x.magnitude.toNat

def Binary64.text (x : Binary64) : String :=
  FloatFormat.double.text .double x.isNegative x.magnitude

end EmbeddingIndex
