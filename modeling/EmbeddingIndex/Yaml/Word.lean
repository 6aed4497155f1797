import EmbeddingIndex.Yaml.Scalar
import EmbeddingIndex.Number.Binary64
/-!
What a plain scalar stands for: nothing, a truth value, a number, or else its own text.
-/

namespace EmbeddingIndex.Yaml

def isNullWord (text : String) : Bool := ["null", "Null", "NULL", "~"].contains text

def isTruthWord (text : String) : Bool :=
  ["true", "True", "TRUE", "false", "False", "FALSE"].contains text

namespace NumberText

def digitsValue? (base : Nat) (digits : List Char) : Option Nat :=
  if digits.isEmpty then none
  else digits.foldl (fun sum c => sum.bind fun n =>
    (hexDigit? c).bind fun d => if d < base then some (n * base + d) else none) (some 0)

def bases : List (Char × Nat) := [('x', 16), ('o', 8), ('b', 2)]

def based? : List Char → Option Nat
  | '0' :: letter :: rest => (bases.lookup letter).bind (digitsValue? · rest)
  | _ => none

/-- Two digits or more of which the first is zero, which make no number. -/
def isPadded (digits : List Char) : Bool :=
  1 < digits.length && digits.head? = some '0' && digits.all Char.isDigit

def magnitude? (digits : List Char) : Option Nat :=
  match based? digits with
  | some n => some n
  | none => if isPadded digits then none else digitsValue? 10 digits

def withoutPlus (text : List Char) : List Char :=
  if text.head? = some '+' then text.drop 1 else text

def withoutSign (text : List Char) : List Char :=
  if text.head? = some '-' then text.drop 1 else withoutPlus text

def natural? (text : List Char) : Option Nat :=
  (magnitude? (withoutPlus text)).bind fun n => if n < 0x10000000000000000 then some n else none

def isWhole (text : List Char) : Bool :=
  let limit :=
    if text.head? = some '-' then 0x80000000000000000000000000000000
    else 0xffffffffffffffffffffffffffffffff
  (magnitude? (withoutSign text)).any (· ≤ limit)

def decimal? (negative : Bool) (text : List Char) : Option Binary64 :=
  let whole := text.takeWhile Char.isDigit
  let rest := text.drop whole.length
  let fraction := if rest.head? = some '.' then (rest.drop 1).takeWhile Char.isDigit else []
  let rest := if rest.head? = some '.' then rest.drop (fraction.length + 1) else rest
  let power : Option Int := match rest with
    | [] => some 0
    | c :: rest =>
      if c = 'e' || c = 'E' then
        match rest with
        | '-' :: rest => (digitsValue? 10 rest).map fun n => -(n : Int)
        | '+' :: rest => (digitsValue? 10 rest).map fun n => (n : Int)
        | _ => (digitsValue? 10 rest).map fun n => (n : Int)
      else none
  match digitsValue? 10 (whole ++ fraction), power with
  | some n, some power =>
    let x := Binary64.ofDecimal negative n (power - fraction.length)
    if x.isFinite then some x else none
  | _, _ => none

def real? (text : String) : Option Binary64 :=
  if [".inf", ".Inf", ".INF", "+.inf", "+.Inf", "+.INF"].contains text then some .infinity
  else if ["-.inf", "-.Inf", "-.INF"].contains text then some .negativeInfinity
  else if [".nan", ".NaN", ".NAN"].contains text then some .notANumber
  else
    match text.toList with
    | '+' :: rest => decimal? false rest
    | '-' :: rest => decimal? true rest
    | rest => decimal? false rest

end NumberText

/-- A plain scalar of this text can be meant as the text alone. Padded digits are no number, but
look too much like one. -/
def standsForItself (text : String) : Bool :=
  let chars := text.toList
  !(text = "" || isNullWord text || isTruthWord text || NumberText.isWhole chars ||
    NumberText.isPadded (NumberText.withoutSign chars) || (NumberText.real? text).isSome)

end EmbeddingIndex.Yaml
