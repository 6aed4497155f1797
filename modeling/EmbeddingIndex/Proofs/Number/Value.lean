import EmbeddingIndex.Proofs.Number.Operations
/-!
What the bits of a single-precision number stand for, and what the arithmetic on bits makes of it.
-/

namespace EmbeddingIndex.Binary32

open Float.Model Float.Model.UnpackedFloat

def value (x : Binary32) : UnpackedFloat := UnpackedFloat.unpack .binary32 x.bits.toBitVec

theorem magnitude_eq_mod (x : Binary32) : x.magnitude.toNat = x.bits.toNat % 2 ^ 31 := by
  rw [magnitude, UInt32.toNat_and]
  exact Nat.and_two_pow_sub_one_eq_mod x.bits.toNat 31

theorem magnitude_toNat (x : Binary32) :
    x.magnitude.toNat = (@unpackExponent .binary32 x.bits.toBitVec).toNat * 2 ^ 23 +
      (@unpackMantissa .binary32 x.bits.toBitVec).toNat := by
  have exponent : (@unpackExponent .binary32 x.bits.toBitVec).toNat = x.bits.toNat / 2 ^ 23 % 2 ^ 8 := by
    rw [unpackExponent_def, BitVec.extractLsb'_toNat, Nat.shiftRight_eq_div_pow]
    rfl
  have mantissa : (@unpackMantissa .binary32 x.bits.toBitVec).toNat = x.bits.toNat % 2 ^ 23 := by
    rw [unpackMantissa_def, BitVec.extractLsb'_toNat, Nat.shiftRight_eq_div_pow]
    simp
  rw [magnitude_eq_mod, exponent, mantissa]
  omega

def sign (x : Binary32) : Sign := if x.isNegative then .negative else .positive

theorem ofBitVec_unpackSign (x : Binary32) :
    Sign.ofBitVec (@unpackSign .binary32 x.bits.toBitVec) = x.sign := by
  have word := x.bits.toNat_lt
  have top : (@unpackSign .binary32 x.bits.toBitVec).toNat = x.bits.toNat / 2 ^ 31 := by
    rw [unpackSign_def, BitVec.extractLsb'_toNat, Nat.shiftRight_eq_div_pow]
    exact Nat.mod_eq_of_lt (Nat.div_lt_of_lt_mul word)
  have unset : (@unpackSign .binary32 x.bits.toBitVec = 0#1) ↔ ¬ x.isNegative = true := by
    rw [isNegative_iff, ← BitVec.toNat_inj, top, BitVec.toNat_ofNat]
    omega
  simp only [Sign.ofBitVec, sign, unset, ite_not]

inductive Reads (sign : Sign) (magnitude : Nat) : UnpackedFloat → Prop
  | zero (none : magnitude = 0) : Reads sign magnitude (.zero sign)
  | finite (m : Nat) (e : Int) (positive : 0 < m) (canonical : Canonical m e) (bounded : e ≤ 104)
      (place : (magnitude : Int) = (e + 149) * 2 ^ 23 + m) :
      Reads sign magnitude (.finite sign m e positive)
  | infinity (most : magnitude = 0x7f800000) : Reads sign magnitude (.infinity sign)
  | notANumber (past : 0x7f800000 < magnitude) : Reads sign magnitude .notANumber

theorem reads_unpack (bits : BitVec Format.binary32.numBits) :
    Reads (Sign.ofBitVec (unpackSign bits))
      ((unpackExponent bits).toNat * 2 ^ 23 + (unpackMantissa bits).toNat)
      (UnpackedFloat.unpack .binary32 bits) := by
  have reads := @canonical_of_unpack bits
  have width : (unpackMantissa bits).toNat < 2 ^ 23 := (unpackMantissa bits).isLt
  have high : (unpackExponent bits).toNat < 2 ^ 8 := (unpackExponent bits).isLt
  revert reads
  fun_cases UnpackedFloat.unpack .binary32 bits with
  | case1 _ _ _ _ ones empty =>
    have ones : (unpackExponent bits).toNat = 255 := congrArg BitVec.toNat ones
    have empty : (unpackMantissa bits).toNat = 0 := congrArg BitVec.toNat empty
    exact fun _ => .infinity (by omega)
  | case2 _ _ ones filled =>
    have ones : (unpackExponent bits).toNat = 255 := congrArg BitVec.toNat ones
    have filled : (unpackMantissa bits).toNat ≠ 0 := fun zero => filled (BitVec.eq_of_toNat_eq zero)
    exact fun _ => .notANumber (by omega)
  | case3 _ _ _ _ _ zero empty =>
    have zero : (unpackExponent bits).toNat = 0 := congrArg BitVec.toNat zero
    have empty : (unpackMantissa bits).toNat = 0 := congrArg BitVec.toNat empty
    exact fun _ => .zero (by omega)
  | case4 mantissa _ place _ _ _ zero _ =>
    have zero : (unpackExponent bits).toNat = 0 := congrArg BitVec.toNat zero
    have part : mantissa.toNat = (unpackMantissa bits).toNat := rfl
    have shifted : place + 1 = (unpackExponent bits).toNat - 150 + 1 := rfl
    intro reads
    obtain ⟨canonical, bounded⟩ := reads rfl
    exact .finite _ _ _ canonical bounded (by omega)
  | case5 mantissa _ place _ _ _ _ =>
    have whole : (1#1 ++ mantissa).toNat = 2 ^ 23 + (unpackMantissa bits).toNat :=
      toNat_one_append mantissa
    have shifted : place = (unpackExponent bits).toNat - 150 := rfl
    intro reads
    obtain ⟨canonical, bounded⟩ := reads rfl
    exact .finite _ _ _ canonical bounded (by omega)

theorem reads (x : Binary32) : Reads x.sign x.magnitude.toNat x.value := by
  rw [magnitude_toNat, ← ofBitVec_unpackSign]
  exact reads_unpack _

inductive Kind (magnitude : Nat) : UnpackedFloat → Prop
  | zero (sign : Sign) (none : magnitude = 0) : Kind magnitude (.zero sign)
  | finite (sign : Sign) (m : Nat) (e : Int) (positive : 0 < m) (canonical : Canonical m e)
      (bounded : e ≤ 104) (some_bit : 0 < magnitude) (below : magnitude < 0x7f800000) :
      Kind magnitude (.finite sign m e positive)
  | infinity (sign : Sign) (most : magnitude = 0x7f800000) : Kind magnitude (.infinity sign)
  | notANumber (past : 0x7f800000 < magnitude) : Kind magnitude .notANumber

theorem kind (x : Binary32) : Kind x.magnitude.toNat x.value := by
  have reads := x.reads
  generalize x.value = value at reads
  cases reads with
  | zero none => exact .zero _ none
  | finite m e positive canonical bounded place =>
    have lowest := canonical.lowest
    have width := canonical.significand_lt
    exact .finite _ m e positive canonical bounded (by omega) (by omega)
  | infinity most => exact .infinity _ most
  | notANumber past => exact .notANumber past

theorem isFinite_iff (x : Binary32) : x.isFinite = true ↔ x.magnitude.toNat < 0x7f800000 := by
  rw [isFinite, decide_eq_true_eq, UInt32.lt_iff_toNat_lt]
  rfl

theorem isNaN_iff (x : Binary32) : x.isNaN = true ↔ 0x7f800000 < x.magnitude.toNat := by
  rw [isNaN, decide_eq_true_eq, UInt32.lt_iff_toNat_lt]
  rfl

theorem isZero_iff (x : Binary32) : x.isZero = true ↔ x.magnitude.toNat = 0 := by
  rw [isZero, beq_iff_eq, ← UInt32.toNat_inj]
  rfl

theorem bounded_value {x : Binary32} (finite : x.isFinite = true) : Bounded x.value := by
  rw [isFinite_iff] at finite
  have kind := x.kind
  generalize x.value = value at kind
  cases kind with
  | zero sign none => exact .zero sign
  | finite sign m e positive canonical bounded _ _ =>
    exact .finite sign m e positive canonical bounded
  | infinity _ most => omega
  | notANumber past => omega

theorem isFinite_of_value {x : Binary32} (finite : x.value.isFinite = true) : x.isFinite = true := by
  rw [isFinite_iff]
  have kind := x.kind
  generalize x.value = value at kind finite
  cases kind with
  | zero sign none => omega
  | finite _ _ _ _ _ _ _ below => exact below
  | infinity _ most => cases finite
  | notANumber past => cases finite

theorem isZero_of_value {x : Binary32} {sign : Sign} (zero : x.value = .zero sign) :
    x.isZero = true := by
  rw [isZero_iff]
  have kind := x.kind
  rw [zero] at kind
  cases kind with
  | zero _ none => exact none

theorem isNaN_eq (x : Binary32) : x.isNaN = x.value.isNaN := by
  rw [Bool.eq_iff_iff, isNaN_iff]
  have kind := x.kind
  generalize x.value = value at kind
  cases kind with
  | zero sign none => simp [UnpackedFloat.isNaN, none]
  | finite _ _ _ _ _ _ _ below => simp [UnpackedFloat.isNaN, below.le]
  | infinity _ most => simp [UnpackedFloat.isNaN, most]
  | notANumber past => simp [UnpackedFloat.isNaN, past]

theorem stored_value (x : Binary32) : stored x.value = x.value := by
  have kind := x.kind
  generalize x.value = value at kind
  cases kind with
  | zero sign none => exact stored_zero sign
  | finite sign _ _ positive canonical bounded _ _ =>
    rw [stored_finite sign positive canonical, if_pos bounded]
  | infinity sign most => exact stored_infinity sign
  | notANumber past => exact stored_notANumber

theorem unpack_ofBits (x : Binary32) : (Float32.ofBits x.bits).toModel.unpack = x.value :=
  x.stored_value

theorem value_ofResult (x : UnpackedFloat) :
    (ofResult ⟨Float32.Model.pack x⟩).value = stored x := by
  rw [ofResult]
  split
  · rename_i wrong
    have none : stored x = .notANumber := UnpackedFloat.isNaN_iff.mp wrong
    rw [none]
    rfl
  · rfl

variable {x y : Binary32} {low : Int}

theorem value_combine {op : Float32 → Float32 → Float32}
    {f : UnpackedFloat → UnpackedFloat → UnpackedFloat}
    (model : ∀ a b : Float32, op a b = ⟨Float32.Model.pack (f a.toModel.unpack b.toModel.unpack)⟩)
    (left : x.value.isNaN = false) (right : y.value.isNaN = false) :
    (combine op x y).value = stored (f x.value y.value) := by
  rw [combine, x.isNaN_eq, y.isNaN_eq, left, right, ← x.unpack_ofBits, ← y.unpack_ofBits, model]
  exact value_ofResult _

theorem value_add (left : x.value.isNaN = false) (right : y.value.isNaN = false) :
    (x + y).value = stored (add .binary32 x.value y.value) :=
  value_combine (fun _ _ => rfl) left right

theorem value_mul (left : x.value.isNaN = false) (right : y.value.isNaN = false) :
    (x * y).value = stored (mul .binary32 x.value y.value) :=
  value_combine (fun _ _ => rfl) left right

theorem value_div (left : x.value.isNaN = false) (right : y.value.isNaN = false) :
    (x / y).value = stored (div .binary32 x.value y.value) :=
  value_combine (fun _ _ => rfl) left right

theorem value_sqrt (number : x.value.isNaN = false) :
    x.sqrt.value = stored (UnpackedFloat.sqrt .binary32 x.value) := by
  rw [sqrt, x.isNaN_eq, number, ← x.unpack_ofBits]
  exact value_ofResult _

end EmbeddingIndex.Binary32
