import EmbeddingIndex.Number.Binary32
import Mathlib
/-!
Orders of single-precision numbers. Rounding lowers none that is in range and raises one by at most
one, and a number that is stored and read again is as it was or has become infinite.
-/

namespace EmbeddingIndex

open Float.Model Float.Model.UnpackedFloat

/-- The exponent of the leading bit. -/
def order (m : Nat) (e : Int) : Int := m.log2 + e

/-- The significand and the exponent of a number of the format, however large the exponent. -/
structure Canonical (m : Nat) (e : Int) : Prop where
  width : m.log2 ≤ 23
  lowest : -149 ≤ e
  full : m.log2 = 23 ∨ e = -149

theorem Canonical.significand_lt {m : Nat} {e : Int} (canonical : Canonical m e) : m < 2 ^ 24 := by
  have width := canonical.width
  calc
    m < 2 ^ (m.log2 + 1) := Nat.lt_log2_self
    _ ≤ 2 ^ 24 := Nat.pow_le_pow_right (by decide) (by omega)

theorem Canonical.le_significand {m : Nat} {e : Int} (canonical : Canonical m e) (positive : 0 < m)
    (normal : e ≠ -149) : 2 ^ 23 ≤ m := by
  apply (Nat.le_log2 positive.ne').mp
  exact (canonical.full.resolve_right normal).ge

/-- Enough bits for the format, so that rounding has none to make up. -/
def Ample (m : Nat) (e : Int) : Prop := 23 ≤ m.log2 ∨ e ≤ -149

theorem log2_div_two_pow (m k : Nat) : (m / 2 ^ k).log2 = m.log2 - k := by
  rw [Nat.log2_eq_log_two, Nat.log2_eq_log_two, Nat.log_div_base_pow]

theorem log2_mono {m n : Nat} (below : m ≤ n) : m.log2 ≤ n.log2 := by
  rw [Nat.log2_eq_log_two, Nat.log2_eq_log_two]
  exact Nat.log_mono_right below

theorem shiftLeft_pos {m : Nat} (positive : 0 < m) (k : Nat) : 0 < m <<< k := by
  rw [Nat.shiftLeft_eq]
  exact Nat.mul_pos positive (Nat.two_pow_pos k)

theorem log2_shiftLeft {m : Nat} (positive : 0 < m) (k : Nat) : (m <<< k).log2 = m.log2 + k := by
  have large : 2 ^ k ≤ m <<< k := by
    rw [Nat.shiftLeft_eq]
    exact Nat.le_mul_of_pos_left _ positive
  have enough : k ≤ (m <<< k).log2 := (Nat.le_log2 (shiftLeft_pos positive k).ne').mpr large
  have back := log2_div_two_pow (m <<< k) k
  rw [Nat.shiftLeft_eq, Nat.mul_div_cancel m (Nat.two_pow_pos k), ← Nat.shiftLeft_eq] at back
  omega

theorem log2_succ_le (m : Nat) : (m + 1).log2 ≤ m.log2 + 1 := by
  rcases Nat.eq_zero_or_pos m with rfl | positive
  · decide
  · calc
      (m + 1).log2 ≤ (m <<< 1).log2 := log2_mono (by omega)
      _ = m.log2 + 1 := log2_shiftLeft positive 1

/-- How far a significand is shifted to fit the format. -/
def excess (m : Nat) (e : Int) : Nat := max (m.log2 - 23) (-149 - e).toNat

theorem mantissa_shiftRight (extended : ExtendedMantissa) (k : Nat) :
    (extended >>> k).mantissa = extended.mantissa / 2 ^ k := by
  induction k generalizing extended with
  | zero => simp [HShiftRight.hShiftRight, Nat.repeat]
  | succ k ih =>
    change (extended >>> k).mantissa / 2 = _
    rw [ih, Nat.div_div_eq_div_mul, Nat.pow_succ]

theorem roundedMantissa_bounds (extended : ExtendedMantissa) :
    extended.mantissa ≤ extended.roundedMantissa ∧
      extended.roundedMantissa ≤ extended.mantissa + 1 := by
  obtain ⟨mantissa, half, rest⟩ := extended
  cases half <;> cases rest <;>
    simp [ExtendedMantissa.roundedMantissa, ExtendedMantissa.accuracy,
      Accuracy.roundToNearestEven]
  omega

theorem shiftToTargetExponent_eq (m : Nat) (e : Int) (accuracy : Accuracy) :
    (shiftToTargetExponent .binary32 m e accuracy).1.mantissa = m / 2 ^ excess m e ∧
      (shiftToTargetExponent .binary32 m e accuracy).2 = e + excess m e := by
  have same : (Format.binary32.targetExponent (totalExponent m e) - e).toNat = excess m e := by
    simp only [Format.targetExponent, totalExponent, Format.mantissaBits, Format.minExponent, excess]
    omega
  have whole : (ExtendedMantissa.ofMantissaAndAccuracy m accuracy).mantissa = m := by
    rcases accuracy with _ | order
    · rfl
    · cases order <;> rfl
  simp only [shiftToTargetExponent, shiftToExponent, same, mantissa_shiftRight, whole, and_self]

inductive Rounded (sign : Sign) (m : Nat) (e : Int) : UnpackedFloat → Prop
  | lost (small : m = 0 ∨ order m e < -149) : Rounded sign m e (.zero sign)
  | kept (m' : Nat) (e' : Int) (positive : 0 < m') (canonical : Canonical m' e')
      (least : max (order m e) (-149) ≤ order m' e')
      (most : order m' e' ≤ max (order m e) (-149) + 1) :
      Rounded sign m e (.finite sign m' e' positive)

/-- What is rounded stands where the format has places, so that only a carry is shifted out. -/
theorem excess_carried (m r : Nat) (e : Int) : excess r (e + excess m e) = r.log2 - 23 := by
  unfold excess
  omega

theorem rounded_of_carried (sign : Sign) {m r : Nat} {e : Int} (ample : Ample m e)
    (below : m / 2 ^ excess m e ≤ r) (above : r ≤ m / 2 ^ excess m e + 1)
    (positive : 0 < r / 2 ^ (r.log2 - 23)) :
    Rounded sign m e
      (.finite sign (r / 2 ^ (r.log2 - 23)) (e + excess m e + (r.log2 - 23 : Nat)) positive) := by
  have lower := log2_mono below
  have upper := (log2_mono above).trans (log2_succ_le _)
  rw [log2_div_two_pow] at lower upper
  unfold Ample at ample
  unfold excess at *
  constructor
  · constructor
    · rw [log2_div_two_pow]
      omega
    · omega
    · rw [log2_div_two_pow]
      omega
  · rw [order, order, log2_div_two_pow]
    omega
  · rw [order, order, log2_div_two_pow]
    omega

theorem div_pos_of_log2 {m k : Nat} (positive : 0 < m) (within : k ≤ m.log2) : 0 < m / 2 ^ k :=
  Nat.div_pos ((Nat.le_log2 positive.ne').mp within) (Nat.two_pow_pos k)

theorem small_of_lost {m r : Nat} {e : Int} (below : m / 2 ^ excess m e ≤ r)
    (lost : r / 2 ^ (r.log2 - 23) = 0) : m = 0 ∨ order m e < -149 := by
  rw [or_iff_not_imp_left]
  intro filled
  by_contra large
  unfold order at large
  have fits : excess m e ≤ m.log2 := by
    unfold excess
    omega
  have left : 0 < r := (div_pos_of_log2 (Nat.pos_of_ne_zero filled) fits).trans_le below
  exact (div_pos_of_log2 left (Nat.sub_le _ _)).ne' lost

theorem rounded (sign : Sign) {m : Nat} {e : Int} (ample : Ample m e) (accuracy : Accuracy) :
    Rounded sign m e (roundWithAccuracy .binary32 sign m e accuracy) := by
  unfold roundWithAccuracy
  obtain ⟨quotient, place⟩ := shiftToTargetExponent_eq m e accuracy
  generalize shiftToTargetExponent .binary32 m e accuracy = first at quotient place
  obtain ⟨extended, e₁⟩ := first
  obtain ⟨below, above⟩ := roundedMantissa_bounds extended
  dsimp only at quotient place ⊢
  rw [quotient] at below above
  subst place
  generalize extended.roundedMantissa = r at below above ⊢
  obtain ⟨again, final⟩ := shiftToTargetExponent_eq r (e + excess m e) .exact
  generalize shiftToTargetExponent .binary32 r (e + excess m e) .exact = second at again final ⊢
  obtain ⟨⟨_, _, _⟩, _⟩ := second
  rw [excess_carried] at again final
  dsimp only at again final ⊢
  subst again final
  split
  · rename_i lost
    exact .lost (small_of_lost below lost)
  · exact rounded_of_carried sign ample below above _

def stored (x : UnpackedFloat) : UnpackedFloat :=
  UnpackedFloat.unpack .binary32 (UnpackedFloat.pack .binary32 x)

theorem stored_zero (sign : Sign) : stored (.zero sign) = .zero sign :=
  unpack_packedZero

theorem stored_infinity (sign : Sign) : stored (.infinity sign) = .infinity sign := by
  simp [stored, UnpackedFloat.pack, packedInfinity, UnpackedFloat.unpack]

theorem stored_notANumber : stored .notANumber = .notANumber :=
  unpack_packedNaN

theorem toNat_one_append (mantissa : BitVec 23) :
    (1#1 ++ mantissa).toNat = 2 ^ 23 + mantissa.toNat := by
  rw [BitVec.toNat_append, ← Nat.shiftLeft_add_eq_or_of_lt mantissa.isLt]
  rfl

theorem unpack_normal (sign : Sign) (exponent : BitVec 8) (mantissa : BitVec 23)
    (some_bit : exponent ≠ 0#8) (no_bit : exponent ≠ -1#8) {m : Nat} {e : Int} (positive : 0 < m)
    (significand : 2 ^ 23 + mantissa.toNat = m) (place : (exponent.toNat : Int) - 150 = e) :
    UnpackedFloat.unpack .binary32 (packComponents .binary32 sign exponent mantissa) =
      .finite sign m e positive := by
  subst significand place
  simp only [UnpackedFloat.unpack, unpackExponent_packComponents, unpackMantissa_packComponents,
    unpackSign_packComponents, Sign.ofBitVec_toBitVec]
  rw [if_neg no_bit, if_neg some_bit]
  simp only [toNat_one_append]
  rfl

theorem unpack_subnormal (sign : Sign) (mantissa : BitVec 23) {m : Nat} (positive : 0 < m)
    (significand : mantissa.toNat = m) :
    UnpackedFloat.unpack .binary32 (packComponents .binary32 sign 0#8 mantissa) =
      .finite sign m (-149) positive := by
  subst significand
  have filled : mantissa ≠ 0#23 := by
    rintro rfl
    exact absurd positive (by decide)
  simp only [UnpackedFloat.unpack, unpackExponent_packComponents, unpackMantissa_packComponents,
    unpackSign_packComponents, Sign.ofBitVec_toBitVec]
  rw [if_neg (by decide), if_pos trivial, dif_neg filled]
  rfl

theorem pack_finite (sign : Sign) {m : Nat} {e : Int} (positive : 0 < m) (lowest : -149 ≤ e) :
    UnpackedFloat.pack .binary32 (.finite sign m e positive) =
      if 105 ≤ e then packedInfinity .binary32 sign
      else if m.log2 = 23 then
        packComponents .binary32 sign (BitVec.ofNat 8 (e + 150).toNat) (BitVec.ofNat 23 m)
      else packComponents .binary32 sign 0#8 (BitVec.ofNat 23 m) := by
  have place : (e + (Format.binary32.exponentBias : Int) +
      (Format.binary32.mantissaBitsWithoutImplicit : Int)).toNat = (e + 150).toNat := by
    congr 1
    rw [add_assoc]
    rfl
  have past : 2 ^ Format.binary32.exponentBits ≤ (e + 150).toNat + 1 ↔ 105 ≤ e := by
    change 256 ≤ _ ↔ _
    omega
  have wide : m.log2 + 1 = Format.binary32.mantissaBits ↔ m.log2 = 23 := by
    change _ = 24 ↔ _
    omega
  unfold UnpackedFloat.pack
  simp only [place, past, wide]

theorem stored_finite (sign : Sign) {m : Nat} {e : Int} (positive : 0 < m)
    (canonical : Canonical m e) :
    stored (.finite sign m e positive) =
      if e ≤ 104 then .finite sign m e positive else .infinity sign := by
  have bound := canonical.significand_lt
  obtain ⟨width, lowest, full⟩ := canonical
  rw [stored, pack_finite sign positive lowest]
  split_ifs with large small wide
  · omega
  · exact stored_infinity sign
  · have least := (Nat.le_log2 positive.ne').mp wide.ge
    have field : (BitVec.ofNat 8 (e + 150).toNat).toNat = (e + 150).toNat := by
      rw [BitVec.toNat_ofNat]
      omega
    apply unpack_normal
    · intro zero
      have := congrArg BitVec.toNat zero
      simp only [field, BitVec.toNat_ofNat] at this
      omega
    · intro ones
      have := congrArg BitVec.toNat ones
      rw [field] at this
      change _ = 255 at this
      omega
    · rw [BitVec.toNat_ofNat]
      omega
    · omega
  · omega
  · obtain rfl := full.resolve_left wide
    have small : m < 2 ^ 23 := (Nat.log2_lt positive.ne').mp (by omega)
    exact unpack_subnormal sign _ positive (by rw [BitVec.toNat_ofNat, Nat.mod_eq_of_lt small])
  · omega

theorem canonical_of_unpack (bits : BitVec 32) {sign : Sign} {m : Nat} {e : Int} {positive : 0 < m}
    (reads : UnpackedFloat.unpack .binary32 bits = .finite sign m e positive) :
    Canonical m e ∧ e ≤ 104 := by
  revert reads
  fun_cases UnpackedFloat.unpack .binary32 bits with
  | case1 => simp
  | case2 => simp
  | case3 => simp
  | case4 mantissa exponent place sign' sign infinite subnormal filled =>
    intro reads
    obtain ⟨-, rfl, rfl⟩ := UnpackedFloat.finite.inj reads
    have bound := (Nat.log2_lt positive.ne').mpr mantissa.isLt
    change _ < 23 at bound
    have lowest : place + 1 = -149 := by
      simp only [place, subnormal]
      rfl
    exact ⟨⟨by omega, by omega, Or.inr lowest⟩, by omega⟩
  | case5 mantissa exponent place sign' sign infinite normal =>
    intro reads
    obtain ⟨-, rfl, rfl⟩ := UnpackedFloat.finite.inj reads
    have width : (1#1 ++ mantissa).toNat.log2 = 23 := by
      rw [Nat.log2_eq_iff positive.ne', toNat_one_append]
      have bound := mantissa.isLt
      change _ < 2 ^ 23 at bound
      omega
    have low : exponent.toNat ≠ 0 := fun zero => normal (BitVec.eq_of_toNat_eq zero)
    have high : exponent.toNat ≠ 255 := fun ones => infinite (BitVec.eq_of_toNat_eq ones)
    have bound := exponent.isLt
    change _ < 256 at bound
    have shifted : place = (exponent.toNat : Int) - 150 := rfl
    exact ⟨⟨width.le, by omega, Or.inl width⟩, by omega⟩

end EmbeddingIndex
