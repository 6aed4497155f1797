import EmbeddingIndex.Proofs.Number.Value
/-!
The total order of all bit patterns. It goes by the values of numbers, and where these do not tell,
by the sign and the bits of the significand. The position of a pattern, which ranking goes by, is its
place in this order, so that only equal bits are tied.
-/

namespace EmbeddingIndex.Binary32

open Float.Model Float.Model.UnpackedFloat

def isQuiet (x : Binary32) : Bool := x.bits.toNat.testBit 22

def payload (x : Binary32) : Nat := x.bits.toNat % 2 ^ 22

/-- Of two NaNs, whatever their signs, the one that is no farther from the numbers: a signalling one
before a quiet one, and of one kind the one with the lesser payload. -/
def Inner (x y : Binary32) : Prop :=
  x.isQuiet = false ∧ y.isQuiet = true ∨ x.isQuiet = y.isQuiet ∧ x.payload ≤ y.payload

/-- The total order of all patterns, in which each is also at most itself: negative NaNs, numbers by
their values, with the negative zero before the positive one, and positive NaNs. -/
inductive AtMost (x y : Binary32) : Prop
  | less (below : Float32.ofBits x.bits < Float32.ofBits y.bits) : AtMost x y
  | equal (same : Float32.ofBits x.bits == Float32.ofBits y.bits)
      (signs : x.isNegative = true ∨ y.isNegative = false) : AtMost x y
  | lowest (wrong : x.isNaN = true) (negative : x.isNegative = true)
      (other : y.isNaN = false ∨ y.isNegative = false) : AtMost x y
  | highest (wrong : y.isNaN = true) (positive : y.isNegative = false)
      (other : x.isNaN = false ∨ x.isNegative = true) : AtMost x y
  | negativePair (wrong : x.isNaN = true ∧ y.isNaN = true)
      (signs : x.isNegative = true ∧ y.isNegative = true) (inward : y.Inner x) : AtMost x y
  | positivePair (wrong : x.isNaN = true ∧ y.isNaN = true)
      (signs : x.isNegative = false ∧ y.isNegative = false) (outward : x.Inner y) : AtMost x y

/-- A greater exponent has the leading bit, and decides whatever the significands. -/
theorem compare_place {m n : Nat} {d e : Int} (left : Canonical m d) (right : Canonical n e)
    (filled : 0 < m) (other : 0 < n) :
    (compare d e).then (compare m n) =
      compare ((d + 149) * 2 ^ 23 + m : Int) ((e + 149) * 2 ^ 23 + n) := by
  have boundM := left.significand_lt
  have boundN := right.significand_lt
  have lowestD := left.lowest
  have lowestE := right.lowest
  rcases lt_trichotomy d e with below | rfl | above
  · have leading := right.le_significand other (by omega)
    rw [compare_lt_iff_lt.mpr below, Ordering.lt_then]
    exact (compare_lt_iff_lt.mpr (by omega)).symm
  · rw [compare_eq_iff_eq.mpr rfl, Ordering.eq_then]
    rcases lt_trichotomy m n with below | rfl | above
    · rw [compare_lt_iff_lt.mpr below]
      exact (compare_lt_iff_lt.mpr (by omega)).symm
    · rw [compare_eq_iff_eq.mpr rfl]
      exact (compare_eq_iff_eq.mpr rfl).symm
    · rw [compare_gt_iff_gt.mpr above]
      exact (compare_gt_iff_gt.mpr (by omega)).symm
  · have leading := left.le_significand filled (by omega)
    rw [compare_gt_iff_gt.mpr above, Ordering.gt_then]
    exact (compare_gt_iff_gt.mpr (by omega)).symm

theorem compare_neg (i j : Int) : compare (-i) (-j) = (compare i j).swap := by
  rw [← cmp_eq_compare, ← cmp_eq_compare, cmp_swap]
  exact StrictAnti.cmp_map_eq (fun _ _ below => neg_lt_neg below) i j

theorem apply_bounds (sign : Sign) (n : Nat) : -(n : Int) ≤ sign.apply n ∧ sign.apply n ≤ n := by
  cases sign <;> simp only [Sign.apply] <;> omega

theorem some_lt {i j : Int} (below : i < j) : some Ordering.lt = some (compare i j) :=
  congrArg some (compare_lt_iff_lt.mpr below).symm

theorem some_gt {i j : Int} (above : j < i) : some Ordering.gt = some (compare i j) :=
  congrArg some (compare_gt_iff_gt.mpr above).symm

theorem compare_finite {s t : Sign} {m n k l : Nat} {d e : Int} (left : Canonical m d)
    (right : Canonical n e) (filled : 0 < m) (other : 0 < n)
    (placeK : (k : Int) = (d + 149) * 2 ^ 23 + m) (placeL : (l : Int) = (e + 149) * 2 ^ 23 + n) :
    UnpackedFloat.compare (.finite s m d filled) (.finite t n e other) =
      some (compare (s.apply k) (t.apply l)) := by
  have lowestD := left.lowest
  have lowestE := right.lowest
  have places := compare_place left right filled other
  rw [← placeK, ← placeL] at places
  cases s with
  | negative =>
    cases t with
    | negative =>
      calc
        some ((compare d e).then (compare m n)).swap = some (compare (k : Int) l).swap := by
          rw [places]
        _ = some (compare (-k : Int) (-l)) := by rw [compare_neg]
    | positive => exact some_lt (show -(k : Int) < l by omega)
  | positive =>
    cases t with
    | negative => exact some_gt (show -(l : Int) < k by omega)
    | positive => exact congrArg some places

theorem compare_reads {s t : Sign} {k l : Nat} {a b : UnpackedFloat} (left : Reads s k a)
    (right : Reads t l b) (number : a.isNaN = false) (other : b.isNaN = false) :
    a.compare b = some (compare (s.apply k) (t.apply l)) := by
  obtain ⟨leastK, mostK⟩ := apply_bounds s k
  obtain ⟨leastL, mostL⟩ := apply_bounds t l
  cases left with
  | zero none =>
    cases right with
    | zero none' =>
      subst none none'
      cases s <;> cases t <;> rfl
    | finite n e positive canonical bounded place =>
      have lowest := canonical.lowest
      cases t with
      | negative => exact some_gt (show -(l : Int) < _ by omega)
      | positive => exact some_lt (show _ < (l : Int) by omega)
    | infinity most =>
      cases t with
      | negative => exact some_gt (show -(l : Int) < _ by omega)
      | positive => exact some_lt (show _ < (l : Int) by omega)
    | notANumber => cases other
  | finite m d filled canonical bounded place =>
    have lowest := canonical.lowest
    have width := canonical.significand_lt
    cases right with
    | zero none =>
      cases s with
      | negative => exact some_lt (show -(k : Int) < _ by omega)
      | positive => exact some_gt (show _ < (k : Int) by omega)
    | finite n e positive canonical' _ place' =>
      exact compare_finite canonical canonical' filled positive place place'
    | infinity most =>
      cases t with
      | negative => exact some_gt (show -(l : Int) < _ by omega)
      | positive => exact some_lt (show _ < (l : Int) by omega)
    | notANumber => cases other
  | infinity most =>
    cases right with
    | zero none =>
      cases s with
      | negative => exact some_lt (show -(k : Int) < _ by omega)
      | positive => exact some_gt (show _ < (k : Int) by omega)
    | finite n e positive canonical bounded place =>
      have width := canonical.significand_lt
      cases s with
      | negative => exact some_lt (show -(k : Int) < _ by omega)
      | positive => exact some_gt (show _ < (k : Int) by omega)
    | infinity most' =>
      subst most most'
      cases s <;> cases t <;> rfl
    | notANumber => cases other
  | notANumber => cases number

/-- The magnitude bits, counted downwards from zero for a negative pattern. -/
def signed (x : Binary32) : Int := x.sign.apply x.magnitude.toNat

variable {x y : Binary32}

theorem signed_of_negative (negative : x.isNegative = true) :
    x.signed = -(x.magnitude.toNat : Int) := by
  rw [signed, sign, if_pos negative]
  rfl

theorem signed_of_positive (positive : x.isNegative = false) : x.signed = x.magnitude.toNat := by
  rw [signed, sign, positive]
  rfl

theorem signed_bounds (number : x.isNaN = false) :
    -0x7f800000 ≤ x.signed ∧ x.signed ≤ 0x7f800000 := by
  have bounds := apply_bounds x.sign x.magnitude.toNat
  have within := x.isNaN_iff.not.mp (Bool.eq_false_iff.mp number)
  rw [signed]
  omega

theorem compare_value_eq_some (outcome : Ordering) : x.value.compare y.value = some outcome ↔
    x.isNaN = false ∧ y.isNaN = false ∧ compare x.signed y.signed = outcome := by
  rw [x.isNaN_eq, y.isNaN_eq]
  cases left : x.value.isNaN with
  | true =>
    rw [UnpackedFloat.isNaN_iff.mp left]
    simp [UnpackedFloat.compare]
  | false =>
    cases right : y.value.isNaN with
    | true =>
      rw [UnpackedFloat.isNaN_iff.mp right]
      cases x.value <;> simp [UnpackedFloat.compare]
    | false =>
      rw [compare_reads x.reads y.reads left right]
      simp [signed]

theorem float_lt_iff : Float32.ofBits x.bits < Float32.ofBits y.bits ↔
    x.isNaN = false ∧ y.isNaN = false ∧ x.signed < y.signed := by
  have meaning : Float32.ofBits x.bits < Float32.ofBits y.bits ↔
      x.value.compare y.value = some .lt := by
    rw [← x.unpack_ofBits, ← y.unpack_ofBits]
    exact decide_eq_true_iff.trans beq_iff_eq
  rw [meaning, compare_value_eq_some, compare_lt_iff_lt]

theorem float_beq_iff : (Float32.ofBits x.bits == Float32.ofBits y.bits) = true ↔
    x.isNaN = false ∧ y.isNaN = false ∧ x.signed = y.signed := by
  have meaning : (Float32.ofBits x.bits == Float32.ofBits y.bits) = true ↔
      x.value.compare y.value = some .eq := by
    rw [← x.unpack_ofBits, ← y.unpack_ofBits]
    exact beq_iff_eq (α := Option Ordering)
  rw [meaning, compare_value_eq_some, compare_eq_iff_eq]

theorem inner_iff (left : x.isNaN = true) (right : y.isNaN = true) :
    x.Inner y ↔ x.magnitude.toNat ≤ y.magnitude.toNat := by
  rw [isNaN_iff, magnitude_eq_mod] at left right
  rw [magnitude_eq_mod, magnitude_eq_mod]
  simp only [Inner, isQuiet, payload, Nat.testBit_eq_decide_div_mod_eq, decide_eq_false_iff_not,
    decide_eq_true_eq, decide_eq_decide]
  omega

/-- A position is the signed magnitude counted from the middle, where the negative zero makes room for
the positive one. -/
theorem rankKey_eq (x : Binary32) :
    (x.rankKey : Int) = 0x80000000 + x.signed - if x.isNegative = true then 1 else 0 := by
  have word := x.bits.toNat_lt
  rw [rankKey]
  split
  · rename_i negative
    have set := x.isNegative_iff.mp negative
    rw [signed_of_negative negative, magnitude_eq_mod]
    omega
  · rename_i positive
    have unset := x.isNegative_iff.not.mp positive
    rw [signed_of_positive (Bool.eq_false_of_not_eq_true positive), magnitude_eq_mod]
    omega

theorem rankKey_le_iff : x.rankKey ≤ y.rankKey ↔
    x.signed < y.signed ∨ x.signed = y.signed ∧ (x.isNegative = true ∨ y.isNegative = false) := by
  rw [← Int.ofNat_le, rankKey_eq, rankKey_eq]
  cases signX : x.isNegative <;> cases signY : y.isNegative
  · simp only [Bool.false_eq_true, if_false, or_true, and_true]
    omega
  · simp only [Bool.false_eq_true, Bool.true_eq_false, if_false, if_true, or_false, and_false]
    omega
  · have below := signed_of_negative signX
    have above := signed_of_positive signY
    simp only [Bool.false_eq_true, if_false, if_true, or_true, and_true]
    omega
  · simp only [if_true, true_or, and_true]
    omega

theorem AtMost.signed_le (ordered : x.AtMost y) :
    x.signed < y.signed ∨ x.signed = y.signed ∧ (x.isNegative = true ∨ y.isNegative = false) := by
  cases ordered with
  | less below => exact Or.inl (float_lt_iff.mp below).2.2
  | equal same signs => exact Or.inr ⟨(float_beq_iff.mp same).2.2, signs⟩
  | lowest wrong negative other =>
    have past := x.isNaN_iff.mp wrong
    have low := signed_of_negative negative
    left
    rcases other with number | positive
    · have bounds := signed_bounds number
      omega
    · have high := signed_of_positive positive
      omega
  | highest wrong positive other =>
    have past := y.isNaN_iff.mp wrong
    have high := signed_of_positive positive
    left
    rcases other with number | negative
    · have bounds := signed_bounds number
      omega
    · have low := signed_of_negative negative
      omega
  | negativePair wrong signs inward =>
    rw [inner_iff wrong.2 wrong.1] at inward
    rw [signed_of_negative signs.1, signed_of_negative signs.2]
    simp only [signs.1, true_or, and_true]
    omega
  | positivePair wrong signs outward =>
    rw [inner_iff wrong.1 wrong.2] at outward
    rw [signed_of_positive signs.1, signed_of_positive signs.2]
    simp only [signs.2, or_true, and_true]
    omega

theorem atMost_of_signed_le (ordered : x.signed < y.signed ∨
    x.signed = y.signed ∧ (x.isNegative = true ∨ y.isNegative = false)) : x.AtMost y := by
  cases left : x.isNaN <;> cases right : y.isNaN
  · rcases ordered with below | ⟨same, signs⟩
    · exact .less (float_lt_iff.mpr ⟨left, right, below⟩)
    · exact .equal (float_beq_iff.mpr ⟨left, right, same⟩) signs
  · have past := y.isNaN_iff.mp right
    have bounds := signed_bounds left
    refine .highest right ?_ (Or.inl left)
    by_contra negative
    have low := signed_of_negative (Bool.eq_true_of_not_eq_false negative)
    omega
  · have past := x.isNaN_iff.mp left
    have bounds := signed_bounds right
    refine .lowest left ?_ (Or.inl right)
    by_contra positive
    have high := signed_of_positive (Bool.eq_false_of_not_eq_true positive)
    omega
  · cases signX : x.isNegative <;> cases signY : y.isNegative
    · refine .positivePair ⟨left, right⟩ ⟨signX, signY⟩ ?_
      rw [inner_iff left right]
      rw [signed_of_positive signX, signed_of_positive signY] at ordered
      omega
    · have past := x.isNaN_iff.mp left
      have high := signed_of_positive signX
      have low := signed_of_negative signY
      omega
    · exact .lowest left signX (Or.inr signY)
    · refine .negativePair ⟨left, right⟩ ⟨signX, signY⟩ ?_
      rw [inner_iff right left]
      rw [signed_of_negative signX, signed_of_negative signY] at ordered
      omega

theorem atMost_iff : x.AtMost y ↔ x.rankKey ≤ y.rankKey := by
  rw [rankKey_le_iff]
  exact ⟨AtMost.signed_le, atMost_of_signed_le⟩

instance : DecidableRel AtMost := fun _ _ => decidable_of_iff _ atMost_iff.symm

instance : IsLinearOrder Binary32 AtMost where
  refl _ := atMost_iff.mpr le_rfl
  trans _ _ _ first second := atMost_iff.mpr ((atMost_iff.mp first).trans (atMost_iff.mp second))
  antisymm _ _ up down := rankKey_injective ((atMost_iff.mp up).antisymm (atMost_iff.mp down))
  total _ _ := (Nat.le_total _ _).imp atMost_iff.mpr atMost_iff.mpr

/-- Quiet and signalling NaNs of either sign stand around the infinities, and the zeros between the
least numbers. -/
example : List.Pairwise (fun x y => x.AtMost y ∧ ¬ y.AtMost x)
    ([0xffc00000, 0xff800001, 0xff800000, 0x80000001, 0x80000000, 0, 1, 0x7f800000, 0x7f800001,
      0x7fc00000].map mk) := by decide

end EmbeddingIndex.Binary32
