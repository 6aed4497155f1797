import EmbeddingIndex.Proofs.Number.Order
/-!
How far the operations on single-precision numbers can go, told by the orders of their operands.
-/

namespace EmbeddingIndex

open Float.Model Float.Model.UnpackedFloat

/-- Positive and of no less than an order, or infinite. -/
def Reaches (low : Int) : UnpackedFloat → Prop
  | .infinity .positive => True
  | .finite .positive m e _ => Canonical m e ∧ low ≤ order m e
  | _ => False

def Unsigned (x : UnpackedFloat) : Prop := x = .zero .positive ∨ Reaches (-149) x

inductive Bounded : UnpackedFloat → Prop
  | zero (sign : Sign) : Bounded (.zero sign)
  | finite (sign : Sign) (m : Nat) (e : Int) (positive : 0 < m) (canonical : Canonical m e)
      (most : e ≤ 104) : Bounded (.finite sign m e positive)

variable {x y : UnpackedFloat} {low : Int} {sign : Sign} {m : Nat} {e : Int}

theorem Canonical.order_ge (canonical : Canonical m e) : -149 ≤ order m e := by
  have := canonical.lowest
  unfold order
  omega

theorem Reaches.unsigned (reaches : Reaches low x) : Unsigned x := by
  right
  match x, reaches with
  | .infinity .positive, _ => trivial
  | .finite .positive m e positive, ⟨canonical, _⟩ => exact ⟨canonical, canonical.order_ge⟩

theorem Reaches.isNaN (reaches : Reaches low x) : x.isNaN = false := by
  match x, reaches with
  | .infinity .positive, _ => rfl
  | .finite .positive _ _ _, _ => rfl

theorem Unsigned.isNaN (unsigned : Unsigned x) : x.isNaN = false := by
  rcases unsigned with rfl | reaches
  · rfl
  · exact reaches.isNaN

theorem Bounded.isNaN (bounded : Bounded x) : x.isNaN = false := by
  cases bounded <;> rfl

theorem reaches_stored (positive : 0 < m) (canonical : Canonical m e) (least : low ≤ order m e) :
    Reaches low (stored (.finite .positive m e positive)) := by
  rw [stored_finite _ _ canonical]
  split
  · exact ⟨canonical, least⟩
  · trivial

theorem Reaches.stored (reaches : Reaches low x) : Reaches low (stored x) := by
  match x, reaches with
  | .infinity .positive, _ =>
    rw [stored_infinity]
    trivial
  | .finite .positive m e positive, ⟨canonical, least⟩ =>
    exact reaches_stored positive canonical least

theorem Rounded.reaches (rounded : Rounded .positive m e x) (positive : 0 < m)
    (least : low ≤ order m e) (inside : -149 ≤ low) : Reaches low (EmbeddingIndex.stored x) := by
  cases rounded with
  | lost small => omega
  | kept m' e' positive' canonical above most =>
    exact reaches_stored positive' canonical (by omega)

theorem Rounded.unsigned (rounded : Rounded .positive m e x) : Unsigned (EmbeddingIndex.stored x) := by
  cases rounded with
  | lost small => exact Or.inl (stored_zero _)
  | kept m' e' positive' canonical above most =>
    exact (reaches_stored positive' canonical canonical.order_ge).unsigned

theorem Rounded.isFinite (rounded : Rounded sign m e x) (small : order m e ≤ 126) :
    (EmbeddingIndex.stored x).isFinite = true := by
  cases rounded with
  | lost small =>
    rw [stored_zero]
    rfl
  | kept m' e' positive' canonical above most =>
    have := canonical.full
    unfold order at *
    rw [stored_finite _ _ canonical, if_pos (by omega)]
    rfl

theorem log2_add_le_log2_mul {m n : Nat} (left : 0 < m) (right : 0 < n) :
    m.log2 + n.log2 ≤ (m * n).log2 := by
  rw [Nat.le_log2 (Nat.mul_pos left right).ne', Nat.pow_add]
  exact Nat.mul_le_mul (Nat.log2_self_le left.ne') (Nat.log2_self_le right.ne')

theorem square_rounded (sign : Sign) (positive : 0 < m) (canonical : Canonical m e) :
    ∃ n, 0 < n ∧ 2 * order m e ≤ order n (e + e) ∧
      Rounded .positive n (e + e)
        (mul .binary32 (.finite sign m e positive) (.finite sign m e positive)) := by
  have doubled := log2_add_le_log2_mul positive positive
  have full := canonical.full
  have ample : Ample (m * m) (e + e) := by
    unfold Ample
    omega
  have same : Sign.positive = sign * sign := by cases sign <;> rfl
  refine ⟨m * m, Nat.mul_pos positive positive, ?_, ?_⟩
  · unfold order
    omega
  · rw [same]
    exact rounded (sign * sign) ample .exact

theorem Bounded.unsigned_square (bounded : Bounded x) :
    Unsigned (stored (mul .binary32 x x)) := by
  cases bounded with
  | zero sign =>
    have same : mul .binary32 (.zero sign) (.zero sign) = .zero .positive := by cases sign <;> rfl
    rw [same]
    exact Or.inl (stored_zero _)
  | finite sign m e positive canonical _ =>
    obtain ⟨n, _, _, result⟩ := square_rounded sign positive canonical
    exact result.unsigned

theorem reaches_square (sign : Sign) (positive : 0 < m) (canonical : Canonical m e)
    (least : low ≤ 2 * order m e) (inside : -149 ≤ low) :
    Reaches low (stored (mul .binary32 (.finite sign m e positive) (.finite sign m e positive))) := by
  obtain ⟨n, positive', above, result⟩ := square_rounded sign positive canonical
  exact result.reaches positive' (least.trans above) inside

theorem round_rounded (sign : Sign) (positive : 0 < m) (e : Int) :
    ∃ m' e', 0 < m' ∧ order m' e' = order m e ∧
      Rounded sign m' e' (UnpackedFloat.round .binary32 sign m e) := by
  let k := (e - Format.binary32.targetExponent (totalExponent m e)).toNat
  have shift : k = (e - max (m.log2 + e - 23) (-149)).toNat := by
    simp only [k, Format.targetExponent, totalExponent, Format.mantissaBits, Format.minExponent]
    omega
  have bits := log2_shiftLeft positive k
  refine ⟨m <<< k, e - k, ?_, ?_, rounded sign ?_ .exact⟩
  · exact shiftLeft_pos positive k
  · rw [order, order, bits]
    omega
  · rw [Ample, bits]
    omega

theorem add_rounded {m₁ m₂ : Nat} (positive₁ : 0 < m₁) (positive₂ : 0 < m₂) (e₁ e₂ : Int) :
    ∃ m e, 0 < m ∧ order m₁ e₁ ≤ order m e ∧ order m₂ e₂ ≤ order m e ∧
      Rounded .positive m e
        (add .binary32 (.finite .positive m₁ e₁ positive₁) (.finite .positive m₂ e₂ positive₂)) := by
  let e := min e₁ e₂
  let sum := m₁ <<< (e₁ - e).toNat + m₂ <<< (e₂ - e).toNat
  have bits₁ : m₁.log2 + (e₁ - e).toNat ≤ sum.log2 := by
    rw [← log2_shiftLeft positive₁]
    exact log2_mono (Nat.le_add_right _ _)
  have bits₂ : m₂.log2 + (e₂ - e).toNat ≤ sum.log2 := by
    rw [← log2_shiftLeft positive₂]
    exact log2_mono (Nat.le_add_left _ _)
  have positive : 0 < sum := Nat.add_pos_left (shiftLeft_pos positive₁ _) _
  obtain ⟨m', e', positive', same, result⟩ := round_rounded .positive positive e
  have adds : add .binary32 (.finite .positive m₁ e₁ positive₁) (.finite .positive m₂ e₂ positive₂) =
      UnpackedFloat.round .binary32 .positive sum e := by
    have above : compare (sum : Int) 0 = .gt := by
      rw [compare_gt_iff_gt]
      omega
    change normalize .binary32 (sum : Int) e .positive = _
    unfold UnpackedFloat.normalize
    rw [above]
    rfl
  refine ⟨m', e', positive', ?_, ?_, adds ▸ result⟩
  · rw [same]
    unfold order
    omega
  · rw [same]
    unfold order
    omega

theorem Reaches.zero_add (reaches : Reaches low x) : add .binary32 (.zero .positive) x = x := by
  match x, reaches with
  | .infinity .positive, _ => rfl
  | .finite .positive _ _ _, _ => rfl

theorem Reaches.add_zero (reaches : Reaches low x) : add .binary32 x (.zero .positive) = x := by
  match x, reaches with
  | .infinity .positive, _ => rfl
  | .finite .positive _ _ _, _ => rfl

theorem reaches_add (left : Unsigned x) (right : Unsigned y) (inside : -149 ≤ low)
    (reaches : Reaches low x ∨ Reaches low y) : Reaches low (stored (add .binary32 x y)) := by
  have boundless : Reaches low (stored (.infinity .positive)) := by
    rw [stored_infinity]
    trivial
  rcases left with rfl | left
  · have reaches := reaches.resolve_left id
    rw [reaches.zero_add]
    exact reaches.stored
  rcases right with rfl | right
  · have reaches := reaches.resolve_right id
    rw [reaches.add_zero]
    exact reaches.stored
  match x, y, left, right with
  | .infinity .positive, .infinity .positive, _, _ => exact boundless
  | .infinity .positive, .finite .positive _ _ _, _, _ => exact boundless
  | .finite .positive _ _ _, .infinity .positive, _, _ => exact boundless
  | .finite .positive m₁ e₁ positive₁, .finite .positive m₂ e₂ positive₂, _, _ =>
    obtain ⟨m, e, positive, above₁, above₂, result⟩ := add_rounded positive₁ positive₂ e₁ e₂
    have least : low ≤ order m e := by
      rcases reaches with reaches | reaches
      · exact reaches.2.trans above₁
      · exact reaches.2.trans above₂
    exact result.reaches positive least inside

theorem unsigned_add (left : Unsigned x) (right : Unsigned y) :
    Unsigned (stored (add .binary32 x y)) := by
  rcases left with rfl | reaches
  · rcases right with rfl | reaches
    · exact Or.inl (stored_zero _)
    · exact Or.inr (reaches_add (Or.inl rfl) (Or.inr reaches) (le_refl _) (Or.inr reaches))
  · exact Or.inr (reaches_add (Or.inr reaches) right (le_refl _) (Or.inl reaches))

theorem log2_sqrt_ge (m : Nat) : m.log2 / 2 ≤ m.sqrt.log2 := by
  rcases Nat.eq_zero_or_pos m with rfl | positive
  · decide
  · rw [Nat.le_log2 (Nat.sqrt_pos.mpr positive).ne', Nat.le_sqrt, ← Nat.pow_add]
    exact (Nat.le_log2 positive.ne').mp (by omega)

theorem sqrt_rounded (positive : 0 < m) (e : Int) :
    ∃ n e', 0 < n ∧ order m e / 2 ≤ order n e' ∧
      Rounded .positive n e' (sqrt .binary32 (.finite .positive m e positive)) := by
  let e' := min (e / 2) (max ((m.log2 + 1 + e + 1) / 2 - 24) (-149))
  let k := (e - 2 * e').toNat
  have target : (sqrtCore .binary32 m e).2.1 = e' := by
    simp only [sqrtCore, Format.targetExponent, totalExponent, Format.mantissaBits,
      Format.minExponent]
    rfl
  have root : (sqrtCore .binary32 m e).1 = (m <<< k).sqrt := by
    change (m <<< (e - 2 * (sqrtCore .binary32 m e).2.1).toNat).sqrt = _
    rw [target]
  have wide := log2_sqrt_ge (m <<< k)
  have bits := log2_shiftLeft positive k
  have ample : Ample (m <<< k).sqrt e' := by
    unfold Ample
    omega
  refine ⟨(m <<< k).sqrt, e', ?_, ?_, ?_⟩
  · exact Nat.sqrt_pos.mpr (shiftLeft_pos positive k)
  · unfold order
    omega
  · change Rounded _ _ _ (roundWithAccuracy .binary32 .positive (sqrtCore .binary32 m e).1
      (sqrtCore .binary32 m e).2.1 (sqrtCore .binary32 m e).2.2)
    rw [root, target]
    exact rounded .positive ample _

theorem reaches_sqrt (reaches : Reaches low x) (inside : -149 ≤ low / 2) :
    Reaches (low / 2) (stored (sqrt .binary32 x)) := by
  match x, reaches with
  | .infinity .positive, _ =>
    change Reaches _ (EmbeddingIndex.stored (.infinity .positive))
    rw [stored_infinity]
    trivial
  | .finite .positive m e positive, ⟨_, least⟩ =>
    obtain ⟨n, e', positive', above, result⟩ := sqrt_rounded positive e
    exact result.reaches positive' (by omega) inside

theorem div_rounded (sign₁ sign₂ : Sign) {m₁ m₂ : Nat} (positive₁ : 0 < m₁) (positive₂ : 0 < m₂)
    (e₁ e₂ : Int) :
    ∃ m e, order m e ≤ max (order m₁ e₁ - order m₂ e₂) (-149) ∧
      Rounded (sign₁ / sign₂) m e
        (div .binary32 (.finite sign₁ m₁ e₁ positive₁) (.finite sign₂ m₂ e₂ positive₂)) := by
  let e := min (e₁ - e₂) (max (m₁.log2 + e₁ - (m₂.log2 + e₂) - 24) (-149))
  let k := (e₁ - e₂ - e).toNat
  have target : (divCore .binary32 m₁ e₁ m₂ e₂).2.1 = e := by
    simp only [divCore, Format.targetExponent, totalExponent, Format.mantissaBits,
      Format.minExponent, e]
    omega
  have quotient : (divCore .binary32 m₁ e₁ m₂ e₂).1 = (m₁ <<< k) / m₂ := by
    change (m₁ <<< (e₁ - e₂ - (divCore .binary32 m₁ e₁ m₂ e₂).2.1).toNat) / m₂ = _
    rw [target]
  have bits := log2_shiftLeft positive₁ k
  have high : ((m₁ <<< k) / m₂).log2 ≤ m₁.log2 + k - m₂.log2 := by
    rw [← bits, ← log2_div_two_pow]
    exact log2_mono (Nat.div_le_div_left (Nat.log2_self_le positive₂.ne') (Nat.two_pow_pos _))
  have low : m₁.log2 + k - (m₂.log2 + 1) ≤ ((m₁ <<< k) / m₂).log2 := by
    rw [← bits, ← log2_div_two_pow]
    exact log2_mono (Nat.div_le_div_left Nat.lt_log2_self.le positive₂)
  have ample : Ample (m₁ <<< k / m₂) e := by
    unfold Ample
    omega
  refine ⟨m₁ <<< k / m₂, e, ?_, ?_⟩
  · unfold order
    omega
  · change Rounded _ _ _ (roundWithAccuracy .binary32 _ (divCore .binary32 m₁ e₁ m₂ e₂).1
      (divCore .binary32 m₁ e₁ m₂ e₂).2.1 (divCore .binary32 m₁ e₁ m₂ e₂).2.2)
    rw [quotient, target]
    exact rounded _ ample _

theorem isFinite_div (bounded : Bounded x) (reaches : Reaches low y)
    (small : ∀ sign m e positive, x = .finite sign m e positive → order m e ≤ 126 + low) :
    (stored (div .binary32 x y)).isFinite = true := by
  have nothing (sign : Sign) : (stored (.zero sign)).isFinite = true := by
    rw [stored_zero]
    rfl
  cases bounded with
  | zero sign =>
    match y, reaches with
    | .infinity .positive, _ => exact nothing _
    | .finite .positive _ _ _, _ => exact nothing _
  | finite sign m₁ e₁ positive₁ _ _ =>
    match y, reaches with
    | .infinity .positive, _ => exact nothing _
    | .finite .positive m₂ e₂ positive₂, ⟨_, least⟩ =>
      obtain ⟨m, e, above, result⟩ := div_rounded sign .positive positive₁ positive₂ e₁ e₂
      have bound := small sign m₁ e₁ positive₁ rfl
      exact result.isFinite (by omega)

end EmbeddingIndex
