import Mathlib.Order.Bounds.Basic
import OpenClHash.Library.BitSmear
import OpenClHash.Sizing.Source

/-!
Owns the specification of `closest_power_of_2`: the five smears of `x - 1` reach every bit
of an `int`, so the increment gives the least power of two that is not below a positive
`x`, or overflows. A `size_t` loses its high half on the way in.
-/

namespace OpenClHash.Sizing

open OpenClHash.Library

/-- On a nonnegative `int` the arithmetic shift is the plain one. -/
theorem smear_toNat {x : BitVec 32} (nonnegative : x.toNat < 2 ^ 31) (distance : Nat) :
    (smear x distance).toNat = BitSmear.smear x.toNat distance := by
  have sign : x.msb = false := BitVec.msb_eq_false_iff_two_mul_lt.mpr (by omega)
  rw [smear, BitVec.sshiftRight_eq_of_msb_false sign, BitVec.toNat_or, BitVec.toNat_ushiftRight,
    BitSmear.smear]

theorem smear_nonnegative {x : BitVec 32} (nonnegative : x.toNat < 2 ^ 31) (distance : Nat) :
    (smear x distance).toNat < 2 ^ 31 := by
  rw [smear_toNat nonnegative, BitSmear.smear]
  apply Nat.or_lt_two_pow nonnegative
  exact Nat.lt_of_le_of_lt (Nat.shiftRight_le _ _) nonnegative

/-- One line `x |= x >> width` of the source, after the lines before it covered `width` bits. -/
theorem covers_smear {value width : Nat} {x : BitVec 32} (nonnegative : x.toNat < 2 ^ 31)
    (covers : BitSmear.Covers value width x.toNat) :
    BitSmear.Covers value (2 * width) (smear x width).toNat := by
  rw [smear_toNat nonnegative]
  exact covers.smear

theorem smeared_covers {x : BitVec 32} (nonnegative : x.toNat < 2 ^ 31) :
    BitSmear.Covers x.toNat 32
      (smear (smear (smear (smear (smear x 1) 2) 4) 8) 16).toNat := by
  have nonnegative1 := smear_nonnegative nonnegative 1
  have nonnegative2 := smear_nonnegative nonnegative1 2
  have nonnegative4 := smear_nonnegative nonnegative2 4
  have nonnegative8 := smear_nonnegative nonnegative4 8
  have covers1 := covers_smear nonnegative (BitSmear.covers_self x.toNat)
  have covers2 := covers_smear nonnegative1 covers1
  have covers4 := covers_smear nonnegative2 covers2
  have covers8 := covers_smear nonnegative4 covers4
  exact covers_smear nonnegative8 covers8

/-- For a positive `int` the last line of the source increments the smeared bits to a power
of two. -/
theorem smeared_succ {x : BitVec 32} (positive : 1 ≤ x.toNat) (nonnegative : x.toNat < 2 ^ 31) :
    (smear (smear (smear (smear (smear (x - 1#32) 1) 2) 4) 8) 16).toNat + 1 =
      2 ^ Nat.clog 2 x.toNat := by
  have decremented : (x - 1#32).toNat = x.toNat - 1 :=
    BitVec.toNat_sub_of_le (BitVec.le_def.mpr positive)
  have covers := smeared_covers (decremented ▸ Nat.lt_of_le_of_lt (Nat.sub_le _ 1) nonnegative)
  rw [covers.succ_eq (by omega), decremented, Nat.sub_add_cancel positive]

theorem not_slt_zero {x : BitVec 32} (nonnegative : x.toNat < 2 ^ 31) : x.slt 0#32 = false := by
  rw [BitVec.slt_zero_eq_msb, BitVec.msb_eq_false_iff_two_mul_lt]
  omega

theorem closestPowerOf2_eq {x : BitVec 32} (positive : 1 ≤ x.toNat) (inRange : x.toNat ≤ 2 ^ 30) :
    closestPowerOf2 x = .ok (BitVec.ofNat 64 (2 ^ Nat.clog 2 x.toNat)) := by
  have incremented := smeared_succ positive (by omega)
  unfold closestPowerOf2
  generalize smear (smear (smear (smear (smear (x - 1#32) 1) 2) 4) 8) 16 = smeared at incremented
  have rounded : 2 ^ Nat.clog 2 x.toNat ≤ 2 ^ 30 :=
    Nat.pow_le_pow_right (by decide) (Nat.clog_le_of_le_pow inRange)
  have noOverflow : smeared ≠ BitVec.intMax 32 := by
    intro atMax
    have : smeared.toNat = 2 ^ 31 - 1 := by rw [atMax]; decide
    omega
  have sum : (smeared + 1#32).toNat = 2 ^ Nat.clog 2 x.toNat := by
    rw [BitVec.toNat_add_of_lt (by simp; omega), ← incremented]
    rfl
  have sumSign : (smeared + 1#32).msb = false := by
    rw [BitVec.msb_eq_false_iff_two_mul_lt, sum]
    omega
  rw [not_slt_zero (by omega), if_neg (by decide), if_neg noOverflow,
    BitVec.signExtend_eq_setWidth_of_msb_false sumSign]
  congr 1
  apply BitVec.eq_of_toNat_eq
  rw [BitVec.toNat_setWidth, sum, BitVec.toNat_ofNat]

/-- Above `2 ^ 30` the power of two is `2 ^ 31`, which no `int` holds. -/
theorem closestPowerOf2_overflow {x : BitVec 32} (large : 2 ^ 30 < x.toNat)
    (nonnegative : x.toNat < 2 ^ 31) : closestPowerOf2 x = .error .signedOverflow := by
  have exponent : Nat.clog 2 x.toNat = 31 := by
    apply Nat.le_antisymm (Nat.clog_le_of_le_pow nonnegative.le)
    exact (Nat.lt_clog_iff_pow_lt (by decide)).mpr large
  have incremented := smeared_succ (by omega) nonnegative
  rw [exponent] at incremented
  have atMax : smear (smear (smear (smear (smear (x - 1#32) 1) 2) 4) 8) 16 = BitVec.intMax 32 := by
    apply BitVec.eq_of_toNat_eq
    rw [BitVec.toNat_intMax]
    omega
  unfold closestPowerOf2
  rw [not_slt_zero nonnegative, if_neg (by decide)]
  exact if_pos atMax

theorem closestPowerOf2_negative {x : BitVec 32} (negative : 2 ^ 31 ≤ x.toNat) :
    closestPowerOf2 x = .ok 0#64 := by
  have sign : x.slt 0#32 = true := by
    rw [BitVec.slt_zero_eq_msb, BitVec.msb_eq_true_iff_two_mul_ge]
    omega
  exact if_pos sign

/-! ### The least power of two -/

/-- The least power of two that is not below `x`. -/
def roundedUp (x : Nat) : Nat := 2 ^ Nat.clog 2 x

theorem roundedUp_le {x : Nat} (inRange : x ≤ 2 ^ 30) : roundedUp x ≤ 2 ^ 30 :=
  Nat.pow_le_pow_right (by decide) (Nat.clog_le_of_le_pow inRange)

theorem le_roundedUp (x : Nat) : x ≤ roundedUp x := Nat.le_pow_clog (by decide) x

theorem roundedUp_isLeast (x : Nat) :
    IsLeast {size | (∃ exponent, size = 2 ^ exponent) ∧ x ≤ size} (roundedUp x) := by
  constructor
  · exact ⟨⟨Nat.clog 2 x, rfl⟩, Nat.le_pow_clog (by decide) x⟩
  · intro size ⟨⟨exponent, power⟩, above⟩
    rw [power] at above ⊢
    exact Nat.pow_le_pow_right (by decide) (Nat.clog_le_of_le_pow above)

theorem roundedUp_mono {x y : Nat} (ordered : x ≤ y) : roundedUp x ≤ roundedUp y :=
  (roundedUp_isLeast x).2 ⟨(roundedUp_isLeast y).1.1, ordered.trans (le_roundedUp y)⟩

theorem roundedUp_pow (exponent : Nat) : roundedUp (2 ^ exponent) = 2 ^ exponent := by
  rw [roundedUp, Nat.clog_pow 2 exponent (by decide)]

/-- Half of the least power of two that is not below `x` is below `x`. -/
theorem roundedUp_lt_two_mul {x : Nat} (positive : 1 ≤ x) : roundedUp x < 2 * x := by
  rcases Nat.eq_or_lt_of_le positive with one | more
  · rw [← one]
    decide
  · have exponentPos : 0 < Nat.clog 2 x := Nat.clog_pos (by decide) more
    have half : 2 ^ (Nat.clog 2 x).pred < x := Nat.pow_pred_clog_lt_self (by decide) more
    rw [roundedUp, ← Nat.succ_pred_eq_of_pos exponentPos, Nat.pow_succ']
    exact Nat.mul_lt_mul_of_pos_left half (by decide)

/-! ### The range of the rounding -/

/-- The `int`s that `closest_power_of_2` rounds up without overflow. -/
def Roundable (x : BitVec 32) : Prop := 1 ≤ x.toInt ∧ x.toInt ≤ 2 ^ 30

/-- The first `count` smears of the source, each over twice the distance of the one before. -/
def smears (x : BitVec 32) : Nat → BitVec 32
  | 0 => x
  | count + 1 => smear (smears x count) (2 ^ count)

/-- Every line of the source computes on integers: the decrement and the increment do not
wrap, and the smears never shift a negative value. -/
structure ExactSteps (x : BitVec 32) : Prop where
  decremented : (x - 1#32).toInt = x.toInt - 1
  smeared : ∀ count ≤ 5, 0 ≤ (smears (x - 1#32) count).toInt
  incremented : (smears (x - 1#32) 5 + 1#32).toInt = (smears (x - 1#32) 5).toInt + 1
  returned : closestPowerOf2 x = .ok ((smears (x - 1#32) 5 + 1#32).signExtend 64)

theorem eq_of_closestPowerOf2 {x : BitVec 32} {size : BitVec 64} (nonnegative : x.toNat < 2 ^ 31)
    (rounded : closestPowerOf2 x = .ok size) :
    size = (smears (x - 1#32) 5 + 1#32).signExtend 64 := by
  have unfolded : closestPowerOf2 x =
      if x.slt 0#32 then .ok 0#64
      else if smears (x - 1#32) 5 = BitVec.intMax 32 then .error .signedOverflow
      else .ok ((smears (x - 1#32) 5 + 1#32).signExtend 64) := rfl
  rw [unfolded, not_slt_zero nonnegative, if_neg (by decide)] at rounded
  split at rounded
  · exact absurd rounded (by simp)
  · exact (Except.ok.inj rounded).symm

theorem toInt_of_nonnegative {x : BitVec 32} (nonnegative : x.toNat < 2 ^ 31) :
    x.toInt = x.toNat :=
  BitVec.toInt_eq_toNat_of_lt (by omega)

theorem smears_nonnegative {x : BitVec 32} (nonnegative : x.toNat < 2 ^ 31) (count : Nat) :
    (smears x count).toNat < 2 ^ 31 := by
  induction count with
  | zero => exact nonnegative
  | succ count inductionHypothesis => exact smear_nonnegative inductionHypothesis (2 ^ count)

theorem Roundable.toNat {x : BitVec 32} (roundable : Roundable x) :
    x.toInt = x.toNat ∧ 1 ≤ x.toNat ∧ x.toNat ≤ 2 ^ 30 := by
  rcases roundable with ⟨positive, inRange⟩
  have nonnegative : 2 * x.toNat < 2 ^ 32 := by
    rw [← BitVec.toInt_pos_iff]
    omega
  have signed : x.toInt = x.toNat := toInt_of_nonnegative (by omega)
  omega

theorem Roundable.exactSteps {x : BitVec 32} (roundable : Roundable x) : ExactSteps x := by
  obtain ⟨signed, positive, inRange⟩ := roundable.toNat
  have decremented : (x - 1#32).toNat = x.toNat - 1 :=
    BitVec.toNat_sub_of_le (BitVec.le_def.mpr positive)
  have nonnegative : (x - 1#32).toNat < 2 ^ 31 := by omega
  have incremented : (smears (x - 1#32) 5).toNat + 1 = roundedUp x.toNat :=
    smeared_succ positive (by omega)
  have rounded := roundedUp_le inRange
  have sum : (smears (x - 1#32) 5 + 1#32).toNat = roundedUp x.toNat := by
    rw [BitVec.toNat_add_of_lt (by simp; omega), ← incremented]
    rfl
  exact {
    decremented := by
      rw [toInt_of_nonnegative nonnegative, signed]
      omega
    smeared := by
      intro count _
      rw [toInt_of_nonnegative (smears_nonnegative nonnegative count)]
      exact Int.natCast_nonneg _
    incremented := by
      rw [toInt_of_nonnegative (by omega), toInt_of_nonnegative (by omega)]
      omega
    returned := by
      have rounds := closestPowerOf2_eq positive inRange
      rw [← eq_of_closestPowerOf2 (by omega) rounds]
      exact rounds }

/-- On its range `closest_power_of_2` is `roundedUp`. -/
theorem Roundable.exists_size {x : BitVec 32} (roundable : Roundable x) :
    ∃ size, closestPowerOf2 x = .ok size ∧ size.toNat = roundedUp x.toNat := by
  obtain ⟨_, positive, inRange⟩ := roundable.toNat
  refine ⟨_, closestPowerOf2_eq positive inRange, ?_⟩
  rw [BitVec.toNat_ofNat]
  exact Nat.mod_eq_of_lt (Nat.lt_of_le_of_lt (roundedUp_le inRange) (by decide))

/-- From 1 to `2 ^ 30` the rounding is exact and nothing overflows, so it is monotone, keeps
powers of two, and stays below twice its argument. -/
theorem closestPowerOf2_exact :
    (∀ x, Roundable x → ExactSteps x ∧ ∃ size, closestPowerOf2 x = .ok size ∧
      IsLeast {power : Nat | (∃ exponent, power = 2 ^ exponent) ∧ x.toInt ≤ power} size.toNat ∧
      (size.toNat : Int) < 2 * x.toInt) ∧
    (∀ x y sizeX sizeY, Roundable x → Roundable y → x.toInt ≤ y.toInt →
      closestPowerOf2 x = .ok sizeX → closestPowerOf2 y = .ok sizeY →
      sizeX.toNat ≤ sizeY.toNat) ∧
    ∀ x size exponent, Roundable x → x.toInt = 2 ^ exponent → closestPowerOf2 x = .ok size →
      (size.toNat : Int) = x.toInt := by
  refine ⟨?_, ?_, ?_⟩
  · intro x roundable
    obtain ⟨signed, positive, _⟩ := roundable.toNat
    obtain ⟨size, rounded, sizeEq⟩ := roundable.exists_size
    refine ⟨roundable.exactSteps, size, rounded, ?_, ?_⟩
    · rw [sizeEq, signed]
      simp only [Int.ofNat_le]
      exact roundedUp_isLeast x.toNat
    · have below := roundedUp_lt_two_mul positive
      omega
  · intro x y sizeX sizeY roundableX roundableY ordered roundedX roundedY
    obtain ⟨signedX, _⟩ := roundableX.toNat
    obtain ⟨signedY, _⟩ := roundableY.toNat
    obtain ⟨_, sameX, sizeXEq⟩ := roundableX.exists_size
    obtain ⟨_, sameY, sizeYEq⟩ := roundableY.exists_size
    rw [Except.ok.inj (roundedX.symm.trans sameX), Except.ok.inj (roundedY.symm.trans sameY),
      sizeXEq, sizeYEq]
    exact roundedUp_mono (by omega)
  · intro x size exponent roundable power rounded
    obtain ⟨signed, _⟩ := roundable.toNat
    obtain ⟨_, same, sizeEq⟩ := roundable.exists_size
    have powerNat : x.toNat = 2 ^ exponent := by
      rw [signed] at power
      exact_mod_cast power
    rw [Except.ok.inj (rounded.symm.trans same), sizeEq, signed, powerNat, roundedUp_pow]

/-! ### Narrowed sizes -/

/-- The low half of `x` is an `int` whose rounding overflows. -/
def RoundingOverflows (x : Nat) : Prop := 2 ^ 30 < x % 2 ^ 32 ∧ x % 2 ^ 32 < 2 ^ 31

/-- What the rounding makes of the low half of `x`, which as an `int` may be zero or negative. -/
def narrowedUp (x : Nat) : Nat :=
  if 1 ≤ x % 2 ^ 32 ∧ x % 2 ^ 32 ≤ 2 ^ 30 then roundedUp (x % 2 ^ 32) else 0

theorem not_roundingOverflows {x : Nat} (inRange : x ≤ 2 ^ 30) : ¬ RoundingOverflows x := by
  rw [RoundingOverflows, Nat.mod_eq_of_lt (by omega)]
  omega

theorem narrowedUp_of_inRange {x : Nat} (positive : 1 ≤ x) (inRange : x ≤ 2 ^ 30) :
    narrowedUp x = roundedUp x := by
  rw [narrowedUp, Nat.mod_eq_of_lt (by omega), if_pos ⟨positive, inRange⟩]

theorem narrowedUp_le (x : Nat) : narrowedUp x ≤ 2 ^ 30 := by
  unfold narrowedUp
  split
  · rename_i inRange
    exact roundedUp_le inRange.2
  · exact Nat.zero_le _

theorem exists_narrowedUp {x : BitVec 64} (noOverflow : ¬ RoundingOverflows x.toNat) :
    ∃ size, closestPowerOf2 (x.setWidth 32) = .ok size ∧ size.toNat = narrowedUp x.toNat := by
  have low : (x.setWidth 32).toNat = x.toNat % 2 ^ 32 := BitVec.toNat_setWidth ..
  unfold narrowedUp
  by_cases inRange : 1 ≤ x.toNat % 2 ^ 32 ∧ x.toNat % 2 ^ 32 ≤ 2 ^ 30
  · rw [if_pos inRange]
    refine ⟨_, closestPowerOf2_eq (low ▸ inRange.1) (low ▸ inRange.2), ?_⟩
    rw [low, BitVec.toNat_ofNat]
    exact Nat.mod_eq_of_lt (Nat.lt_of_le_of_lt (roundedUp_le inRange.2) (by decide))
  · rw [if_neg inRange]
    refine ⟨0#64, ?_, rfl⟩
    by_cases negative : 2 ^ 31 ≤ (x.setWidth 32).toNat
    · exact closestPowerOf2_negative negative
    · -- What is left of the range of an `int` is zero.
      unfold RoundingOverflows at noOverflow
      have zero : x.setWidth 32 = 0#32 := by
        apply BitVec.eq_of_toNat_eq
        rw [low] at negative ⊢
        rw [BitVec.toNat_zero]
        omega
      rw [zero]
      decide

theorem closestPowerOf2_roundingOverflows {x : BitVec 64} (overflows : RoundingOverflows x.toNat) :
    closestPowerOf2 (x.setWidth 32) = .error .signedOverflow := by
  have low : (x.setWidth 32).toNat = x.toNat % 2 ^ 32 := BitVec.toNat_setWidth ..
  exact closestPowerOf2_overflow (low ▸ overflows.1) (low ▸ overflows.2)

end OpenClHash.Sizing
