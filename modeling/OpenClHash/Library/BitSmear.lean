import Mathlib.Data.Nat.Log
import Mathlib.Data.Nat.Bitwise

/-!
Owns the bit smear: or-ing a number with itself shifted right by 1, 2, 4, … copies its
highest set bit into every lower position. Once the distances reach the width of the
number, adding one gives the least power of two above it.
-/

namespace OpenClHash.Library.BitSmear

def smear (value distance : Nat) : Nat := value ||| (value >>> distance)

/-- Bit `i` of `smeared` is set exactly when `value` has a bit among `i, …, i + width - 1`. -/
def Covers (value width smeared : Nat) : Prop :=
  ∀ i, smeared.testBit i = true ↔ ∃ j, i ≤ j ∧ j < i + width ∧ value.testBit j = true

variable {value width smeared : Nat}

theorem covers_self (value : Nat) : Covers value 1 value := by
  intro i
  constructor
  · intro bit
    exact ⟨i, Nat.le_refl i, Nat.lt_succ_self i, bit⟩
  · intro covered
    rcases covered with ⟨j, lower, upper, bit⟩
    have same : j = i := by omega
    rwa [same] at bit

/-- A smear by the width covered so far doubles it. -/
theorem Covers.smear (covers : Covers value width smeared) :
    Covers value (2 * width) (smear smeared width) := by
  intro i
  rw [BitSmear.smear, Nat.testBit_or, Nat.testBit_shiftRight, Bool.or_eq_true, covers,
    covers (width + i)]
  constructor
  · rintro (⟨j, lower, upper, bit⟩ | ⟨j, lower, upper, bit⟩)
    · exact ⟨j, lower, by omega, bit⟩
    · exact ⟨j, by omega, by omega, bit⟩
  · intro covered
    rcases covered with ⟨j, lower, upper, bit⟩
    by_cases near : j < i + width
    · exact .inl ⟨j, lower, near, bit⟩
    · exact .inr ⟨j, by omega, by omega, bit⟩

/-- With the whole width covered, bit `i` is set exactly up to the highest bit of `value`. -/
theorem Covers.testBit (covers : Covers value width smeared) (below : value < 2 ^ width)
    (i : Nat) : smeared.testBit i = true ↔ 2 ^ i ≤ value := by
  rw [covers]
  constructor
  · intro covered
    rcases covered with ⟨j, lower, _, bit⟩
    calc 2 ^ i ≤ 2 ^ j := Nat.pow_le_pow_right (by decide) lower
      _ ≤ value := Nat.ge_two_pow_of_testBit bit
  · intro reaches
    rcases Nat.exists_ge_and_testBit_of_ge_two_pow reaches with ⟨j, lower, bit⟩
    have inside : j < width := by
      have : 2 ^ j < 2 ^ width := Nat.lt_of_le_of_lt (Nat.ge_two_pow_of_testBit bit) below
      exact (Nat.pow_lt_pow_iff_right (by decide)).mp this
    exact ⟨j, lower, by omega, bit⟩

theorem Covers.succ_eq (covers : Covers value width smeared) (below : value < 2 ^ width) :
    smeared + 1 = 2 ^ Nat.clog 2 (value + 1) := by
  have allOnes : smeared = 2 ^ Nat.clog 2 (value + 1) - 1 := by
    apply Nat.eq_of_testBit_eq
    intro i
    rw [Bool.eq_iff_iff, covers.testBit below, Nat.testBit_two_pow_sub_one, decide_eq_true_iff,
      Nat.lt_clog_iff_pow_lt (by decide), Nat.lt_succ_iff]
  rw [allOnes, Nat.sub_add_cancel (Nat.one_le_two_pow)]

end OpenClHash.Library.BitSmear
