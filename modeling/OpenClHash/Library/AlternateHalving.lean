import Mathlib.Data.Nat.Find
import Mathlib.Algebra.Order.Group.Nat

/-!
Owns two sizes that are halved in turns until their product is within a bound: the sizes
after any number of turns in closed form, and the least number of turns that reaches the
bound, with the recursion a loop follows. The product may be taken modulo a word size.

Two powers of two stay powers of two as long as neither of them is gone, and neither is
gone at the end exactly when the larger one is at most twice the bound times the smaller
one.
-/

namespace OpenClHash.Library.AlternateHalving

/-- The product of the two sizes after `turns` halvings, the first size before the second. -/
def product (first second turns : Nat) : Nat :=
  first / 2 ^ ((turns + 1) / 2) * (second / 2 ^ (turns / 2))

variable (modulus bound first second : Nat)

@[simp] theorem product_zero : product first second 0 = first * second := by
  simp [product]

/-- After one turn the sizes have changed places. -/
theorem product_succ (turns : Nat) :
    product first second (turns + 1) = product second (first / 2) turns := by
  have firstTurns : (turns + 1 + 1) / 2 = turns / 2 + 1 := by omega
  rw [product, product, firstTurns, Nat.pow_succ', ← Nat.div_div_eq_div_mul, Nat.mul_comm]

theorem product_le (turns : Nat) : product first second turns ≤ first * second :=
  Nat.mul_le_mul (Nat.div_le_self _ _) (Nat.div_le_self _ _)

/-- Enough turns leave nothing of the first size. -/
theorem exists_product_eq_zero : ∃ turns, product first second turns = 0 := by
  refine ⟨2 * first, ?_⟩
  have gone : first / 2 ^ ((2 * first + 1) / 2) = 0 := by
    rw [show (2 * first + 1) / 2 = first by omega]
    exact Nat.div_eq_of_lt Nat.lt_two_pow_self
  rw [product, gone, Nat.zero_mul]

theorem exists_product_le : ∃ turns, product first second turns ≤ bound := by
  obtain ⟨turns, gone⟩ := exists_product_eq_zero first second
  exact ⟨turns, gone ▸ Nat.zero_le bound⟩

theorem exists_product_mod_le : ∃ turns, product first second turns % modulus ≤ bound := by
  obtain ⟨turns, gone⟩ := exists_product_eq_zero first second
  refine ⟨turns, ?_⟩
  rw [gone, Nat.zero_mod]
  exact Nat.zero_le bound

/-- The least number of turns after which the product is within the bound. -/
def turns : Nat := Nat.find (exists_product_le bound first second)

/-- The least number of turns after which the product modulo `modulus` is within the bound. -/
def wrappedTurns : Nat := Nat.find (exists_product_mod_le modulus bound first second)

theorem product_turns_le : product first second (turns bound first second) ≤ bound :=
  Nat.find_spec (exists_product_le bound first second)

variable {modulus bound first second}

theorem turns_le {count : Nat} (within : product first second count ≤ bound) :
    turns bound first second ≤ count :=
  Nat.find_min' _ within

theorem lt_product_of_lt_turns {count : Nat} (before : count < turns bound first second) :
    bound < product first second count :=
  Nat.not_le.mp (Nat.find_min (exists_product_le bound first second) before)

theorem wrappedTurns_of_le (within : first * second % modulus ≤ bound) :
    wrappedTurns modulus bound first second = 0 := by
  rw [wrappedTurns, Nat.find_eq_zero, product_zero]
  exact within

theorem wrappedTurns_of_lt (exceeds : bound < first * second % modulus) :
    wrappedTurns modulus bound first second =
      wrappedTurns modulus bound second (first / 2) + 1 := by
  have later : ∃ n, product first second (n + 1) % modulus ≤ bound := by
    simp only [product_succ]
    exact exists_product_mod_le modulus bound second (first / 2)
  have start : ¬ product first second 0 % modulus ≤ bound := by
    rw [product_zero]
    exact Nat.not_le.mpr exceeds
  rw [wrappedTurns, Nat.find_comp_succ _ later start, wrappedTurns]
  simp only [product_succ]

/-- A product that fits never wraps. -/
theorem wrappedTurns_of_fits (fits : first * second < modulus) :
    wrappedTurns modulus bound first second = turns bound first second := by
  have unwrapped : ∀ count, product first second count % modulus = product first second count :=
    fun count => Nat.mod_eq_of_lt (Nat.lt_of_le_of_lt (product_le first second count) fits)
  simp only [wrappedTurns, turns, unwrapped]

/-! ### Powers of two -/

section Powers

variable {larger smaller : Nat}

theorem product_pow {count : Nat} (firstLeft : (count + 1) / 2 ≤ larger)
    (secondLeft : count / 2 ≤ smaller) :
    product (2 ^ larger) (2 ^ smaller) count = 2 ^ (larger + smaller - count) := by
  rw [product, Nat.pow_div firstLeft (by decide), Nat.pow_div secondLeft (by decide),
    ← Nat.pow_add]
  congr 1
  omega

/-- Neither of two powers of two, the larger one halved first, is halved away exactly when
the larger is at most twice the bound times the smaller. -/
theorem turns_pow_le_iff (ordered : smaller ≤ larger) :
    (turns bound (2 ^ larger) (2 ^ smaller) + 1) / 2 ≤ larger ∧
        turns bound (2 ^ larger) (2 ^ smaller) / 2 ≤ smaller ↔
      2 ^ larger ≤ 2 * bound * 2 ^ smaller := by
  constructor
  · intro left
    rcases left with ⟨firstLeft, secondLeft⟩
    have within := product_turns_le bound (2 ^ larger) (2 ^ smaller)
    rw [product_pow firstLeft secondLeft] at within
    calc 2 ^ larger
        ≤ 2 ^ (larger + smaller - turns bound (2 ^ larger) (2 ^ smaller) + 1 + smaller) :=
          Nat.pow_le_pow_right (by decide) (by omega)
      _ = 2 * 2 ^ (larger + smaller - turns bound (2 ^ larger) (2 ^ smaller)) * 2 ^ smaller := by
          rw [Nat.pow_add, Nat.pow_succ']
      _ ≤ 2 * bound * 2 ^ smaller := Nat.mul_le_mul_right _ (Nat.mul_le_mul_left 2 within)
  · intro close
    rcases Nat.eq_or_lt_of_le ordered with rfl | less
    · -- Equal sizes are both one after `2 * smaller` turns.
      have positive : 1 ≤ bound := by
        rcases Nat.eq_zero_or_pos bound with rfl | positive
        · rw [Nat.mul_zero, Nat.zero_mul] at close
          exact absurd close (Nat.not_le.mpr (Nat.two_pow_pos smaller))
        · exact positive
      have within : product (2 ^ smaller) (2 ^ smaller) (2 * smaller) ≤ bound := by
        rw [product_pow (by omega) (by omega)]
        simpa [Nat.two_mul] using positive
      have few := turns_le within
      omega
    · -- One more turn than that leaves the quotient of the two, halved.
      have within : product (2 ^ larger) (2 ^ smaller) (2 * smaller + 1) ≤ bound := by
        rw [product_pow (by omega) (by omega)]
        have split : 2 ^ larger = 2 * 2 ^ (larger + smaller - (2 * smaller + 1)) * 2 ^ smaller := by
          rw [← Nat.pow_succ', ← Nat.pow_add]
          congr 1
          omega
        rw [split] at close
        have halved := Nat.le_of_mul_le_mul_right close (Nat.two_pow_pos smaller)
        exact Nat.le_of_mul_le_mul_left halved (by decide)
      have few := turns_le within
      omega

/-- The last turn was needed: twice the final product exceeds the bound. -/
theorem lt_two_mul_product (exceeds : bound < 2 ^ larger * 2 ^ smaller)
    (firstLeft : (turns bound (2 ^ larger) (2 ^ smaller) + 1) / 2 ≤ larger)
    (secondLeft : turns bound (2 ^ larger) (2 ^ smaller) / 2 ≤ smaller) :
    bound < 2 * product (2 ^ larger) (2 ^ smaller) (turns bound (2 ^ larger) (2 ^ smaller)) := by
  have some : turns bound (2 ^ larger) (2 ^ smaller) ≠ 0 := by
    intro none
    have within := product_turns_le bound (2 ^ larger) (2 ^ smaller)
    rw [none, product_zero] at within
    omega
  obtain ⟨before, last⟩ := Nat.exists_eq_succ_of_ne_zero some
  have short : bound < product (2 ^ larger) (2 ^ smaller) before :=
    lt_product_of_lt_turns (by omega)
  have exponent : larger + smaller - before =
      larger + smaller - turns bound (2 ^ larger) (2 ^ smaller) + 1 := by omega
  rw [product_pow (by omega) (by omega), exponent, Nat.pow_succ'] at short
  rwa [product_pow firstLeft secondLeft]

end Powers

end OpenClHash.Library.AlternateHalving
