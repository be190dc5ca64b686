import Mathlib.Algebra.BigOperators.Fin
import Mathlib.Data.List.OfFn

/-!
Owns digit lists of a fixed width: the `width` lowest base-`base` digits of a number,
least significant first. Numbers below `base ^ width` and lists of `width` digits
determine each other.
-/

namespace OpenClHash.Library.FixedDigits

variable {base : Nat} [NeZero base]

/-- The `width` lowest digits of `value`. -/
def digits (base : Nat) [NeZero base] (width value : Nat) : List (Fin base) :=
  (List.range width).map fun i => Fin.ofNat base (value / base ^ i)

@[simp] theorem digits_length (width value : Nat) : (digits base width value).length = width := by
  simp [digits]

theorem digits_eq_ofFn {width : Nat} (value : Fin (base ^ width)) :
    digits base width value.val = List.ofFn (finFunctionFinEquiv.symm value) := by
  apply List.ext_getElem
  · simp
  · intro index below _
    apply Fin.ext
    simp [digits]

theorem digits_injective {width left right : Nat} (leftBelow : left < base ^ width)
    (rightBelow : right < base ^ width)
    (same : digits base width left = digits base width right) : left = right := by
  have functions := digits_eq_ofFn ⟨left, leftBelow⟩ ▸ digits_eq_ofFn ⟨right, rightBelow⟩ ▸ same
  exact Fin.mk.inj (finFunctionFinEquiv.symm.injective (List.ofFn_injective functions))

/-- Every list of `width` digits is the digit list of a number below `base ^ width`. -/
theorem exists_digits {width : Nat} (list : List (Fin base)) (length : list.length = width) :
    ∃ value, value < base ^ width ∧ digits base width value = list := by
  subst length
  refine ⟨finFunctionFinEquiv list.get, Fin.isLt _, ?_⟩
  rw [digits_eq_ofFn, Equiv.symm_apply_apply, List.ofFn_get]

end OpenClHash.Library.FixedDigits
