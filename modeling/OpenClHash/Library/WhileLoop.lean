import Mathlib.Logic.Function.Iterate
import Mathlib.Algebra.Order.Group.Nat

/-!
Owns a `while` loop that need not end: a guard and a body over any type of states, the
number of rounds after which it leaves, the rule that a variant bounds this number, and
the rule for what the body keeps.
-/

namespace OpenClHash.Library.WhileLoop

variable {State : Type*}

/-- The guard holds before each of the first `rounds` rounds and no longer after them. -/
structure Leaves (guard : State → Prop) (body : State → State) (start : State) (rounds : Nat) :
    Prop where
  entered : ∀ round < rounds, guard (body^[round] start)
  left : ¬ guard (body^[rounds] start)

variable {guard : State → Prop} {body : State → State} {start : State} {rounds : Nat}

theorem leaves_zero (left : ¬ guard start) : Leaves guard body start 0 where
  entered := fun _ below => absurd below (Nat.not_lt_zero _)
  left := left

theorem Leaves.succ (enters : guard start) (leaves : Leaves guard body (body start) rounds) :
    Leaves guard body start (rounds + 1) where
  entered := by
    intro round below
    cases round with
    | zero => exact enters
    | succ round => exact leaves.entered round (Nat.lt_of_succ_lt_succ below)
  left := leaves.left

theorem Leaves.tail (leaves : Leaves guard body start (rounds + 1)) :
    Leaves guard body (body start) rounds where
  entered := fun round below => leaves.entered (round + 1) (Nat.succ_lt_succ below)
  left := leaves.left

/-- A number that every round lowers bounds the rounds. -/
theorem exists_leaves (variant : State → Nat)
    (lowered : ∀ state, guard state → variant (body state) < variant state) (start : State) :
    ∃ rounds ≤ variant start, Leaves guard body start rounds := by
  induction size : variant start using Nat.strong_induction_on generalizing start with
  | h size inductionHypothesis =>
      by_cases enters : guard start
      · have smaller := lowered start enters
        obtain ⟨rounds, bounded, leaves⟩ :=
          inductionHypothesis (variant (body start)) (size ▸ smaller) (body start) rfl
        exact ⟨rounds + 1, by omega, leaves.succ enters⟩
      · exact ⟨0, Nat.zero_le _, leaves_zero enters⟩

/-- What the body keeps while the guard holds, the loop keeps. -/
theorem Leaves.invariant (leaves : Leaves guard body start rounds) {Kept : State → Prop}
    (kept : ∀ state, guard state → Kept state → Kept (body state)) (initially : Kept start) :
    Kept (body^[rounds] start) := by
  have after : ∀ round ≤ rounds, Kept (body^[round] start) := by
    intro round within
    induction round with
    | zero => exact initially
    | succ round inductionHypothesis =>
        rw [Function.iterate_succ_apply']
        exact kept _ (leaves.entered round within) (inductionHypothesis (Nat.le_of_succ_le within))
  exact after rounds (Nat.le_refl rounds)

end OpenClHash.Library.WhileLoop
