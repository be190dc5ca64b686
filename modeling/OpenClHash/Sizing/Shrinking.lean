import OpenClHash.Library.AlternateHalving
import OpenClHash.Library.WhileLoop
import OpenClHash.Sizing.Rounding

/-!
Owns what `work_sizes` returns, in terms of its inputs: each local size is its initial
size divided by a power of two, whose exponent is the dimension's share of the least
number of alternate halvings that bring the product within the group limits. The loop's
product wraps; for an image of up to `2 ^ 30` pixels a side it never does.
-/

namespace OpenClHash.Sizing

open OpenClHash.Library

/-! ### The shrinking loop -/

/-- How often each of the two sizes is halved, the first one beginning if `firstTurn`. -/
def shares (maxLocal size0 size1 : Nat) (firstTurn : Bool) : Nat × Nat :=
  if firstTurn then
    let turns := AlternateHalving.turns maxLocal size0 size1
    ((turns + 1) / 2, turns / 2)
  else
    let turns := AlternateHalving.turns maxLocal size1 size0
    (turns / 2, (turns + 1) / 2)

/-- The same for the product that the loop computes, which wraps. -/
def machineShares (maxLocal size0 size1 : Nat) (firstTurn : Bool) : Nat × Nat :=
  if firstTurn then
    let turns := AlternateHalving.wrappedTurns (2 ^ 64) maxLocal size0 size1
    ((turns + 1) / 2, turns / 2)
  else
    let turns := AlternateHalving.wrappedTurns (2 ^ 64) maxLocal size1 size0
    (turns / 2, (turns + 1) / 2)

section Shares

variable {maxLocal size0 size1 : Nat}

theorem machineShares_of_le (within : size0 * size1 % 2 ^ 64 ≤ maxLocal) (firstTurn : Bool) :
    machineShares maxLocal size0 size1 firstTurn = (0, 0) := by
  cases firstTurn with
  | false =>
      rw [Nat.mul_comm] at within
      simp only [machineShares, AlternateHalving.wrappedTurns_of_le within, Bool.false_eq_true,
        if_false]
  | true => simp only [machineShares, AlternateHalving.wrappedTurns_of_le within, if_true]

theorem machineShares_first (exceeds : maxLocal < size0 * size1 % 2 ^ 64) :
    machineShares maxLocal size0 size1 true =
      ((machineShares maxLocal (size0 / 2) size1 false).1 + 1,
        (machineShares maxLocal (size0 / 2) size1 false).2) := by
  simp only [machineShares, AlternateHalving.wrappedTurns_of_lt exceeds, if_true,
    Bool.false_eq_true, if_false]
  rw [Nat.add_assoc, Nat.add_div_right _ (by decide)]

theorem machineShares_second (exceeds : maxLocal < size0 * size1 % 2 ^ 64) :
    machineShares maxLocal size0 size1 false =
      ((machineShares maxLocal size0 (size1 / 2) true).1,
        (machineShares maxLocal size0 (size1 / 2) true).2 + 1) := by
  rw [Nat.mul_comm] at exceeds
  simp only [machineShares, AlternateHalving.wrappedTurns_of_lt exceeds, if_true,
    Bool.false_eq_true, if_false]
  rw [Nat.add_assoc, Nat.add_div_right _ (by decide)]

/-- The two agree on a product that fits. -/
theorem machineShares_of_fits (fits : size0 * size1 < 2 ^ 64) (firstTurn : Bool) :
    machineShares maxLocal size0 size1 firstTurn = shares maxLocal size0 size1 firstTurn := by
  cases firstTurn with
  | false =>
      rw [Nat.mul_comm] at fits
      simp only [machineShares, shares, AlternateHalving.wrappedTurns_of_fits fits,
        Bool.false_eq_true, if_false]
  | true =>
      simp only [machineShares, shares, AlternateHalving.wrappedTurns_of_fits fits, if_true]

end Shares

namespace Shrinking

variable (maxLocal : BitVec 64)

@[simp] theorem step_divW (sizes : Shrinking) : sizes.step.divW = !sizes.divW := rfl

theorem step_size0 (sizes : Shrinking) :
    sizes.step.size0.toNat = if sizes.divW then sizes.size0.toNat / 2 else sizes.size0.toNat := by
  cases turn : sizes.divW <;> simp [step, turn]

theorem step_size1 (sizes : Shrinking) :
    sizes.step.size1.toNat = if sizes.divW then sizes.size1.toNat else sizes.size1.toNat / 2 := by
  cases turn : sizes.divW <;> simp [step, turn]

theorem lt_product_iff (sizes : Shrinking) :
    maxLocal < sizes.size0 * sizes.size1 ↔
      maxLocal.toNat < sizes.size0.toNat * sizes.size1.toNat % 2 ^ 64 := by
  rw [BitVec.lt_def, BitVec.toNat_mul]

/-- The loop returns the initial sizes after their shares of the halvings. -/
theorem shrink_machineShares (sizes : Shrinking) :
    (shrink maxLocal sizes).size0.toNat =
        sizes.size0.toNat / 2 ^ (machineShares maxLocal.toNat sizes.size0.toNat sizes.size1.toNat
          sizes.divW).1 ∧
      (shrink maxLocal sizes).size1.toNat =
        sizes.size1.toNat / 2 ^ (machineShares maxLocal.toNat sizes.size0.toNat sizes.size1.toNat
          sizes.divW).2 := by
  induction sizes using shrink.induct maxLocal with
  | case1 sizes exceeds inductionHypothesis =>
      rw [shrink, dif_pos exceeds]
      rw [lt_product_iff maxLocal] at exceeds
      have halved := inductionHypothesis
      rw [step_size0, step_size1, step_divW] at halved
      cases turn : sizes.divW with
      | false =>
          rw [turn] at halved
          rw [machineShares_second exceeds, Nat.pow_succ', ← Nat.div_div_eq_div_mul]
          exact halved
      | true =>
          rw [turn] at halved
          rw [machineShares_first exceeds, Nat.pow_succ', ← Nat.div_div_eq_div_mul]
          exact halved
  | case2 sizes within =>
      rw [shrink, dif_neg within]
      rw [lt_product_iff maxLocal, Nat.not_lt] at within
      rw [machineShares_of_le within]
      simp

theorem shrink_within (sizes : Shrinking) :
    ¬ maxLocal < (shrink maxLocal sizes).size0 * (shrink maxLocal sizes).size1 := by
  induction sizes using shrink.induct maxLocal with
  | case1 sizes exceeds inductionHypothesis =>
      rw [shrink, dif_pos exceeds]
      exact inductionHypothesis
  | case2 sizes within =>
      rw [shrink, dif_neg within]
      exact within

/-- The guard of the loop. -/
def Exceeds (sizes : Shrinking) : Prop := maxLocal < sizes.size0 * sizes.size1

/-- Running the body while the guard holds is what `shrink` does. -/
theorem shrink_eq_iterate {sizes : Shrinking} {rounds : Nat}
    (leaves : WhileLoop.Leaves (Exceeds maxLocal) step sizes rounds) :
    shrink maxLocal sizes = step^[rounds] sizes := by
  induction rounds generalizing sizes with
  | zero =>
      have left : ¬ maxLocal < sizes.size0 * sizes.size1 := leaves.left
      rw [shrink, dif_neg left, Function.iterate_zero_apply]
  | succ rounds inductionHypothesis =>
      have enters : maxLocal < sizes.size0 * sizes.size1 :=
        leaves.entered 0 (Nat.succ_pos rounds)
      rw [shrink, dif_pos enters, Function.iterate_succ_apply]
      exact inductionHypothesis leaves.tail

/-- The true product of the two sizes fits a `size_t`. -/
def Fits (sizes : Shrinking) : Prop := sizes.size0.toNat * sizes.size1.toNat < 2 ^ 64

theorem Fits.step {sizes : Shrinking} (fits : sizes.Fits) : sizes.step.Fits := by
  have lower0 : sizes.step.size0.toNat ≤ sizes.size0.toNat := by
    rw [step_size0]
    split
    · exact Nat.div_le_self _ _
    · exact Nat.le_refl _
  have lower1 : sizes.step.size1.toNat ≤ sizes.size1.toNat := by
    rw [step_size1]
    split
    · exact Nat.le_refl _
    · exact Nat.div_le_self _ _
  exact Nat.lt_of_le_of_lt (Nat.mul_le_mul lower0 lower1) fits

/-- The sum of the two sizes, unlike their machine product, is lower after each round. -/
theorem exists_leaves (sizes : Shrinking) :
    ∃ rounds ≤ sizes.size0.toNat + sizes.size1.toNat,
      WhileLoop.Leaves (Exceeds maxLocal) step sizes rounds :=
  WhileLoop.exists_leaves (fun sizes => sizes.size0.toNat + sizes.size1.toNat)
    (fun _ exceeds => step_lt exceeds) sizes

/-- The loop ends for every two sizes and every limit. A product that fits at the start is a
true one at the end, and within the limit. -/
theorem shrink_ends (sizes : Shrinking) :
    ∃ rounds, WhileLoop.Leaves (Exceeds maxLocal) step sizes rounds ∧
      shrink maxLocal sizes = step^[rounds] sizes ∧
      (sizes.Fits → (shrink maxLocal sizes).size0.toNat * (shrink maxLocal sizes).size1.toNat ≤
        maxLocal.toNat) := by
  obtain ⟨rounds, _, leaves⟩ := exists_leaves maxLocal sizes
  refine ⟨rounds, leaves, shrink_eq_iterate maxLocal leaves, ?_⟩
  intro fits
  have fitsAtEnd : (step^[rounds] sizes).Fits := leaves.invariant (fun _ _ => Fits.step) fits
  have within := leaves.left
  rw [Exceeds, lt_product_iff, Nat.not_lt, Nat.mod_eq_of_lt fitsAtEnd] at within
  rwa [shrink_eq_iterate maxLocal leaves]

end Shrinking

/-! ### The returned sizes -/

/-- Where the local size of a dimension starts: at the device limit for a dimension that
reaches it, otherwise rounded up. -/
def startSize (limit x : Nat) : Nat := if limit ≤ x then limit else roundedUp x

/-- The same for the rounding of any `size_t`, narrowed. -/
def narrowedStart (limit x : Nat) : Nat := if limit ≤ x then limit else narrowedUp x

theorem startSize_le (limit : Nat) {x : Nat} (inRange : x ≤ 2 ^ 30) :
    startSize limit x ≤ 2 ^ 30 := by
  unfold startSize
  split
  · omega
  · exact roundedUp_le inRange

theorem narrowedStart_of_inRange (limit : Nat) {x : Nat} (positive : 1 ≤ x)
    (inRange : x ≤ 2 ^ 30) : narrowedStart limit x = startSize limit x := by
  rw [narrowedStart, startSize, narrowedUp_of_inRange positive inRange]

theorem exists_initialLocal {x : BitVec 64} (noOverflow : ¬ RoundingOverflows x.toNat)
    (limit : BitVec 64) :
    ∃ size, initialLocal limit x = .ok size ∧ size.toNat = narrowedStart limit.toNat x.toNat := by
  unfold initialLocal narrowedStart
  by_cases reaches : limit ≤ x
  · rw [if_pos reaches, if_pos (BitVec.le_def.mp reaches)]
    exact ⟨limit, rfl, rfl⟩
  · rw [if_neg reaches, if_neg (mt BitVec.le_def.mpr reaches)]
    exact exists_narrowedUp noOverflow

theorem initialLocal_toNat {x limit size : BitVec 64} (positive : 1 ≤ x.toNat)
    (inRange : x.toNat ≤ 2 ^ 30) (started : initialLocal limit x = .ok size) :
    size.toNat = startSize limit.toNat x.toNat := by
  obtain ⟨same, sameStarted, sameEq⟩ :=
    exists_initialLocal (not_roundingOverflows inRange) limit
  rw [← narrowedStart_of_inRange limit.toNat positive inRange]
  rwa [← Except.ok.inj (sameStarted.symm.trans started)]

/-- The smaller of the two group limits. -/
def groupLimit (device : DeviceInfo) (kernelMaxWorkGroupSize : BitVec 64) : BitVec 64 :=
  minSize device.maxWorkGroupSize kernelMaxWorkGroupSize

/-- How often each local size is halved for a `w` by `h` image. -/
def halvings (device : DeviceInfo) (kernelMaxWorkGroupSize : BitVec 64) (w h : Nat) : Nat × Nat :=
  let start0 := startSize device.limit0.toNat w
  let start1 := startSize device.limit1.toNat h
  shares (groupLimit device kernelMaxWorkGroupSize).toNat start0 start1 (decide (start1 < start0))

/-- The same for any image, with narrowed sizes and the wrapping product of the loop. -/
def narrowedHalvings (device : DeviceInfo) (kernelMaxWorkGroupSize : BitVec 64) (w h : Nat) :
    Nat × Nat :=
  let start0 := narrowedStart device.limit0.toNat w
  let start1 := narrowedStart device.limit1.toNat h
  machineShares (groupLimit device kernelMaxWorkGroupSize).toNat start0 start1
    (decide (start1 < start0))

theorem narrowedHalvings_of_inRange (device : DeviceInfo) (kernelMaxWorkGroupSize : BitVec 64)
    {w h : Nat} (wPositive : 1 ≤ w) (wInRange : w ≤ 2 ^ 30) (hPositive : 1 ≤ h)
    (hInRange : h ≤ 2 ^ 30) :
    narrowedHalvings device kernelMaxWorkGroupSize w h =
      halvings device kernelMaxWorkGroupSize w h := by
  have fits : startSize device.limit0.toNat w * startSize device.limit1.toNat h < 2 ^ 64 :=
    calc startSize device.limit0.toNat w * startSize device.limit1.toNat h
        ≤ 2 ^ 30 * 2 ^ 30 := Nat.mul_le_mul (startSize_le _ wInRange) (startSize_le _ hInRange)
      _ < 2 ^ 64 := by decide
  rw [narrowedHalvings, narrowedStart_of_inRange _ wPositive wInRange,
    narrowedStart_of_inRange _ hPositive hInRange, halvings]
  exact machineShares_of_fits fits _

/-- What is known of sizes that `work_sizes` returned. -/
structure Returned (device : DeviceInfo) (kernelMaxWorkGroupSize : BitVec 64) (w h : Nat)
    (global0 global1 local0 local1 : BitVec 64) : Prop where
  global0_eq : global0.toNat = roundedUp w
  global1_eq : global1.toNat = roundedUp h
  local0_eq : local0.toNat = startSize device.limit0.toNat w /
    2 ^ (halvings device kernelMaxWorkGroupSize w h).1
  local1_eq : local1.toNat = startSize device.limit1.toNat h /
    2 ^ (halvings device kernelMaxWorkGroupSize w h).2
  local0_ne : local0 ≠ 0#64
  local1_ne : local1 ≠ 0#64
  local0_le : local0 ≤ global0
  local1_le : local1 ≤ global1
  within : ¬ groupLimit device kernelMaxWorkGroupSize < local0 * local1

/-- What `work_sizes` computes before its last check. -/
theorem workSizes_eq_narrowed (device : DeviceInfo) (kernelMaxWorkGroupSize : BitVec 64)
    {w h : BitVec 64} (wNoOverflow : ¬ RoundingOverflows w.toNat)
    (hNoOverflow : ¬ RoundingOverflows h.toNat) :
    ∃ global0 global1 final,
      workSizes device kernelMaxWorkGroupSize w h = acceptSizes global0 global1 final ∧
      global0.toNat = narrowedUp w.toNat ∧ global1.toNat = narrowedUp h.toNat ∧
      final.size0.toNat = narrowedStart device.limit0.toNat w.toNat /
        2 ^ (narrowedHalvings device kernelMaxWorkGroupSize w.toNat h.toNat).1 ∧
      final.size1.toNat = narrowedStart device.limit1.toNat h.toNat /
        2 ^ (narrowedHalvings device kernelMaxWorkGroupSize w.toNat h.toNat).2 ∧
      ¬ groupLimit device kernelMaxWorkGroupSize < final.size0 * final.size1 := by
  obtain ⟨global0, global0Ok, global0Eq⟩ := exists_narrowedUp wNoOverflow
  obtain ⟨global1, global1Ok, global1Eq⟩ := exists_narrowedUp hNoOverflow
  obtain ⟨start0, start0Ok, start0Eq⟩ := exists_initialLocal wNoOverflow device.limit0
  obtain ⟨start1, start1Ok, start1Eq⟩ := exists_initialLocal hNoOverflow device.limit1
  have turn : decide (start1 < start0) = decide (start1.toNat < start0.toNat) := by
    rw [decide_eq_decide, BitVec.lt_def]
  have sharesEq : machineShares (groupLimit device kernelMaxWorkGroupSize).toNat start0.toNat
      start1.toNat (decide (start1 < start0)) =
        narrowedHalvings device kernelMaxWorkGroupSize w.toNat h.toNat := by
    rw [turn, start0Eq, start1Eq, narrowedHalvings]
  have halved := Shrinking.shrink_machineShares (groupLimit device kernelMaxWorkGroupSize)
    ⟨start0, start1, decide (start1 < start0)⟩
  rw [sharesEq, start0Eq, start1Eq] at halved
  refine ⟨global0, global1, _, ?_, global0Eq, global1Eq, halved.1, halved.2,
    Shrinking.shrink_within _ _⟩
  unfold workSizes
  rw [global0Ok, global1Ok, start0Ok, start1Ok]
  rfl

theorem workSizes_eq_acceptSizes (device : DeviceInfo) (kernelMaxWorkGroupSize : BitVec 64)
    {w h : BitVec 64} (wPositive : 1 ≤ w.toNat) (wInRange : w.toNat ≤ 2 ^ 30)
    (hPositive : 1 ≤ h.toNat) (hInRange : h.toNat ≤ 2 ^ 30) :
    ∃ global0 global1 final,
      workSizes device kernelMaxWorkGroupSize w h = acceptSizes global0 global1 final ∧
      global0.toNat = roundedUp w.toNat ∧ global1.toNat = roundedUp h.toNat ∧
      final.size0.toNat = startSize device.limit0.toNat w.toNat /
        2 ^ (halvings device kernelMaxWorkGroupSize w.toNat h.toNat).1 ∧
      final.size1.toNat = startSize device.limit1.toNat h.toNat /
        2 ^ (halvings device kernelMaxWorkGroupSize w.toNat h.toNat).2 ∧
      ¬ groupLimit device kernelMaxWorkGroupSize < final.size0 * final.size1 := by
  rw [← narrowedUp_of_inRange wPositive wInRange, ← narrowedUp_of_inRange hPositive hInRange,
    ← narrowedStart_of_inRange _ wPositive wInRange,
    ← narrowedStart_of_inRange _ hPositive hInRange,
    ← narrowedHalvings_of_inRange _ _ wPositive wInRange hPositive hInRange]
  exact workSizes_eq_narrowed device kernelMaxWorkGroupSize (not_roundingOverflows wInRange)
    (not_roundingOverflows hInRange)

theorem toNat_eq_zero_iff {size : BitVec 64} : size.toNat = 0 ↔ size = 0#64 := by
  rw [← BitVec.toNat_inj, BitVec.toNat_zero]

theorem acceptSizes_eq_ok_iff {global0 global1 : BitVec 64} {final : Shrinking}
    {sizes : WorkSizes} :
    acceptSizes global0 global1 final = .ok sizes ↔
      (final.size0 ≤ global0 ∧ final.size1 ≤ global1 ∧ final.size0 ≠ 0#64 ∧ final.size1 ≠ 0#64) ∧
        sizes = ⟨[global0, global1], [final.size0, final.size1]⟩ := by
  unfold acceptSizes
  by_cases nonstandard : global0 < final.size0 ∨ global1 < final.size1 ∨ final.size0 = 0#64 ∨
      final.size1 = 0#64
  · rw [if_pos nonstandard]
    constructor
    · intro returned
      cases returned
    · intro standard
      rw [← BitVec.not_lt, ← BitVec.not_lt] at standard
      tauto
  · rw [if_neg nonstandard, Except.ok.injEq, eq_comm]
    rw [not_or, not_or, not_or, BitVec.not_lt, BitVec.not_lt] at nonstandard
    exact (and_iff_right nonstandard).symm

theorem workSizes_returned {device : DeviceInfo} {kernelMaxWorkGroupSize w h : BitVec 64}
    {sizes : WorkSizes} (wPositive : 1 ≤ w.toNat) (wInRange : w.toNat ≤ 2 ^ 30)
    (hPositive : 1 ≤ h.toNat) (hInRange : h.toNat ≤ 2 ^ 30)
    (returned : workSizes device kernelMaxWorkGroupSize w h = .ok sizes) :
    ∃ global0 global1 local0 local1, sizes = ⟨[global0, global1], [local0, local1]⟩ ∧
      Returned device kernelMaxWorkGroupSize w.toNat h.toNat global0 global1 local0 local1 := by
  obtain ⟨global0, global1, final, computed, global0Eq, global1Eq, local0Eq, local1Eq, within⟩ :=
    workSizes_eq_acceptSizes device kernelMaxWorkGroupSize wPositive wInRange hPositive hInRange
  rw [computed, acceptSizes_eq_ok_iff] at returned
  rcases returned with ⟨⟨local0Le, local1Le, local0Ne, local1Ne⟩, rfl⟩
  exact ⟨global0, global1, final.size0, final.size1, rfl, {
    global0_eq := global0Eq
    global1_eq := global1Eq
    local0_eq := local0Eq
    local1_eq := local1Eq
    local0_ne := local0Ne
    local1_ne := local1Ne
    local0_le := local0Le
    local1_le := local1Le
    within := within }⟩

end OpenClHash.Sizing
