import Mathlib.Data.Nat.Prime.Basic
import OpenClHash.Sizing.Products
import OpenClHash.Sizing.Shrinking

/-!
Owns the agreement of `work_sizes` with `check_work_parameters` on a `w` by `h` image:
the sizes that the one returns pass the other exactly when each dimension that was
clamped to a device limit ends on a power of two, and each dimension that was rounded up
ends within its limit.
-/

namespace OpenClHash.Sizing

/-! ### One dimension -/

theorem pow_div_pow_ne_zero_iff {exponent count : Nat} :
    2 ^ exponent / 2 ^ count ≠ 0 ↔ count ≤ exponent := by
  rw [← Nat.pos_iff_ne_zero, Nat.div_pos_iff, Nat.pow_le_pow_iff_right (by decide)]
  exact and_iff_right (Nat.two_pow_pos count)

/-- A dimension of `x` pixels that was halved `count` times divides its global size and
respects the device limit. -/
def DimensionFits (limit x count : Nat) : Prop :=
  if limit ≤ x then ∃ exponent, limit / 2 ^ count = 2 ^ exponent
  else roundedUp x / 2 ^ count ≤ limit

/-- Both dimensions fit. -/
def ImageFits (device : DeviceInfo) (kernelMaxWorkGroupSize : BitVec 64) (w h : Nat) : Prop :=
  DimensionFits device.limit0.toNat w (halvings device kernelMaxWorkGroupSize w h).1 ∧
  DimensionFits device.limit1.toNat h (halvings device kernelMaxWorkGroupSize w h).2

/-- The two tests of the validator on one dimension. -/
theorem dimensionFits_iff {limit globalSize localSize : BitVec 64} {x count : Nat}
    (globalEq : globalSize.toNat = roundedUp x)
    (localEq : localSize.toNat = startSize limit.toNat x / 2 ^ count) (nonzero : localSize ≠ 0#64)
    (below : localSize ≤ globalSize) :
    (localSize ≤ limit ∧ globalSize % localSize = 0#64) ↔ DimensionFits limit.toNat x count := by
  have divides : globalSize % localSize = 0#64 ↔ localSize.toNat ∣ roundedUp x := by
    rw [← BitVec.toNat_inj, BitVec.toNat_umod, BitVec.toNat_zero, globalEq,
      Nat.dvd_iff_mod_eq_zero]
  rw [BitVec.le_def, globalEq] at below
  rw [divides, BitVec.le_def, DimensionFits]
  unfold startSize at localEq
  by_cases clamped : limit.toNat ≤ x
  · rw [if_pos clamped] at localEq ⊢
    rw [← localEq]
    constructor
    · intro accepted
      rcases accepted with ⟨_, divisor⟩
      rcases (Nat.dvd_prime_pow Nat.prime_two).mp divisor with ⟨exponent, _, power⟩
      exact ⟨exponent, power⟩
    · intro standard
      rcases standard with ⟨exponent, power⟩
      refine ⟨localEq ▸ Nat.div_le_self _ _, ?_⟩
      rw [power, roundedUp] at below ⊢
      exact Nat.pow_dvd_pow 2 ((Nat.pow_le_pow_iff_right (by decide)).mp below)
  · rw [if_neg clamped] at localEq ⊢
    rw [← localEq]
    apply and_iff_left
    have positive : 0 < localSize.toNat := Shrinking.toNat_pos nonzero
    have countLe : count ≤ Nat.clog 2 x := by
      rw [localEq, roundedUp] at positive
      exact pow_div_pow_ne_zero_iff.mp positive.ne'
    rw [localEq, roundedUp, Nat.pow_div countLe (by decide)]
    exact Nat.pow_dvd_pow 2 (Nat.sub_le _ _)

/-- A dimension starts on a power of two within its limit and its global size. -/
theorem exists_startSize_pow {limit exponent : Nat} (power : limit = 2 ^ exponent) (x : Nat) :
    ∃ start, startSize limit x = 2 ^ start ∧ 2 ^ start ≤ limit ∧ start ≤ Nat.clog 2 x := by
  unfold startSize
  by_cases reaches : limit ≤ x
  · rw [if_pos reaches]
    refine ⟨exponent, power, power.ge, ?_⟩
    rw [power] at reaches
    exact (Nat.pow_le_pow_iff_right (by decide)).mp
      (reaches.trans (Nat.le_pow_clog (by decide) x))
  · rw [if_neg reaches]
    refine ⟨Nat.clog 2 x, rfl, ?_, Nat.le_refl _⟩
    rw [power] at reaches ⊢
    exact Nat.pow_le_pow_right (by decide) (Nat.clog_le_of_le_pow (Nat.le_of_not_le reaches))

/-- A limit that is a power of two suits every image. -/
theorem dimensionFits_of_power {limit x count exponent : Nat} (power : limit = 2 ^ exponent)
    (nonzero : startSize limit x / 2 ^ count ≠ 0) : DimensionFits limit x count := by
  obtain ⟨start, startEq, fits, _⟩ := exists_startSize_pow power x
  rw [startEq] at nonzero
  have countLe : count ≤ start := pow_div_pow_ne_zero_iff.mp nonzero
  unfold DimensionFits
  unfold startSize at startEq
  by_cases clamped : limit ≤ x
  · rw [if_pos clamped] at startEq ⊢
    rw [startEq]
    exact ⟨start - count, Nat.pow_div countLe (by decide)⟩
  · rw [if_neg clamped] at startEq ⊢
    rw [startEq]
    exact (Nat.div_le_self _ _).trans fits

/-! ### Both dimensions -/

theorem groupLimit_toNat (device : DeviceInfo) (kernelMaxWorkGroupSize : BitVec 64) :
    (groupLimit device kernelMaxWorkGroupSize).toNat =
      min device.maxWorkGroupSize.toNat kernelMaxWorkGroupSize.toNat := by
  unfold groupLimit minSize
  by_cases less : kernelMaxWorkGroupSize < device.maxWorkGroupSize
  · rw [if_pos less, Nat.min_eq_right (BitVec.lt_def.mp less).le]
  · rw [if_neg less, Nat.min_eq_left (BitVec.le_def.mp (BitVec.not_lt.mp less))]

/-- What the validator promises of a two-dimensional launch. -/
structure Launchable (device : DeviceInfo) (maxWorkGroupSize : BitVec 64) (sizes : WorkSizes) :
    Prop where
  nonzero : ∀ i < 2, sizes.localWorkSize.getD i 0#64 ≠ 0#64
  localFits : ∀ i < 2, LocalFits device sizes.localWorkSize i
  divides : ∀ i < 2, Divides sizes.globalWorkSize sizes.localWorkSize i
  deviceGroup : (sizes.localWorkSize.map BitVec.toNat).prod ≤ device.maxWorkGroupSize.toNat
  kernelGroup : (sizes.localWorkSize.map BitVec.toNat).prod ≤ maxWorkGroupSize.toNat

section Image

variable {device : DeviceInfo} {maxWorkGroupSize : BitVec 64} {w h : Nat}
  {global0 global1 local0 local1 : BitVec 64}

namespace Returned

variable (sizes : Returned device maxWorkGroupSize w h global0 global1 local0 local1)

include sizes

theorem global_product (wInRange : w ≤ 2 ^ 30) (hInRange : h ≤ 2 ^ 30) :
    global0.toNat * global1.toNat ≤ 2 ^ 30 * 2 ^ 30 := by
  rw [sizes.global0_eq, sizes.global1_eq]
  exact Nat.mul_le_mul (roundedUp_le wInRange) (roundedUp_le hInRange)

theorem local_product (wInRange : w ≤ 2 ^ 30) (hInRange : h ≤ 2 ^ 30) :
    (local0 * local1).toNat = local0.toNat * local1.toNat := by
  apply BitVec.toNat_mul_of_lt
  calc local0.toNat * local1.toNat
      ≤ global0.toNat * global1.toNat :=
        Nat.mul_le_mul (BitVec.le_def.mp sizes.local0_le) (BitVec.le_def.mp sizes.local1_le)
    _ ≤ 2 ^ 30 * 2 ^ 30 := sizes.global_product wInRange hInRange
    _ < 2 ^ 64 := by decide

theorem within_group : (local0 * local1).toNat ≤
    min device.maxWorkGroupSize.toNat maxWorkGroupSize.toNat := by
  rw [← groupLimit_toNat]
  exact BitVec.le_def.mp (BitVec.not_lt.mp sizes.within)

theorem device_group : (local0 * local1).toNat ≤ device.maxWorkGroupSize.toNat :=
  sizes.within_group.trans (Nat.min_le_left _ _)

theorem kernel_group : (local0 * local1).toNat ≤ maxWorkGroupSize.toNat :=
  sizes.within_group.trans (Nat.min_le_right _ _)

theorem nonzero : ∀ i < 2, [local0, local1].getD i 0#64 ≠ 0#64 := by
  intro i below
  match i, below with
  | 0, _ => exact sizes.local0_ne
  | 1, _ => exact sizes.local1_ne

/-- The per-dimension tests of the validator, taken together. -/
theorem imageFits_iff :
    ((∀ i < 2, LocalFits device [local0, local1] i) ∧
      ∀ i < 2, Divides [global0, global1] [local0, local1] i) ↔
      ImageFits device maxWorkGroupSize w h := by
  rw [ImageFits,
    ← dimensionFits_iff sizes.global0_eq sizes.local0_eq sizes.local0_ne sizes.local0_le,
    ← dimensionFits_iff sizes.global1_eq sizes.local1_eq sizes.local1_ne sizes.local1_le]
  simp only [Nat.forall_lt_succ_right, Nat.not_lt_zero, false_implies, implies_true, true_and]
  rw [and_and_and_comm]
  have entry0 : device.workItemsForDims.toList.getD 0 0#64 = device.limit0 := by
    simp [DeviceInfo.limit0]
  have entry1 : device.workItemsForDims.toList.getD 1 0#64 = device.limit1 := by
    simp [DeviceInfo.limit1]
  simp only [LocalFits, Divides, entry0, entry1]
  rfl

/-- On a device whose limits are powers of two, whatever `work_sizes` returns fits. -/
theorem imageFits_of_powers {exponent0 exponent1 : Nat}
    (power0 : device.limit0.toNat = 2 ^ exponent0) (power1 : device.limit1.toNat = 2 ^ exponent1) :
    ImageFits device maxWorkGroupSize w h := by
  constructor
  · apply dimensionFits_of_power power0
    rw [← sizes.local0_eq]
    exact (Shrinking.toNat_pos sizes.local0_ne).ne'
  · apply dimensionFits_of_power power1
    rw [← sizes.local1_eq]
    exact (Shrinking.toNat_pos sizes.local1_ne).ne'

theorem checkWorkParameters_iff (wInRange : w ≤ 2 ^ 30) (hInRange : h ≤ 2 ^ 30)
    (addressBits : device.addressBits.toNat ≤ 62)
    (range : global0.toNat * global1.toNat ≤ 2 ^ device.addressBits.toNat) :
    checkWorkParameters device maxWorkGroupSize 2#32 [global0, global1] (some [local0, local1]) =
      .ok () ↔ ImageFits device maxWorkGroupSize w h := by
  have globalProduct : machineProduct [global0, global1] = global0 * global1 := by
    simp [machineProduct]
  have localProduct : machineProduct [local0, local1] = local0 * local1 := by
    simp [machineProduct]
  have inRange : ¬ (1#64 <<< device.addressBits).slt (global0 * global1) := by
    rw [range_slt_iff addressBits, not_and_or, Nat.not_lt,
      BitVec.toNat_mul_of_lt (Nat.lt_of_le_of_lt (sizes.global_product wInRange hInRange)
        (by decide))]
    exact .inl range
  have globalLength : (2#32).toNat ≤ [global0, global1].length := Nat.le_refl 2
  have localLength : (2#32).toNat ≤ [local0, local1].length := Nat.le_refl 2
  rw [checkWorkParameters_eq_ok_iff (addressBits_lt addressBits) (by decide) (by decide)
    globalLength localLength sizes.nonzero, ← sizes.imageFits_iff]
  show _ ∧ _ ∧ ¬ (1#64 <<< device.addressBits).slt (machineProduct [global0, global1]) ∧
    ¬ device.maxWorkGroupSize < machineProduct [local0, local1] ∧
    ¬ maxWorkGroupSize < machineProduct [local0, local1] ↔ _
  rw [globalProduct, localProduct]
  constructor
  · intro accepted
    rcases accepted with ⟨localFits, divides, _⟩
    exact ⟨localFits, divides⟩
  · intro fits
    rcases fits with ⟨localFits, divides⟩
    exact ⟨localFits, divides, inRange, BitVec.not_lt.mpr (BitVec.le_def.mpr sizes.device_group),
      BitVec.not_lt.mpr (BitVec.le_def.mpr sizes.kernel_group)⟩

theorem launchable_iff (wInRange : w ≤ 2 ^ 30) (hInRange : h ≤ 2 ^ 30) :
    Launchable device maxWorkGroupSize ⟨[global0, global1], [local0, local1]⟩ ↔
      ImageFits device maxWorkGroupSize w h := by
  have trueProduct : ([local0, local1].map BitVec.toNat).prod = (local0 * local1).toNat := by
    rw [sizes.local_product wInRange hInRange]
    simp
  rw [← sizes.imageFits_iff]
  constructor
  · intro launchable
    exact ⟨launchable.localFits, launchable.divides⟩
  · intro fits
    exact {
      nonzero := sizes.nonzero
      localFits := fits.1
      divides := fits.2
      deviceGroup := trueProduct ▸ sizes.device_group
      kernelGroup := trueProduct ▸ sizes.kernel_group }

end Returned

end Image

theorem workSizes_launchable_iff {device : DeviceInfo} {maxWorkGroupSize w h : BitVec 64}
    {sizes : WorkSizes} (wPositive : 1 ≤ w.toNat) (wInRange : w.toNat ≤ 2 ^ 30)
    (hPositive : 1 ≤ h.toNat) (hInRange : h.toNat ≤ 2 ^ 30)
    (addressBits : device.addressBits.toNat ≤ 62)
    (returned : workSizes device maxWorkGroupSize w h = .ok sizes)
    (range : (sizes.globalWorkSize.map BitVec.toNat).prod ≤ 2 ^ device.addressBits.toNat) :
    (checkWorkParameters device maxWorkGroupSize 2#32 sizes.globalWorkSize
        (some sizes.localWorkSize) = .ok () ↔ ImageFits device maxWorkGroupSize w.toNat h.toNat) ∧
    (Launchable device maxWorkGroupSize sizes ↔
      ImageFits device maxWorkGroupSize w.toNat h.toNat) := by
  obtain ⟨global0, global1, local0, local1, rfl, known⟩ :=
    workSizes_returned wPositive wInRange hPositive hInRange returned
  constructor
  · exact known.checkWorkParameters_iff wInRange hInRange addressBits (by simpa using range)
  · exact known.launchable_iff wInRange hInRange

/-- A device whose limits are powers of two launches whatever `work_sizes` returns. -/
theorem checkWorkParameters_of_powers {device : DeviceInfo} {maxWorkGroupSize w h : BitVec 64}
    {sizes : WorkSizes} {exponent0 exponent1 : Nat} (wPositive : 1 ≤ w.toNat)
    (wInRange : w.toNat ≤ 2 ^ 30) (hPositive : 1 ≤ h.toNat) (hInRange : h.toNat ≤ 2 ^ 30)
    (addressBits : device.addressBits.toNat ≤ 62)
    (power0 : device.limit0.toNat = 2 ^ exponent0) (power1 : device.limit1.toNat = 2 ^ exponent1)
    (returned : workSizes device maxWorkGroupSize w h = .ok sizes)
    (range : (sizes.globalWorkSize.map BitVec.toNat).prod ≤ 2 ^ device.addressBits.toNat) :
    checkWorkParameters device maxWorkGroupSize 2#32 sizes.globalWorkSize
      (some sizes.localWorkSize) = .ok () := by
  obtain ⟨global0, global1, local0, local1, rfl, known⟩ :=
    workSizes_returned wPositive wInRange hPositive hInRange returned
  rw [known.checkWorkParameters_iff wInRange hInRange addressBits (by simpa using range)]
  exact known.imageFits_of_powers power0 power1

/-! ### Images of 1000 by 600 pixels -/

/-- Both dimensions are clamped and no halving is needed. -/
theorem workSizes_square {limit : BitVec 64} (positive : limit ≠ 0#64) (clamped : limit ≤ 600#64)
    (within : ¬ 1024#64 < limit * limit) :
    workSizes (squareDevice limit) 1024#64 1000#64 600#64 =
      .ok ⟨[1024#64, 1024#64], [limit, limit]⟩ := by
  have global0 : closestPowerOf2 ((1000#64).setWidth 32) = .ok 1024#64 := by decide
  have global1 : closestPowerOf2 ((600#64).setWidth 32) = .ok 1024#64 := by decide
  have local0 : initialLocal limit 1000#64 = .ok limit :=
    if_pos (BitVec.le_trans clamped (by decide))
  have local1 : initialLocal limit 600#64 = .ok limit := if_pos clamped
  have loop (divW : Bool) :
      Shrinking.shrink 1024#64 ⟨limit, limit, divW⟩ = ⟨limit, limit, divW⟩ := by
    rw [Shrinking.shrink, dif_neg within]
  have standard : ¬ (1024#64 < limit ∨ 1024#64 < limit ∨ limit = 0#64 ∨ limit = 0#64) := by
    have small : ¬ 1024#64 < limit := BitVec.not_lt.mpr (BitVec.le_trans clamped (by decide))
    simp [small, positive]
  have first : (squareDevice limit).limit0 = limit := rfl
  have second : (squareDevice limit).limit1 = limit := rfl
  unfold workSizes
  rw [global0, global1, first, second, local0, local1]
  show acceptSizes 1024#64 1024#64 (Shrinking.shrink 1024#64 ⟨limit, limit, _⟩) = _
  rw [loop]
  exact if_neg standard

/-- Clamped to 24, the local sizes do not divide 1024. -/
theorem workSizes_not_launchable :
    ¬ ∀ (device : DeviceInfo) (maxWorkGroupSize w h : BitVec 64) (sizes : WorkSizes),
      1 ≤ w.toNat → w.toNat ≤ 2 ^ 30 → 1 ≤ h.toNat → h.toNat ≤ 2 ^ 30 →
      1 ≤ device.limit0.toNat → 1 ≤ device.limit1.toNat →
      1 ≤ device.maxWorkGroupSize.toNat → 1 ≤ maxWorkGroupSize.toNat →
      device.addressBits.toNat ≤ 62 → workSizes device maxWorkGroupSize w h = .ok sizes →
      (sizes.globalWorkSize.map BitVec.toNat).prod ≤ 2 ^ device.addressBits.toNat →
      checkWorkParameters device maxWorkGroupSize 2#32 sizes.globalWorkSize
        (some sizes.localWorkSize) = .ok () := by
  intro launchable
  have passes := launchable (squareDevice 24#64) 1024#64 1000#64 600#64 _ (by decide) (by decide)
    (by decide) (by decide) (by decide) (by decide) (by decide) (by decide) (by decide)
    (workSizes_square (by decide) (by decide) (by decide)) (by decide)
  have refused : checkWorkParameters (squareDevice 24#64) 1024#64 2#32 [1024#64, 1024#64]
      (some [24#64, 24#64]) = .error (.runtimeError divisibleMessage) := by rfl
  rw [refused] at passes
  cases passes

/-- A limit of 32 is a power of two. -/
theorem workSizes_launchable_square32 :
    Launchable (squareDevice 32#64) 1024#64 ⟨[1024#64, 1024#64], [32#64, 32#64]⟩ := by
  have returned : workSizes (squareDevice 32#64) 1024#64 1000#64 600#64 = _ :=
    workSizes_square (by decide) (by decide) (by decide)
  have agrees := workSizes_launchable_iff (by decide) (by decide) (by decide) (by decide)
    (by decide) returned (by decide)
  exact agrees.2.mpr (agrees.1.mp rfl)

end OpenClHash.Sizing
