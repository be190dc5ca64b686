import OpenClHash.Sizing.Launchable

/-!
Owns `work_sizes` on devices whose limits for the two dimensions are powers of two: when
it returns for an image of up to `2 ^ 30` pixels a side, and the shape of what it returns.
-/

namespace OpenClHash.Sizing

open OpenClHash.Library

/-! ### Shares of powers of two -/

section Shares

variable {maxLocal exponent0 exponent1 : Nat}

/-- Halving in turns, the larger size first, leaves something of both exactly when the larger
is at most twice the bound times the smaller. -/
theorem shares_pow_le_iff :
    ((shares maxLocal (2 ^ exponent0) (2 ^ exponent1)
          (decide (2 ^ exponent1 < 2 ^ exponent0))).1 ≤ exponent0 ∧
        (shares maxLocal (2 ^ exponent0) (2 ^ exponent1)
          (decide (2 ^ exponent1 < 2 ^ exponent0))).2 ≤ exponent1) ↔
      max (2 ^ exponent0) (2 ^ exponent1) ≤ 2 * maxLocal * min (2 ^ exponent0) (2 ^ exponent1) := by
  by_cases firstLarger : 2 ^ exponent1 < 2 ^ exponent0
  · have ordered : exponent1 ≤ exponent0 :=
      ((Nat.pow_lt_pow_iff_right (by decide)).mp firstLarger).le
    rw [decide_eq_true firstLarger, max_eq_left firstLarger.le, min_eq_right firstLarger.le]
    exact AlternateHalving.turns_pow_le_iff ordered
  · have secondLarger := Nat.not_lt.mp firstLarger
    have ordered : exponent0 ≤ exponent1 := (Nat.pow_le_pow_iff_right (by decide)).mp secondLarger
    rw [decide_eq_false firstLarger, max_eq_right secondLarger, min_eq_left secondLarger, and_comm]
    exact AlternateHalving.turns_pow_le_iff ordered

/-- If a size was halved at all, the product they end on is more than half the bound. -/
theorem shares_pow_tight (exceeds : maxLocal < 2 ^ exponent0 * 2 ^ exponent1)
    {firstTurn : Bool} (left0 : (shares maxLocal (2 ^ exponent0) (2 ^ exponent1) firstTurn).1 ≤
      exponent0)
    (left1 : (shares maxLocal (2 ^ exponent0) (2 ^ exponent1) firstTurn).2 ≤ exponent1) :
    maxLocal < 2 * (2 ^ exponent0 /
        2 ^ (shares maxLocal (2 ^ exponent0) (2 ^ exponent1) firstTurn).1 *
      (2 ^ exponent1 / 2 ^ (shares maxLocal (2 ^ exponent0) (2 ^ exponent1) firstTurn).2)) := by
  cases firstTurn with
  | true => exact AlternateHalving.lt_two_mul_product exceeds left0 left1
  | false =>
      rw [Nat.mul_comm] at exceeds
      rw [Nat.mul_comm (2 ^ exponent0 / _)]
      exact AlternateHalving.lt_two_mul_product exceeds left1 left0

end Shares

/-! ### One dimension -/

/-- What `work_sizes` promises of a dimension of `x` pixels. -/
structure Shape (limit x globalSize localSize : Nat) : Prop where
  globalLeast : IsLeast {size | (∃ exponent, size = 2 ^ exponent) ∧ x ≤ size} globalSize
  localPower : ∃ exponent, localSize = 2 ^ exponent
  localFits : localSize ≤ limit
  divides : localSize ∣ globalSize

theorem startSize_le_roundedUp {limit exponent : Nat} (power : limit = 2 ^ exponent) (x : Nat) :
    startSize limit x ≤ roundedUp x := by
  obtain ⟨start, startEq, _, below⟩ := exists_startSize_pow power x
  rw [startEq, roundedUp]
  exact Nat.pow_le_pow_right (by decide) below

theorem shape_of_halved {limit exponent x count : Nat} (power : limit = 2 ^ exponent)
    (nonzero : startSize limit x / 2 ^ count ≠ 0) :
    Shape limit x (roundedUp x) (startSize limit x / 2 ^ count) := by
  obtain ⟨start, startEq, fits, below⟩ := exists_startSize_pow power x
  rw [startEq] at nonzero ⊢
  have countLe : count ≤ start := pow_div_pow_ne_zero_iff.mp nonzero
  exact {
    globalLeast := roundedUp_isLeast x
    localPower := ⟨start - count, Nat.pow_div countLe (by decide)⟩
    localFits := (Nat.div_le_self _ _).trans fits
    divides := by
      rw [Nat.pow_div countLe (by decide), roundedUp]
      exact Nat.pow_dvd_pow 2 ((Nat.sub_le _ _).trans below) }

/-! ### Both dimensions -/

section Image

variable {device : DeviceInfo} {exponent0 exponent1 : Nat}

theorem exists_halvings_pow (kernelMaxWorkGroupSize w h : BitVec 64)
    (power0 : device.limit0.toNat = 2 ^ exponent0) (power1 : device.limit1.toNat = 2 ^ exponent1) :
    ∃ start0 start1, startSize device.limit0.toNat w.toNat = 2 ^ start0 ∧
      startSize device.limit1.toNat h.toNat = 2 ^ start1 ∧
      halvings device kernelMaxWorkGroupSize w.toNat h.toNat =
        shares (groupLimit device kernelMaxWorkGroupSize).toNat (2 ^ start0) (2 ^ start1)
          (decide (2 ^ start1 < 2 ^ start0)) := by
  obtain ⟨start0, start0Eq, _, _⟩ := exists_startSize_pow power0 w.toNat
  obtain ⟨start1, start1Eq, _, _⟩ := exists_startSize_pow power1 h.toNat
  refine ⟨start0, start1, start0Eq, start1Eq, ?_⟩
  rw [halvings, start0Eq, start1Eq]

variable {kernelMaxWorkGroupSize w h : BitVec 64}

theorem workSizes_shape {sizes : WorkSizes} (wPositive : 1 ≤ w.toNat) (wInRange : w.toNat ≤ 2 ^ 30)
    (hPositive : 1 ≤ h.toNat) (hInRange : h.toNat ≤ 2 ^ 30)
    (power0 : device.limit0.toNat = 2 ^ exponent0) (power1 : device.limit1.toNat = 2 ^ exponent1)
    (returned : workSizes device kernelMaxWorkGroupSize w h = .ok sizes) :
    ∃ global0 global1 local0 local1, sizes = ⟨[global0, global1], [local0, local1]⟩ ∧
      Shape device.limit0.toNat w.toNat global0.toNat local0.toNat ∧
      Shape device.limit1.toNat h.toNat global1.toNat local1.toNat ∧
      local0.toNat * local1.toNat ≤
        min device.maxWorkGroupSize.toNat kernelMaxWorkGroupSize.toNat ∧
      ∀ start0 start1, initialLocal device.limit0 w = .ok start0 →
        initialLocal device.limit1 h = .ok start1 →
        min device.maxWorkGroupSize.toNat kernelMaxWorkGroupSize.toNat <
          start0.toNat * start1.toNat →
        min device.maxWorkGroupSize.toNat kernelMaxWorkGroupSize.toNat <
          2 * (local0.toNat * local1.toNat) := by
  obtain ⟨global0, global1, local0, local1, rfl, known⟩ :=
    workSizes_returned wPositive wInRange hPositive hInRange returned
  have nonzero0 : local0.toNat ≠ 0 := (Shrinking.toNat_pos known.local0_ne).ne'
  have nonzero1 : local1.toNat ≠ 0 := (Shrinking.toNat_pos known.local1_ne).ne'
  have local0Eq := known.local0_eq
  have local1Eq := known.local1_eq
  refine ⟨global0, global1, local0, local1, rfl, ?_, ?_, ?_, ?_⟩
  · rw [known.global0_eq, local0Eq]
    exact shape_of_halved power0 (local0Eq ▸ nonzero0)
  · rw [known.global1_eq, local1Eq]
    exact shape_of_halved power1 (local1Eq ▸ nonzero1)
  · rw [← known.local_product wInRange hInRange]
    exact known.within_group
  · intro start0 start1 start0Ok start1Ok exceeds
    have start0Eq := initialLocal_toNat wPositive wInRange start0Ok
    have start1Eq := initialLocal_toNat hPositive hInRange start1Ok
    obtain ⟨power, otherPower, startPower, otherStartPower, sharesEq⟩ :=
      exists_halvings_pow kernelMaxWorkGroupSize w h power0 power1
    rw [start0Eq, start1Eq, startPower, otherStartPower, ← groupLimit_toNat] at exceeds
    rw [sharesEq, startPower] at local0Eq
    rw [sharesEq, otherStartPower] at local1Eq
    rw [local0Eq, pow_div_pow_ne_zero_iff] at nonzero0
    rw [local1Eq, pow_div_pow_ne_zero_iff] at nonzero1
    rw [local0Eq, local1Eq, ← groupLimit_toNat]
    exact shares_pow_tight exceeds nonzero0 nonzero1

/-- With groups of up to 768 work items one of the two sizes of 32 is halved. -/
theorem workSizes_768 : workSizes (squareDevice 32#64) 768#64 1000#64 600#64 =
    .ok ⟨[1024#64, 1024#64], [32#64, 16#64]⟩ := by
  have loop : Shrinking.shrink 768#64 ⟨32#64, 32#64, false⟩ = ⟨32#64, 16#64, true⟩ := by
    rw [Shrinking.shrink, dif_pos (by decide), Shrinking.shrink, dif_neg (by decide)]
    rfl
  show acceptSizes 1024#64 1024#64 (Shrinking.shrink 768#64 ⟨32#64, 32#64, false⟩) = _
  rw [loop]
  rfl

theorem workSizes_shape_768 :
    Shape 32 1000 1024 32 ∧ Shape 32 600 1024 16 ∧ 32 * 16 ≤ 768 ∧ 768 < 2 * (32 * 16) := by
  have power0 : (squareDevice 32#64).limit0.toNat = 2 ^ 5 := by decide
  have power1 : (squareDevice 32#64).limit1.toNat = 2 ^ 5 := by decide
  obtain ⟨global0, global1, local0, local1, same, shape0, shape1, within, tight⟩ :=
    workSizes_shape (by decide) (by decide) (by decide) (by decide) power0 power1 workSizes_768
  simp only [WorkSizes.mk.injEq, List.cons.injEq, and_true] at same
  rcases same with ⟨⟨rfl, rfl⟩, rfl, rfl⟩
  exact ⟨shape0, shape1, within, tight 32#64 32#64 rfl rfl (by decide)⟩

/-- The sizes before the last check never exceed the global sizes, and none of them is zero
exactly when the image is not too narrow for alternate halving. -/
theorem acceptSizes_isOk_iff {global0 global1 : BitVec 64} {final : Shrinking}
    (power0 : device.limit0.toNat = 2 ^ exponent0) (power1 : device.limit1.toNat = 2 ^ exponent1)
    (global0Eq : global0.toNat = roundedUp w.toNat) (global1Eq : global1.toNat = roundedUp h.toNat)
    (local0Eq : final.size0.toNat = startSize device.limit0.toNat w.toNat /
      2 ^ (halvings device kernelMaxWorkGroupSize w.toNat h.toNat).1)
    (local1Eq : final.size1.toNat = startSize device.limit1.toNat h.toNat /
      2 ^ (halvings device kernelMaxWorkGroupSize w.toNat h.toNat).2) :
    (∃ sizes, acceptSizes global0 global1 final = .ok sizes) ↔
      max (startSize device.limit0.toNat w.toNat) (startSize device.limit1.toNat h.toNat) ≤
        2 * min device.maxWorkGroupSize.toNat kernelMaxWorkGroupSize.toNat *
          min (startSize device.limit0.toNat w.toNat) (startSize device.limit1.toNat h.toNat) := by
  have below0 : final.size0 ≤ global0 := by
    rw [BitVec.le_def, local0Eq, global0Eq]
    exact (Nat.div_le_self _ _).trans (startSize_le_roundedUp power0 w.toNat)
  have below1 : final.size1 ≤ global1 := by
    rw [BitVec.le_def, local1Eq, global1Eq]
    exact (Nat.div_le_self _ _).trans (startSize_le_roundedUp power1 h.toNat)
  obtain ⟨start0, start1, start0Eq, start1Eq, sharesEq⟩ :=
    exists_halvings_pow kernelMaxWorkGroupSize w h power0 power1
  rw [sharesEq, start0Eq] at local0Eq
  rw [sharesEq, start1Eq] at local1Eq
  rw [start0Eq, start1Eq, ← groupLimit_toNat, ← shares_pow_le_iff]
  simp only [acceptSizes_eq_ok_iff, exists_and_left, exists_eq, and_true]
  rw [and_iff_right below0, and_iff_right below1, ne_eq, ne_eq, ← toNat_eq_zero_iff,
    ← toNat_eq_zero_iff, local0Eq, local1Eq]
  exact and_congr pow_div_pow_ne_zero_iff pow_div_pow_ne_zero_iff

/-- `work_sizes` gives up exactly on images too narrow for alternate halving. -/
theorem workSizes_returns_iff (wPositive : 1 ≤ w.toNat) (wInRange : w.toNat ≤ 2 ^ 30)
    (hPositive : 1 ≤ h.toNat) (hInRange : h.toNat ≤ 2 ^ 30)
    (power0 : device.limit0.toNat = 2 ^ exponent0)
    (power1 : device.limit1.toNat = 2 ^ exponent1) :
    ((∃ sizes, workSizes device kernelMaxWorkGroupSize w h = .ok sizes) ↔
      max (startSize device.limit0.toNat w.toNat) (startSize device.limit1.toNat h.toNat) ≤
        2 * min device.maxWorkGroupSize.toNat kernelMaxWorkGroupSize.toNat *
          min (startSize device.limit0.toNat w.toNat) (startSize device.limit1.toNat h.toNat)) ∧
    ((∃ sizes, workSizes device kernelMaxWorkGroupSize w h = .ok sizes) ∨
      workSizes device kernelMaxWorkGroupSize w h =
        .error (.runtimeError "Tried to create nonstandard work dimensions")) := by
  obtain ⟨global0, global1, final, computed, global0Eq, global1Eq, local0Eq, local1Eq, _⟩ :=
    workSizes_eq_acceptSizes device kernelMaxWorkGroupSize wPositive wInRange hPositive hInRange
  rw [computed]
  constructor
  · exact acceptSizes_isOk_iff power0 power1 global0Eq global1Eq local0Eq local1Eq
  · unfold acceptSizes
    split
    · exact .inr rfl
    · exact .inl ⟨_, rfl⟩

/-- On an image of 1024 by 1 pixels the second halving takes the height of the group to zero. -/
theorem workSizes_narrow : workSizes (squareDevice 1024#64) 256#64 1024#64 1#64 =
    .error (.runtimeError "Tried to create nonstandard work dimensions") := by
  have loop : Shrinking.shrink 256#64 ⟨1024#64, 1#64, true⟩ = ⟨512#64, 0#64, true⟩ := by
    rw [Shrinking.shrink, dif_pos (by decide), Shrinking.shrink, dif_pos (by decide),
      Shrinking.shrink, dif_neg (by decide)]
    rfl
  show acceptSizes 1024#64 1#64 (Shrinking.shrink 256#64 ⟨1024#64, 1#64, true⟩) = _
  rw [loop]
  rfl

theorem workSizes_gives_up :
    ¬ ∀ (device : DeviceInfo) (kernelMaxWorkGroupSize w h : BitVec 64) (exponent0 exponent1 : Nat),
      1 ≤ w.toNat → w.toNat ≤ 2 ^ 30 → 1 ≤ h.toNat → h.toNat ≤ 2 ^ 30 →
      device.limit0.toNat = 2 ^ exponent0 → device.limit1.toNat = 2 ^ exponent1 →
      1 ≤ device.maxWorkGroupSize.toNat → 1 ≤ kernelMaxWorkGroupSize.toNat →
      (∃ sizes, workSizes device kernelMaxWorkGroupSize w h = .ok sizes) ∧
        workSizes device kernelMaxWorkGroupSize w h ≠
          .error (.runtimeError "Tried to create nonstandard work dimensions") := by
  intro always
  have power0 : (squareDevice 1024#64).limit0.toNat = 2 ^ 10 := by decide
  have power1 : (squareDevice 1024#64).limit1.toNat = 2 ^ 10 := by decide
  obtain ⟨_, never⟩ := always (squareDevice 1024#64) 256#64 1024#64 1#64 10 10 (by decide)
    (by decide) (by decide) (by decide) power0 power1 (by decide) (by decide)
  exact never workSizes_narrow

/-- A group of 1024 is large enough for the same image. -/
theorem workSizes_returns_wide :
    ∃ sizes, workSizes (squareDevice 1024#64) 1024#64 1024#64 1#64 = .ok sizes := by
  have power0 : (squareDevice 1024#64).limit0.toNat = 2 ^ 10 := by decide
  have power1 : (squareDevice 1024#64).limit1.toNat = 2 ^ 10 := by decide
  apply (workSizes_returns_iff (by decide) (by decide) (by decide) (by decide) power0 power1).1.mpr
  decide

end Image

end OpenClHash.Sizing
