import OpenClHash.Sizing.Launchable

/-!
Owns whether the global range that `work_sizes` returns covers the image, for every pair of
`size_t` values. The rounding sees only the low half of each, as an `int`; the comparison
with the device limit sees all of it.
-/

namespace OpenClHash.Sizing

section Image

variable (device : DeviceInfo) (kernelMaxWorkGroupSize w h : BitVec 64)

/-- The call throws, or returns a global range that covers the image. -/
def Covers : Prop :=
  (∃ message, workSizes device kernelMaxWorkGroupSize w h = .error (.runtimeError message)) ∨
  ∃ global0 global1 localWorkSize,
    workSizes device kernelMaxWorkGroupSize w h = .ok ⟨[global0, global1], localWorkSize⟩ ∧
      w ≤ global0 ∧ h ≤ global1

/-- A dimension whose starting size, halved `count` times, is gone or exceeds what the narrowed
image size rounds up to. -/
def DimensionNonstandard (limit x count : Nat) : Prop :=
  narrowedStart limit x / 2 ^ count = 0 ∨ narrowedUp x < narrowedStart limit x / 2 ^ count

/-- One of the two dimensions is. -/
def ImageNonstandard (w h : Nat) : Prop :=
  DimensionNonstandard device.limit0.toNat w
      (narrowedHalvings device kernelMaxWorkGroupSize w h).1 ∨
    DimensionNonstandard device.limit1.toNat h
      (narrowedHalvings device kernelMaxWorkGroupSize w h).2

variable {device kernelMaxWorkGroupSize w h}

theorem workSizes_signedOverflow
    (overflows : RoundingOverflows w.toNat ∨ RoundingOverflows h.toNat) :
    workSizes device kernelMaxWorkGroupSize w h = .error .signedOverflow := by
  unfold workSizes
  by_cases first : RoundingOverflows w.toNat
  · rw [closestPowerOf2_roundingOverflows first]
    rfl
  · obtain ⟨global0, global0Ok, _⟩ := exists_narrowedUp first
    rw [global0Ok, closestPowerOf2_roundingOverflows (overflows.resolve_left first)]
    rfl

/-- Only a value that the narrowing keeps is covered by its rounding. -/
theorem le_narrowedUp_iff {x : Nat} (nonzero : narrowedUp x ≠ 0) :
    x ≤ narrowedUp x ↔ x < 2 ^ 32 := by
  constructor
  · intro covered
    have small := narrowedUp_le x
    omega
  · intro below
    unfold narrowedUp at nonzero ⊢
    rw [Nat.mod_eq_of_lt below] at nonzero ⊢
    by_cases inRange : 1 ≤ x ∧ x ≤ 2 ^ 30
    · rw [if_pos inRange]
      exact le_roundedUp x
    · rw [if_neg inRange] at nonzero
      exact absurd rfl nonzero

theorem narrowedUp_ne_zero {limit x count : Nat} (standard : ¬ DimensionNonstandard limit x count) :
    narrowedUp x ≠ 0 := by
  intro zero
  apply standard
  rw [DimensionNonstandard, zero]
  exact Nat.eq_zero_or_pos _

theorem acceptSizes_eq_error_iff {global0 global1 : BitVec 64} {final : Shrinking} :
    (∃ message, acceptSizes global0 global1 final = .error (.runtimeError message)) ↔
      (final.size0.toNat = 0 ∨ global0.toNat < final.size0.toNat) ∨
        (final.size1.toNat = 0 ∨ global1.toNat < final.size1.toNat) := by
  have reorder (zero0 zero1 exceeds0 exceeds1 : Prop) :
      (zero0 ∨ exceeds0) ∨ (zero1 ∨ exceeds1) ↔ exceeds0 ∨ exceeds1 ∨ zero0 ∨ zero1 := by
    tauto
  rw [toNat_eq_zero_iff, toNat_eq_zero_iff, ← BitVec.lt_def, ← BitVec.lt_def, reorder]
  unfold acceptSizes
  split
  · rename_i nonstandard
    exact iff_of_true ⟨_, rfl⟩ nonstandard
  · rename_i standard
    apply iff_of_false _ standard
    intro raises
    rcases raises with ⟨message, thrown⟩
    cases thrown

theorem acceptSizes_returns {global0 global1 : BitVec 64} {final : Shrinking}
    (accepted : ¬ ∃ message, acceptSizes global0 global1 final = .error (.runtimeError message)) :
    acceptSizes global0 global1 final =
      .ok ⟨[global0, global1], [final.size0, final.size1]⟩ := by
  unfold acceptSizes at accepted ⊢
  split
  · rename_i nonstandard
    rw [if_pos nonstandard] at accepted
    exact absurd ⟨_, rfl⟩ accepted
  · rfl

/-- The range covers the image, or the call throws, exactly when no rounding overflows and
either narrowing loses nothing or the last check happens to refuse the sizes. -/
theorem workSizes_covers_iff (device : DeviceInfo) (kernelMaxWorkGroupSize w h : BitVec 64) :
    Covers device kernelMaxWorkGroupSize w h ↔
      (¬ RoundingOverflows w.toNat ∧ ¬ RoundingOverflows h.toNat) ∧
        (w.toNat < 2 ^ 32 ∧ h.toNat < 2 ^ 32 ∨
          ImageNonstandard device kernelMaxWorkGroupSize w.toNat h.toNat) := by
  by_cases overflows : RoundingOverflows w.toNat ∨ RoundingOverflows h.toNat
  · have failed : ¬ Covers device kernelMaxWorkGroupSize w h := by
      intro covers
      rw [Covers, workSizes_signedOverflow overflows] at covers
      rcases covers with ⟨message, thrown⟩ | ⟨global0, global1, localWorkSize, returned, _⟩
      · cases thrown
      · cases returned
    rw [← not_or]
    exact iff_of_false failed fun condition => condition.1 overflows
  · rw [not_or] at overflows
    obtain ⟨global0, global1, final, computed, global0Eq, global1Eq, local0Eq, local1Eq, _⟩ :=
      workSizes_eq_narrowed device kernelMaxWorkGroupSize overflows.1 overflows.2
    have rejects : (∃ message, acceptSizes global0 global1 final = .error (.runtimeError message)) ↔
        ImageNonstandard device kernelMaxWorkGroupSize w.toNat h.toNat := by
      rw [acceptSizes_eq_error_iff, local0Eq, local1Eq, global0Eq, global1Eq]
      rfl
    rw [Covers, computed, rejects, and_iff_right overflows, or_comm]
    apply or_congr_left'
    intro standard
    rw [acceptSizes_returns (mt rejects.mp standard)]
    rw [ImageNonstandard, not_or] at standard
    rw [← le_narrowedUp_iff (narrowedUp_ne_zero standard.1),
      ← le_narrowedUp_iff (narrowedUp_ne_zero standard.2), ← global0Eq, ← global1Eq]
    constructor
    · intro covers
      rcases covers with ⟨same0, same1, localWorkSize, returned, covered⟩
      cases returned
      exact covered
    · intro covered
      exact ⟨global0, global1, _, rfl, covered⟩

/-- A width of `2 ^ 32` narrows to zero work items, and those are refused. -/
example : ImageNonstandard (squareDevice 32#64) 1024#64 (2 ^ 32) 600 :=
  .inl (not_not.mp fun standard => narrowedUp_ne_zero standard (by decide))

/-- An image of `2 ^ 32 + 1000` by 600 pixels gets the range of one of 1000 by 600. -/
theorem workSizes_truncates :
    workSizes (squareDevice 32#64) 1024#64 4294968296#64 600#64 =
      .ok ⟨[1024#64, 1024#64], [32#64, 32#64]⟩ := by
  have loop : Shrinking.shrink 1024#64 ⟨32#64, 32#64, false⟩ = ⟨32#64, 32#64, false⟩ := by
    rw [Shrinking.shrink, dif_neg (by decide)]
  show acceptSizes 1024#64 1024#64 (Shrinking.shrink 1024#64 ⟨32#64, 32#64, false⟩) = _
  rw [loop]
  rfl

theorem workSizes_not_covering :
    ¬ ∀ (device : DeviceInfo) (kernelMaxWorkGroupSize w h : BitVec 64),
      Covers device kernelMaxWorkGroupSize w h := by
  intro always
  have covers := always (squareDevice 32#64) 1024#64 4294968296#64 600#64
  rw [Covers, workSizes_truncates] at covers
  rcases covers with ⟨message, thrown⟩ | ⟨global0, global1, localWorkSize, returned, wCovered, _⟩
  · cases thrown
  · cases returned
    exact absurd wCovered (by decide)

end Image

end OpenClHash.Sizing
