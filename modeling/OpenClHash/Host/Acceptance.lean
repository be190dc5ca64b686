import OpenClHash.Host.Split
import OpenClHash.Sizing.Products

/-!
Owns the check that every launch of `main` goes through in `execute`, and the devices that pass
it: the launches of a split are in groups of 256, so the global id has to choose two letters or
more.
-/

namespace OpenClHash.Host

open OpenClHash.Sizing

/-- `check_work_parameters` of the launches of `main`. -/
def launchCheck (info : DeviceInfo) (maxWorkGroupSize : BitVec 64) (split : Split)
    (targetHash : BitVec 64) : Except Failure Unit :=
  checkWorkParameters info maxWorkGroupSize 1#32 [(split.config targetHash).globalWorkSize]
    (some [256#64])

/-- Groups of 256 in one dimension, and as many work items as the prefixes. -/
def AcceptsLaunches (info : DeviceInfo) (maxWorkGroupSize : BitVec 64) (split : Split) : Prop :=
  2 ≤ split.fromGlobalId ∧ 256 ≤ info.limit0.toNat ∧
    4 * split.fromGlobalId ≤ info.addressBits.toNat ∧ info.addressBits.toNat ≤ 62 ∧
    256 ≤ info.maxWorkGroupSize.toNat ∧ 256 ≤ maxWorkGroupSize.toNat

instance (info : DeviceInfo) (maxWorkGroupSize : BitVec 64) (split : Split) :
    Decidable (AcceptsLaunches info maxWorkGroupSize split) := by
  unfold AcceptsLaunches
  infer_instance

section Accepted

variable {info : DeviceInfo} {maxWorkGroupSize : BitVec 64} {split : Split} {targetHash : BitVec 64}

theorem dvd_pow_sixteen_iff (letters : Nat) : 256 ∣ 16 ^ letters ↔ 2 ≤ letters := by
  rw [show 256 = 16 ^ 2 from rfl]
  exact Nat.pow_dvd_pow_iff_le_right (by decide)

/-- A shift by 63 leaves the least integer, below every range. -/
theorem addressRange_iff (defined : info.addressBits < 64#32) {range : BitVec 64}
    (small : range.toNat < 2 ^ 62) :
    ¬ (1#64 <<< info.addressBits).slt range ↔
      range.toNat ≤ 2 ^ info.addressBits.toNat ∧ info.addressBits.toNat ≤ 62 := by
  by_cases narrow : info.addressBits.toNat ≤ 62
  · rw [range_slt_iff narrow, not_and_or, Nat.not_lt, and_iff_left narrow]
    omega
  · have last : info.addressBits = 63#32 := by
      apply BitVec.eq_of_toNat_eq
      have below : info.addressBits.toNat < 64 := defined
      show _ = 63
      omega
    have least : (1#64 <<< info.addressBits).toInt = -2 ^ 63 := by
      rw [last]
      rfl
    have below : (1#64 <<< info.addressBits).slt range = true := by
      rw [BitVec.slt_iff_toInt_lt, least, BitVec.toInt_eq_toNat_of_lt (by omega)]
      omega
    exact iff_of_false (not_not.mpr below) fun both => narrow both.2

theorem globalWorkSize_small : (split.config targetHash).globalWorkSize.toNat < 2 ^ 62 := by
  rw [globalWorkSize_toNat]
  exact Nat.lt_of_le_of_lt (pow_le_of_le_seven split.fromGlobalId_le) (by decide)

theorem globalWorkSize_divides :
    Divides [(split.config targetHash).globalWorkSize] [256#64] 0 ↔ 2 ≤ split.fromGlobalId := by
  rw [← dvd_pow_sixteen_iff, ← globalWorkSize_toNat split targetHash, Nat.dvd_iff_mod_eq_zero]
  show (split.config targetHash).globalWorkSize % 256#64 = 0#64 ↔ _
  rw [← BitVec.toNat_inj, BitVec.toNat_umod]
  rfl

theorem localFits_iff : LocalFits info [256#64] 0 ↔ 256 ≤ info.limit0.toNat := by
  have entry : info.workItemsForDims.toList.getD 0 0#64 = info.limit0 := by
    simp [DeviceInfo.limit0]
  rw [LocalFits, entry, BitVec.le_def]
  rfl

theorem sixteen_pow_le_iff (letters bits : Nat) : 16 ^ letters ≤ 2 ^ bits ↔ 4 * letters ≤ bits := by
  rw [show 16 = 2 ^ 4 from rfl, ← Nat.pow_mul]
  exact Nat.pow_le_pow_iff_right (by decide)

theorem launchCheck_eq_ok_iff :
    launchCheck info maxWorkGroupSize split targetHash = .ok () ↔
      AcceptsLaunches info maxWorkGroupSize split := by
  unfold launchCheck AcceptsLaunches
  by_cases defined : info.addressBits < 64#32
  · have nonzero : ∀ i < (1#32).toNat, [256#64].getD i 0#64 ≠ 0#64 := by decide
    have one : ∀ property : Nat → Prop, (∀ i < (1#32).toNat, property i) ↔ property 0 :=
      fun property => Nat.forall_lt_succ_right.trans (and_iff_right nofun)
    have globalLength : (1#32).toNat ≤ [(split.config targetHash).globalWorkSize].length :=
      Nat.le_refl 1
    have localLength : (1#32).toNat ≤ [256#64].length := Nat.le_refl 1
    have product : ∀ size : BitVec 64, machineProduct ([size].take (1#32).toNat) = size :=
      fun size => BitVec.one_mul size
    rw [checkWorkParameters_eq_ok_iff defined (by decide) (by decide) globalLength
      localLength nonzero, one, one, globalWorkSize_divides, product, product,
      addressRange_iff defined globalWorkSize_small, globalWorkSize_toNat, BitVec.not_lt,
      BitVec.not_lt, BitVec.le_def, BitVec.le_def, localFits_iff, sixteen_pow_le_iff, and_assoc,
      and_left_comm]
    rfl
  · have wide := BitVec.not_lt.mp defined
    rw [checkWorkParameters_undefinedShift (by decide) (by decide) wide]
    have beyond : ¬ info.addressBits.toNat ≤ 62 := by
      have above : 64 ≤ info.addressBits.toNat := wide
      omega
    exact iff_of_false nofun fun accepts => beyond accepts.2.2.2.1

end Accepted

end OpenClHash.Host
