import OpenClHash.Host.Source
import OpenClHash.Kernel.WorkItem
import OpenClHash.Library.LittleEndian

/-!
Owns the splits of a word length into letters chosen by the host loop, by the global
id and inside the kernel, each at most 7. For such a split the 32-bit shifts of `main`
and of the kernel compute the exact ranges `16 ^ c`, `16 ^ g` and `16 ^ k`, the narrowed
arguments keep their values, and the word examined at `(i, global_id, j)` is the
concatenation of the three indices' base-16 digits.
-/

namespace OpenClHash.Host

open OpenClHash.Kernel OpenClHash.Library

/-- A split of the word length into three parts of at most seven letters. -/
structure Split where
  onCpu : Nat
  fromGlobalId : Nat
  inKernel : Nat
  onCpu_le : onCpu ≤ 7
  fromGlobalId_le : fromGlobalId ≤ 7
  inKernel_le : inKernel ≤ 7

namespace Split

/-- The word length that is split. -/
def letterCount (split : Split) : Nat := split.onCpu + split.fromGlobalId + split.inKernel

/-- `main` compiled for a split and a target. -/
def config (split : Split) (targetHash : BitVec 64) : Config where
  letterCount := split.letterCount
  targetHash := targetHash
  lettersFromGlobalId := BitVec.ofNat 64 split.fromGlobalId
  lettersToIterOverInKernel := BitVec.ofNat 64 split.inKernel

example : Split.config ⟨3, 4, 2, by decide, by decide, by decide⟩ 910897038977002#64 =
    shippedConfig := by decide

end Split

/-! ### Narrowed arguments -/

/-- Four little-endian bytes of a 64-bit variable are its low half. -/
theorem pushInt_eq (value : BitVec 64) : pushInt value = value.setWidth 32 := by
  show LittleEndian.read 32 ((LittleEndian.bytes 8 value).take 4) = _
  rw [LittleEndian.take_bytes (by decide)]
  exact LittleEndian.read_bytes (by decide) value

theorem pushInt_ofNat {value : Nat} (small : value < 2 ^ 32) :
    (pushInt (BitVec.ofNat 64 value)).toNat = value := by
  rw [pushInt_eq, BitVec.toNat_setWidth, BitVec.toNat_ofNat]
  omega

/-! ### Ranges -/

theorem shiftedOne_toNat {letters : Nat} (small : letters ≤ 7) :
    (shiftedOne (BitVec.ofNat 64 letters * 4#64)).toNat = 16 ^ letters := by
  interval_cases letters <;> decide

section Ranges

variable (split : Split) (targetHash : BitVec 64)

theorem globalWorkSize_toNat :
    (split.config targetHash).globalWorkSize.toNat = 16 ^ split.fromGlobalId :=
  shiftedOne_toNat split.fromGlobalId_le

theorem lettersToIterOverOnCpu_eq :
    (split.config targetHash).lettersToIterOverOnCpu = BitVec.ofNat 64 split.onCpu := by
  have onCpu := split.onCpu_le
  have fromGlobalId := split.fromGlobalId_le
  have inKernel := split.inKernel_le
  apply BitVec.eq_of_toNat_eq
  simp only [Config.lettersToIterOverOnCpu, Split.config, Split.letterCount, BitVec.toNat_sub,
    BitVec.toNat_ofNat]
  omega

theorem repeatCnt_toNat :
    (split.config targetHash).repeatCnt.toNat = 16 ^ split.onCpu := by
  rw [Config.repeatCnt, lettersToIterOverOnCpu_eq, shiftedOne_toNat split.onCpu_le]

theorem arguments_lettersFromGlobalId (i : BitVec 64) :
    ((split.config targetHash).arguments i).lettersFromGlobalId.toNat = split.fromGlobalId := by
  have small := split.fromGlobalId_le
  exact pushInt_ofNat (by omega)

theorem arguments_lettersToIterOver (i : BitVec 64) :
    ((split.config targetHash).arguments i).lettersToIterOver.toNat = split.inKernel := by
  have small := split.inKernel_le
  exact pushInt_ofNat (by omega)

theorem combinations_toNat (i : BitVec 64) :
    (combinations ((split.config targetHash).arguments i)).toNat = 16 ^ split.inKernel := by
  have argument := arguments_lettersToIterOver split targetHash i
  rw [combinations_eq_pow (by rw [argument]; exact split.inKernel_le), argument]

/-- The arguments of `main` satisfy what the kernel assumes. -/
theorem arguments_fits (i : BitVec 64) :
    Fits split.letterCount ((split.config targetHash).arguments i) := by
  have onCpu := split.onCpu_le
  have fromGlobalId := split.fromGlobalId_le
  have inKernel := split.inKernel_le
  constructor
  · unfold Split.letterCount
    omega
  · rw [arguments_lettersFromGlobalId, arguments_lettersToIterOver]
    unfold Split.letterCount
    omega

end Ranges

/-! ### The examined word -/

theorem digitsOf_sshiftRight {value : BitVec 32} (nonnegative : value.toNat < 2 ^ 31) {count : Nat}
    (small : count ≤ 8) :
    digitsOf (fun amount => value.sshiftRight amount) count =
      FixedDigits.digits 16 count value.toNat := by
  have signless : value.msb = false := by
    rw [BitVec.msb_eq_false_iff_two_mul_lt]
    omega
  rw [← digitsOf_shiftRight value small]
  simp only [BitVec.sshiftRight_eq_of_msb_false signless]

/-- The digits of the word at host index `i`, global id `globalId` and kernel index `j`. -/
def wordDigits (split : Split) (i globalId j : Nat) : List (Fin 16) :=
  FixedDigits.digits 16 split.onCpu i ++
    FixedDigits.digits 16 split.fromGlobalId globalId ++
      FixedDigits.digits 16 split.inKernel j

theorem wordDigits_length (split : Split) (i globalId j : Nat) :
    (wordDigits split i globalId j).length = split.letterCount := by
  simp [wordDigits, Split.letterCount, Nat.add_assoc]

theorem pow_le_of_le_seven {letters : Nat} (small : letters ≤ 7) : 16 ^ letters ≤ 2 ^ 28 :=
  calc 16 ^ letters ≤ 16 ^ 7 := Nat.pow_le_pow_right (by decide) small
    _ = 2 ^ 28 := by norm_num

theorem examinedDigits_eq (split : Split) (targetHash : BitVec 64) {i globalId j : Nat}
    (iBelow : i < 16 ^ split.onCpu) (globalIdBelow : globalId < 16 ^ split.fromGlobalId)
    (jBelow : j < 16 ^ split.inKernel) :
    examinedDigits split.letterCount ((split.config targetHash).arguments (BitVec.ofNat 64 i))
        (BitVec.ofNat 32 globalId) j =
      wordDigits split i globalId j := by
  have onCpu := split.onCpu_le
  have fromGlobalId := split.fromGlobalId_le
  have inKernel := split.inKernel_le
  have iSmall := lt_of_lt_of_le iBelow (pow_le_of_le_seven onCpu)
  have globalIdSmall := lt_of_lt_of_le globalIdBelow (pow_le_of_le_seven fromGlobalId)
  have jSmall := lt_of_lt_of_le jBelow (pow_le_of_le_seven inKernel)
  have fits := arguments_fits split targetHash (BitVec.ofNat 64 i)
  have cpuIterI : ((split.config targetHash).arguments (BitVec.ofNat 64 i)).cpuIterI.toNat = i :=
    pushInt_ofNat (by omega)
  have fromCpu : (lettersFromCpuIterI split.letterCount
      ((split.config targetHash).arguments (BitVec.ofNat 64 i))).toNat = split.onCpu := by
    rw [lettersFromCpuIterI_toNat fits, arguments_lettersFromGlobalId,
      arguments_lettersToIterOver]
    unfold Split.letterCount
    omega
  rw [examinedDigits, prefixDigits, fromCpu, arguments_lettersFromGlobalId,
    arguments_lettersToIterOver, digitsOf_sshiftRight (by omega) (by omega), cpuIterI,
    digitsOf_shiftRight _ (by omega), digitsOf_shiftRight _ (by omega), BitVec.toNat_ofNat,
    BitVec.toNat_ofNat, Nat.mod_eq_of_lt (by omega), Nat.mod_eq_of_lt (by omega), wordDigits]

/-- No word is examined twice. -/
theorem wordDigits_injective (split : Split) {i globalId j i' globalId' j' : Nat}
    (iBelow : i < 16 ^ split.onCpu) (globalIdBelow : globalId < 16 ^ split.fromGlobalId)
    (jBelow : j < 16 ^ split.inKernel) (iBelow' : i' < 16 ^ split.onCpu)
    (globalIdBelow' : globalId' < 16 ^ split.fromGlobalId) (jBelow' : j' < 16 ^ split.inKernel)
    (same : wordDigits split i globalId j = wordDigits split i' globalId' j') :
    i = i' ∧ globalId = globalId' ∧ j = j' := by
  obtain ⟨front, suffix⟩ := List.append_inj same (by simp)
  obtain ⟨first, second⟩ := List.append_inj front (by simp)
  exact ⟨FixedDigits.digits_injective iBelow iBelow' first,
    FixedDigits.digits_injective globalIdBelow globalIdBelow' second,
    FixedDigits.digits_injective jBelow jBelow' suffix⟩

/-- No word is skipped. -/
theorem exists_wordDigits (split : Split) {digits : List (Fin 16)}
    (length : digits.length = split.letterCount) :
    ∃ i < 16 ^ split.onCpu, ∃ globalId < 16 ^ split.fromGlobalId, ∃ j < 16 ^ split.inKernel,
      wordDigits split i globalId j = digits := by
  unfold Split.letterCount at length
  obtain ⟨i, iBelow, first⟩ := FixedDigits.exists_digits
    (digits.take split.onCpu) (show _ = split.onCpu by simp; omega)
  obtain ⟨globalId, globalIdBelow, second⟩ := FixedDigits.exists_digits
    ((digits.drop split.onCpu).take split.fromGlobalId)
    (show _ = split.fromGlobalId by simp; omega)
  obtain ⟨j, jBelow, third⟩ := FixedDigits.exists_digits
    ((digits.drop split.onCpu).drop split.fromGlobalId)
    (show _ = split.inKernel by simp; omega)
  refine ⟨i, iBelow, globalId, globalIdBelow, j, jBelow, ?_⟩
  rw [wordDigits, first, second, third, List.append_assoc, List.take_append_drop,
    List.take_append_drop]

end OpenClHash.Host
