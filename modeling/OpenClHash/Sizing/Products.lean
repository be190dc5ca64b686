import OpenClHash.Sizing.Validation

/-!
Owns what `check_work_parameters` decides in terms of integers. Its accumulators hold the
residues of the true products, so it is exact while these are below `2 ^ 63`; an oversized
launch passes exactly when its residues look small.
-/

namespace OpenClHash.Sizing

/-! ### Products -/

/-- The product of the first `n` sizes, as an integer. -/
def sizeProduct (sizes : List (BitVec 64)) (n : Nat) : Nat :=
  ((sizes.take n).map BitVec.toNat).prod

/-- The number of work items in a group; it is one when there are no local sizes. -/
def groupProduct (localWorkSize : Option (List (BitVec 64))) (n : Nat) : Nat :=
  match localWorkSize with
  | none => 1
  | some sizes => sizeProduct sizes n

theorem foldl_mul_toNat (sizes : List (BitVec 64)) (start : BitVec 64) :
    (sizes.foldl (· * ·) start).toNat =
      start.toNat * (sizes.map BitVec.toNat).prod % 2 ^ 64 := by
  induction sizes generalizing start with
  | nil => simp [Nat.mod_eq_of_lt start.isLt]
  | cons size rest inductionHypothesis =>
      rw [List.foldl_cons, inductionHypothesis, BitVec.toNat_mul, List.map_cons, List.prod_cons,
        Nat.mod_mul_mod, Nat.mul_assoc]

/-- The accumulator holds the residue of the true product. -/
theorem machineProduct_toNat (sizes : List (BitVec 64)) (n : Nat) :
    (machineProduct (sizes.take n)).toNat = sizeProduct sizes n % 2 ^ 64 := by
  rw [machineProduct, foldl_mul_toNat, sizeProduct]
  simp

/-- The bound of the validator is compared as a signed number. -/
theorem range_slt_iff {addressBits : BitVec 32} (narrow : addressBits.toNat ≤ 62)
    (product : BitVec 64) :
    (1#64 <<< addressBits).slt product = true ↔
      2 ^ addressBits.toNat < product.toNat ∧ product.toNat < 2 ^ 63 := by
  have power : 2 ^ addressBits.toNat ≤ 2 ^ 62 := Nat.pow_le_pow_right (by decide) narrow
  have bound : (1#64 <<< addressBits).toNat = 2 ^ addressBits.toNat := by
    rw [BitVec.shiftLeft_eq', BitVec.toNat_shiftLeft, BitVec.toNat_ofNat, Nat.shiftLeft_eq]
    exact (Nat.mod_eq_of_lt (by omega)).trans (Nat.one_mul _)
  rw [BitVec.slt_iff_toInt_lt, BitVec.toInt_eq_toNat_of_lt (by omega), bound]
  by_cases small : product.toNat < 2 ^ 63
  · rw [BitVec.toInt_eq_toNat_of_lt (by omega)]
    omega
  · have negative : product.toInt = product.toNat - 2 ^ 64 := by
      rw [BitVec.toInt_eq_toNat_cond, if_neg (by omega)]
      rfl
    have inRange := product.isLt
    omega

theorem addressBits_lt {addressBits : BitVec 32} (narrow : addressBits.toNat ≤ 62) :
    addressBits < 64#32 := by
  rw [BitVec.lt_def]
  exact Nat.lt_of_le_of_lt narrow (by decide)

/-! ### The verdict -/

/-- A GPU that allows `limit` work items in each dimension and groups of 1024. -/
def squareDevice (limit : BitVec 64) : DeviceInfo where
  type := 4#64
  addressBits := 32#32
  maxWorkGroupSize := 1024#64
  workItemsForDims := #v[limit, limit, 64#64]

section Launch

variable (device : DeviceInfo) (globalWorkSize : List (BitVec 64))
  (localWorkSize : Option (List (BitVec 64)))

/-- No local sizes, or one for each dimension and none of them zero. -/
def NonzeroSizes (n : Nat) : Prop :=
  ∀ sizes, localWorkSize = some sizes →
    n ≤ sizes.length ∧ ∀ i < n, sizes.getD i 0#64 ≠ 0#64

/-- Each local size is within the limit of its dimension and divides the global size. -/
def DimensionsPass (n : Nat) : Prop :=
  ∀ sizes, localWorkSize = some sizes →
    (∀ i < n, LocalFits device sizes i) ∧ ∀ i < n, Divides globalWorkSize sizes i

variable {globalWorkSize localWorkSize}

theorem nonzeroSizes_none (n : Nat) : NonzeroSizes none n := by
  intro sizes same
  cases same

theorem exists_totals {n : Nat} (dimensions : n ≤ 3) (globalLength : n ≤ globalWorkSize.length)
    (nonzero : NonzeroSizes localWorkSize n) :
    ∃ totals, (List.range n).foldlM (addDimension device globalWorkSize localWorkSize) {} =
        .ok totals ∧
      totals.realGlobalWorkSize.toNat = sizeProduct globalWorkSize n % 2 ^ 64 ∧
      totals.realLocalWorkSize.toNat = groupProduct localWorkSize n % 2 ^ 64 ∧
      (totals.localDimsLteDeviceMax = true ∧ totals.globalDimsDivisibleByLocalDims = true ↔
        DimensionsPass device globalWorkSize localWorkSize n) := by
  cases localWorkSize with
  | none =>
      refine ⟨_, addDimensions_none_eq device globalLength, machineProduct_toNat _ _, rfl, ?_⟩
      simp [DimensionsPass]
  | some sizes =>
      obtain ⟨localLength, entries⟩ := nonzero sizes rfl
      refine ⟨_, addDimensions_eq device dimensions globalLength localLength entries,
        machineProduct_toNat _ _, machineProduct_toNat _ _, ?_⟩
      simp [DimensionsPass, totals]

variable {device} (maxWorkGroupSize : BitVec 64) {workDim : BitVec 32}

/-- Without a zero local size the only failure left is the exception. -/
theorem returnsOrThrows_checkWorkParameters (addressBits : device.addressBits < 64#32)
    (positive : 1 ≤ workDim.toNat) (dimensions : workDim.toNat ≤ 3)
    (globalLength : workDim.toNat ≤ globalWorkSize.length)
    (nonzero : NonzeroSizes localWorkSize workDim.toNat) :
    ReturnsOrThrows
      (checkWorkParameters device maxWorkGroupSize workDim globalWorkSize localWorkSize) := by
  obtain ⟨totals, looped, _⟩ := exists_totals device dimensions globalLength nonzero
  rw [checkWorkParameters_eq_acceptTotals addressBits positive dimensions looped]
  exact returnsOrThrows_acceptTotals

/-- The launch passes exactly when the residues of its products do. -/
theorem checkWorkParameters_residues (narrow : device.addressBits.toNat ≤ 62)
    (positive : 1 ≤ workDim.toNat) (dimensions : workDim.toNat ≤ 3)
    (globalLength : workDim.toNat ≤ globalWorkSize.length)
    (nonzero : NonzeroSizes localWorkSize workDim.toNat) :
    checkWorkParameters device maxWorkGroupSize workDim globalWorkSize localWorkSize = .ok () ↔
      DimensionsPass device globalWorkSize localWorkSize workDim.toNat ∧
      ¬ (2 ^ device.addressBits.toNat < sizeProduct globalWorkSize workDim.toNat % 2 ^ 64 ∧
        sizeProduct globalWorkSize workDim.toNat % 2 ^ 64 < 2 ^ 63) ∧
      groupProduct localWorkSize workDim.toNat % 2 ^ 64 ≤ device.maxWorkGroupSize.toNat ∧
      groupProduct localWorkSize workDim.toNat % 2 ^ 64 ≤ maxWorkGroupSize.toNat := by
  obtain ⟨totals, looped, globalEq, localEq, passed⟩ :=
    exists_totals device dimensions globalLength nonzero
  rw [checkWorkParameters_eq_acceptTotals (addressBits_lt narrow) positive dimensions looped,
    acceptTotals_eq_ok_iff, ← and_assoc, passed, range_slt_iff narrow, globalEq, BitVec.not_lt,
    BitVec.not_lt, BitVec.le_def, BitVec.le_def, localEq]

/-- While nothing wraps, the check decides exactly what it is for. A `work_dim` above 3 is
refused before the arrays are read. -/
theorem checkWorkParameters_exact (narrow : device.addressBits.toNat ≤ 62)
    (globalLength : workDim.toNat ≤ 3 → workDim.toNat ≤ globalWorkSize.length)
    (nonzero : workDim.toNat ≤ 3 → NonzeroSizes localWorkSize workDim.toNat)
    (globalFits : sizeProduct globalWorkSize workDim.toNat < 2 ^ 63)
    (localFits : groupProduct localWorkSize workDim.toNat < 2 ^ 63) :
    checkWorkParameters device maxWorkGroupSize workDim globalWorkSize localWorkSize = .ok () ↔
      (1 ≤ workDim.toNat ∧ workDim.toNat ≤ 3) ∧
      DimensionsPass device globalWorkSize localWorkSize workDim.toNat ∧
      sizeProduct globalWorkSize workDim.toNat ≤ 2 ^ device.addressBits.toNat ∧
      groupProduct localWorkSize workDim.toNat ≤ device.maxWorkGroupSize.toNat ∧
      groupProduct localWorkSize workDim.toNat ≤ maxWorkGroupSize.toNat := by
  by_cases inRange : 1 ≤ workDim.toNat ∧ workDim.toNat ≤ 3
  · rw [checkWorkParameters_residues maxWorkGroupSize narrow inRange.1 inRange.2
        (globalLength inRange.2) (nonzero inRange.2),
      Nat.mod_eq_of_lt (by omega), Nat.mod_eq_of_lt (by omega), and_iff_left globalFits, Nat.not_lt]
    exact (and_iff_right inRange).symm
  · rw [checkWorkParameters_badWorkDim inRange]
    apply iff_of_false
    · intro returned
      cases returned
    · intro accepted
      exact inRange accepted.1

theorem checkWorkParameters_exact_square32 :
    checkWorkParameters (squareDevice 32#64) 1024#64 2#32 [1024#64, 1024#64]
      (some [32#64, 32#64]) = .ok () := by
  have nonzero : NonzeroSizes (some [32#64, 32#64]) 2 := by
    intro sizes same
    cases same
    decide
  apply (checkWorkParameters_exact 1024#64 (by decide) (fun _ => by decide) (fun _ => nonzero)
    (by decide) (by decide)).mpr
  refine ⟨by decide, ?_, by decide⟩
  intro sizes same
  cases same
  decide

/-- An oversized launch is refused exactly when a dimension or a residue gives it away. -/
theorem checkWorkParameters_oversized_iff (narrow : device.addressBits.toNat ≤ 62)
    (positive : 1 ≤ workDim.toNat) (dimensions : workDim.toNat ≤ 3)
    (globalLength : workDim.toNat ≤ globalWorkSize.length)
    (nonzero : NonzeroSizes localWorkSize workDim.toNat) :
    (2 ^ 63 ≤ sizeProduct globalWorkSize workDim.toNat ∨
        2 ^ 63 ≤ groupProduct localWorkSize workDim.toNat →
      ∃ message, checkWorkParameters device maxWorkGroupSize workDim globalWorkSize
        localWorkSize = .error (.runtimeError message)) ↔
      (sizeProduct globalWorkSize workDim.toNat < 2 ^ 63 ∧
        groupProduct localWorkSize workDim.toNat < 2 ^ 63) ∨
      ¬ DimensionsPass device globalWorkSize localWorkSize workDim.toNat ∨
      (2 ^ device.addressBits.toNat < sizeProduct globalWorkSize workDim.toNat % 2 ^ 64 ∧
        sizeProduct globalWorkSize workDim.toNat % 2 ^ 64 < 2 ^ 63) ∨
      device.maxWorkGroupSize.toNat < groupProduct localWorkSize workDim.toNat % 2 ^ 64 ∨
      maxWorkGroupSize.toNat < groupProduct localWorkSize workDim.toNat % 2 ^ 64 := by
  have either := returnsOrThrows_checkWorkParameters maxWorkGroupSize (addressBits_lt narrow)
    positive dimensions globalLength nonzero
  rw [either.thrown_iff, ne_eq,
    checkWorkParameters_residues maxWorkGroupSize narrow positive dimensions globalLength nonzero,
    imp_iff_not_or, not_or, Nat.not_le, Nat.not_le]
  apply or_congr_right
  rw [not_and_or, not_and_or, not_not, not_and_or, Nat.not_le, Nat.not_le]

/-- Two sizes of `2 ^ 32` multiply to zero. -/
theorem oversized_launch_passes :
    ¬ ∀ (device : DeviceInfo) (maxWorkGroupSize : BitVec 64) (workDim : BitVec 32)
      (globalWorkSize : List (BitVec 64)) (localWorkSize : Option (List (BitVec 64))),
      device.addressBits.toNat ≤ 62 → device.maxWorkGroupSize.toNat < 2 ^ 63 →
      maxWorkGroupSize.toNat < 2 ^ 63 → 1 ≤ workDim.toNat → workDim.toNat ≤ 3 →
      workDim.toNat ≤ globalWorkSize.length → NonzeroSizes localWorkSize workDim.toNat →
      2 ^ 63 ≤ sizeProduct globalWorkSize workDim.toNat ∨
        2 ^ 63 ≤ groupProduct localWorkSize workDim.toNat →
      ∃ message, checkWorkParameters device maxWorkGroupSize workDim globalWorkSize
        localWorkSize = .error (.runtimeError message) := by
  intro raises
  have raised := raises (squareDevice 1024#64) 1024#64 2#32 [4294967296#64, 4294967296#64] none
    (by decide) (by decide) (by decide) (by decide) (by decide) (by decide)
    (nonzeroSizes_none 2) (.inl (by decide))
  have passes : checkWorkParameters (squareDevice 1024#64) 1024#64 2#32
      [4294967296#64, 4294967296#64] none = .ok () := by rfl
  rw [passes] at raised
  rcases raised with ⟨message, thrown⟩
  cases thrown

/-- Of `2 ^ 33` by `2 ^ 31 + 1` work items `2 ^ 33` are left, more than 32 bits address. -/
theorem oversized_launch_refused :
    ∃ message, checkWorkParameters (squareDevice 1024#64) 1024#64 2#32
      [8589934592#64, 2147483649#64] none = .error (.runtimeError message) := by
  apply (checkWorkParameters_oversized_iff 1024#64 (by decide) (by decide) (by decide)
    (by decide) (nonzeroSizes_none 2)).mpr
  · exact .inr (.inr (.inl (by decide)))
  · exact .inl (by decide)

end Launch

end OpenClHash.Sizing
