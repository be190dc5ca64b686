import OpenClHash.Sizing.Source

/-!
Owns the specification of `check_work_parameters`: what its loop accumulates over arrays
that hold an entry for each dimension, and when it returns.
-/

namespace OpenClHash.Sizing

theorem refuseIf_bind_eq_ok_iff {condition : Prop} [Decidable condition] {failure : Failure}
    {α : Type} {next : Unit → Except Failure α} {result : α} :
    (refuseIf condition failure >>= next) = .ok result ↔ ¬ condition ∧ next () = .ok result := by
  unfold refuseIf
  by_cases holds : condition
  · rw [if_pos holds]
    constructor
    · intro returned
      cases returned
    · intro both
      exact absurd holds both.1
  · rw [if_neg holds]
    constructor
    · intro returned
      exact ⟨holds, returned⟩
    · intro both
      exact both.2

theorem refuseIf_eq_ok_iff {condition : Prop} [Decidable condition] {failure : Failure} :
    refuseIf condition failure = .ok () ↔ ¬ condition := by
  unfold refuseIf
  by_cases holds : condition <;> simp [holds]

/-- The 64-bit product of the sizes. -/
def machineProduct (sizes : List (BitVec 64)) : BitVec 64 := sizes.foldl (· * ·) 1#64

theorem machineProduct_take_succ {sizes : List (BitVec 64)} {n : Nat} (below : n < sizes.length) :
    machineProduct (sizes.take (n + 1)) = machineProduct (sizes.take n) * sizes.getD n 0#64 := by
  rw [machineProduct, List.take_succ_eq_append_getElem below, List.foldl_append,
    List.getD_eq_getElem?_getD, List.getElem?_eq_getElem below]
  rfl

theorem entry_eq {sizes : List (BitVec 64)} {i : Nat} (below : i < sizes.length) :
    entry sizes i = .ok (sizes.getD i 0#64) := by
  rw [entry, List.getD_eq_getElem?_getD, List.getElem?_eq_getElem below]
  rfl

section Dimensions

variable (device : DeviceInfo) (globalWorkSize localWorkSize : List (BitVec 64))

/-- Dimension `i` passes the two tests of the loop. -/
def LocalFits (i : Nat) : Prop :=
  localWorkSize.getD i 0#64 ≤ device.workItemsForDims.toList.getD i 0#64

def Divides (i : Nat) : Prop :=
  globalWorkSize.getD i 0#64 % localWorkSize.getD i 0#64 = 0#64

instance : DecidablePred (LocalFits device localWorkSize) := fun i =>
  inferInstanceAs (Decidable (localWorkSize.getD i 0#64 ≤ _))

instance : DecidablePred (Divides globalWorkSize localWorkSize) := fun i =>
  inferInstanceAs (Decidable (globalWorkSize.getD i 0#64 % localWorkSize.getD i 0#64 = 0#64))

/-- What the loop has accumulated after `n` dimensions of a launch with local sizes. -/
def totals (n : Nat) : Totals where
  realGlobalWorkSize := machineProduct (globalWorkSize.take n)
  realLocalWorkSize := machineProduct (localWorkSize.take n)
  localDimsLteDeviceMax := decide (∀ i < n, LocalFits device localWorkSize i)
  globalDimsDivisibleByLocalDims := decide (∀ i < n, Divides globalWorkSize localWorkSize i)

variable {globalWorkSize localWorkSize}

theorem addDimension_eq {n : Nat} (dimension : n < 3) (globalLength : n < globalWorkSize.length)
    (localLength : n < localWorkSize.length) (nonzero : localWorkSize.getD n 0#64 ≠ 0#64) :
    addDimension device globalWorkSize (some localWorkSize)
        (totals device globalWorkSize localWorkSize n) n =
      .ok (totals device globalWorkSize localWorkSize (n + 1)) := by
  have limits : n < device.workItemsForDims.toList.length := by simpa using dimension
  simp only [addDimension, entry_eq globalLength, entry_eq localLength, entry_eq limits, bind,
    Except.bind, pure, Except.pure, refuseIf, if_neg nonzero]
  simp only [totals, machineProduct_take_succ globalLength, machineProduct_take_succ localLength,
    Nat.forall_lt_succ_right, Bool.decide_and]
  rfl

theorem addDimensions_eq {n : Nat} (dimensions : n ≤ 3) (globalLength : n ≤ globalWorkSize.length)
    (localLength : n ≤ localWorkSize.length)
    (nonzero : ∀ i < n, localWorkSize.getD i 0#64 ≠ 0#64) :
    (List.range n).foldlM (addDimension device globalWorkSize (some localWorkSize)) {} =
      .ok (totals device globalWorkSize localWorkSize n) := by
  induction n with
  | zero => simp [totals, machineProduct, pure, Except.pure]
  | succ n inductionHypothesis =>
      rw [List.range_succ, List.foldlM_append, inductionHypothesis (by omega) (by omega) (by omega)
        fun i below => nonzero i (by omega)]
      show List.foldlM (addDimension device globalWorkSize (some localWorkSize))
        (totals device globalWorkSize localWorkSize n) [n] = _
      rw [List.foldlM_cons, addDimension_eq device (by omega) (by omega) (by omega)
        (nonzero n (by omega))]
      rfl

/-- A zero local size ends the loop, whatever comes before it. -/
theorem addDimensions_zero {n : Nat} (dimensions : n ≤ 3) (globalLength : n ≤ globalWorkSize.length)
    (localLength : n ≤ localWorkSize.length)
    (zero : ∃ i < n, localWorkSize.getD i 0#64 = 0#64) :
    (List.range n).foldlM (addDimension device globalWorkSize (some localWorkSize)) {} =
      .error .divisionByZero := by
  induction n with
  | zero =>
      rcases zero with ⟨i, below, _⟩
      exact absurd below (Nat.not_lt_zero i)
  | succ n inductionHypothesis =>
      rw [List.range_succ, List.foldlM_append]
      by_cases earlier : ∃ i < n, localWorkSize.getD i 0#64 = 0#64
      · rw [inductionHypothesis (by omega) (by omega) (by omega) earlier]
        rfl
      · have nonzero : ∀ i < n, localWorkSize.getD i 0#64 ≠ 0#64 :=
          fun i below isZero => earlier ⟨i, below, isZero⟩
        have last : localWorkSize.getD n 0#64 = 0#64 := by
          rcases zero with ⟨i, below, isZero⟩
          obtain rfl : i = n := by
            by_contra other
            exact nonzero i (by omega) isZero
          exact isZero
        have limits : n < device.workItemsForDims.toList.length := by
          rw [Vector.length_toList]
          exact dimensions
        rw [addDimensions_eq device (by omega) (by omega) (by omega) nonzero]
        show List.foldlM (addDimension device globalWorkSize (some localWorkSize))
          (totals device globalWorkSize localWorkSize n) [n] = _
        rw [List.foldlM_cons]
        simp only [addDimension, entry_eq (Nat.lt_of_succ_le globalLength),
          entry_eq (Nat.lt_of_succ_le localLength), entry_eq limits, refuseIf, last]
        rfl

theorem addDimensions_none_eq {n : Nat} (globalLength : n ≤ globalWorkSize.length) :
    (List.range n).foldlM (addDimension device globalWorkSize none) {} =
      .ok { realGlobalWorkSize := machineProduct (globalWorkSize.take n) } := by
  induction n with
  | zero => simp [machineProduct, pure, Except.pure]
  | succ n inductionHypothesis =>
      rw [List.range_succ, List.foldlM_append, inductionHypothesis (by omega)]
      show List.foldlM (addDimension device globalWorkSize none)
        { realGlobalWorkSize := machineProduct (globalWorkSize.take n) } [n] = _
      rw [List.foldlM_cons]
      simp only [addDimension, entry_eq (Nat.lt_of_succ_le globalLength),
        machineProduct_take_succ (Nat.lt_of_succ_le globalLength)]
      rfl

end Dimensions

/-! ### The tests after the loop -/

/-- The end of `check_work_parameters`. -/
def acceptTotals (device : DeviceInfo) (maxWorkGroupSize : BitVec 64) (totals : Totals) :
    Except Failure Unit := do
  refuseIf (¬ totals.localDimsLteDeviceMax) (.runtimeError localDimsMessage)
  refuseIf (¬ totals.globalDimsDivisibleByLocalDims) (.runtimeError divisibleMessage)
  refuseIf ((1#64 <<< device.addressBits).slt totals.realGlobalWorkSize)
    (.runtimeError (globalRangeMessage totals.realGlobalWorkSize device.addressBits))
  refuseIf (device.maxWorkGroupSize < totals.realLocalWorkSize ∨
      maxWorkGroupSize < totals.realLocalWorkSize)
    (.runtimeError
      (groupSizeMessage totals.realLocalWorkSize device.maxWorkGroupSize maxWorkGroupSize))

section Launch

variable {device : DeviceInfo} {maxWorkGroupSize : BitVec 64} {workDim : BitVec 32}
  {globalWorkSize : List (BitVec 64)} {localWorkSize : Option (List (BitVec 64))}

theorem checkWorkParameters_badWorkDim (outside : ¬ (1 ≤ workDim.toNat ∧ workDim.toNat ≤ 3)) :
    checkWorkParameters device maxWorkGroupSize workDim globalWorkSize localWorkSize =
      .error (.runtimeError (workDimMessage workDim)) := by
  have refused : workDim < 1#32 ∨ 3#32 < workDim := by
    rw [BitVec.lt_def, BitVec.lt_def]
    simp
    omega
  rw [checkWorkParameters, refuseIf, if_pos refused]
  rfl

/-- From the second refusal on. -/
theorem checkWorkParameters_eq (positive : 1 ≤ workDim.toNat) (dimensions : workDim.toNat ≤ 3) :
    checkWorkParameters device maxWorkGroupSize workDim globalWorkSize localWorkSize =
      refuseIf (64#32 ≤ device.addressBits) .undefinedShift >>= fun _ =>
        (List.range workDim.toNat).foldlM (addDimension device globalWorkSize localWorkSize) {} >>=
          acceptTotals device maxWorkGroupSize := by
  have workDimInRange : ¬ (workDim < 1#32 ∨ 3#32 < workDim) := by
    rw [BitVec.lt_def, BitVec.lt_def]
    simp
    omega
  rw [checkWorkParameters, refuseIf, if_neg workDimInRange]
  rfl

/-- A shift by the width of the number or more comes before all else. -/
theorem checkWorkParameters_undefinedShift (positive : 1 ≤ workDim.toNat)
    (dimensions : workDim.toNat ≤ 3) (wide : 64#32 ≤ device.addressBits) :
    checkWorkParameters device maxWorkGroupSize workDim globalWorkSize localWorkSize =
      .error .undefinedShift := by
  rw [checkWorkParameters_eq positive dimensions, refuseIf, if_pos wide]
  rfl

theorem checkWorkParameters_eq_acceptTotals {totals : Totals}
    (addressBits : device.addressBits < 64#32) (positive : 1 ≤ workDim.toNat)
    (dimensions : workDim.toNat ≤ 3)
    (looped : (List.range workDim.toNat).foldlM
      (addDimension device globalWorkSize localWorkSize) {} = .ok totals) :
    checkWorkParameters device maxWorkGroupSize workDim globalWorkSize localWorkSize =
      acceptTotals device maxWorkGroupSize totals := by
  rw [checkWorkParameters_eq positive dimensions, refuseIf, if_neg (BitVec.not_le.mpr addressBits),
    looped]
  rfl

theorem acceptTotals_eq_ok_iff {totals : Totals} :
    acceptTotals device maxWorkGroupSize totals = .ok () ↔
      totals.localDimsLteDeviceMax = true ∧ totals.globalDimsDivisibleByLocalDims = true ∧
      ¬ (1#64 <<< device.addressBits).slt totals.realGlobalWorkSize ∧
      ¬ device.maxWorkGroupSize < totals.realLocalWorkSize ∧
      ¬ maxWorkGroupSize < totals.realLocalWorkSize := by
  rw [acceptTotals, refuseIf_bind_eq_ok_iff, refuseIf_bind_eq_ok_iff, refuseIf_bind_eq_ok_iff,
    refuseIf_eq_ok_iff, not_or, not_not, not_not]

/-- The computation returns, or throws what `check_error` throws. -/
def ReturnsOrThrows (computation : Except Failure Unit) : Prop :=
  computation = .ok () ∨ ∃ message, computation = .error (.runtimeError message)

theorem returnsOrThrows_refuseIf {condition : Prop} [Decidable condition] {message : String} :
    ReturnsOrThrows (refuseIf condition (.runtimeError message)) := by
  unfold refuseIf
  split
  · exact .inr ⟨message, rfl⟩
  · exact .inl rfl

theorem ReturnsOrThrows.bind {computation : Except Failure Unit}
    {next : Unit → Except Failure Unit} (first : ReturnsOrThrows computation)
    (second : ReturnsOrThrows (next ())) : ReturnsOrThrows (computation >>= next) := by
  rcases first with returned | ⟨message, thrown⟩
  · rw [returned]
    exact second
  · rw [thrown]
    exact .inr ⟨message, rfl⟩

theorem returnsOrThrows_acceptTotals {totals : Totals} :
    ReturnsOrThrows (acceptTotals device maxWorkGroupSize totals) := by
  apply returnsOrThrows_refuseIf.bind
  apply returnsOrThrows_refuseIf.bind
  apply returnsOrThrows_refuseIf.bind
  exact returnsOrThrows_refuseIf

/-- What is thrown is exactly what is not returned. -/
theorem ReturnsOrThrows.thrown_iff {computation : Except Failure Unit}
    (either : ReturnsOrThrows computation) :
    (∃ message, computation = .error (.runtimeError message)) ↔ computation ≠ .ok () := by
  rcases either with returned | ⟨message, thrown⟩
  · rw [returned]
    simp
  · rw [thrown]
    simp

/-- The launch with local sizes passes exactly when no test of the source refuses it. -/
theorem checkWorkParameters_eq_ok_iff {localSizes : List (BitVec 64)}
    (addressBits : device.addressBits < 64#32) (positive : 1 ≤ workDim.toNat)
    (dimensions : workDim.toNat ≤ 3) (globalLength : workDim.toNat ≤ globalWorkSize.length)
    (localLength : workDim.toNat ≤ localSizes.length)
    (nonzero : ∀ i < workDim.toNat, localSizes.getD i 0#64 ≠ 0#64) :
    checkWorkParameters device maxWorkGroupSize workDim globalWorkSize (some localSizes) =
        .ok () ↔
      (∀ i < workDim.toNat, LocalFits device localSizes i) ∧
      (∀ i < workDim.toNat, Divides globalWorkSize localSizes i) ∧
      ¬ (1#64 <<< device.addressBits).slt (machineProduct (globalWorkSize.take workDim.toNat)) ∧
      ¬ device.maxWorkGroupSize < machineProduct (localSizes.take workDim.toNat) ∧
      ¬ maxWorkGroupSize < machineProduct (localSizes.take workDim.toNat) := by
  rw [checkWorkParameters_eq_acceptTotals addressBits positive dimensions
    (addDimensions_eq device dimensions globalLength localLength nonzero), acceptTotals_eq_ok_iff]
  simp only [totals, decide_eq_true_eq]

end Launch

/-! ### No slot is indexed -/

/-- The computation does not leave by `failure`. -/
def Avoids (failure : Failure) {α : Type} (computation : Except Failure α) : Prop :=
  computation ≠ .error failure

section Avoids

variable {failure : Failure} {α β : Type}

theorem avoids_pure (value : α) : Avoids failure (pure value) := nofun

theorem Avoids.bind {computation : Except Failure α} {next : α → Except Failure β}
    (first : Avoids failure computation) (second : ∀ value, Avoids failure (next value)) :
    Avoids failure (computation >>= next) := by
  cases computation with
  | error other =>
      intro left
      cases left
      exact first rfl
  | ok value => exact second value

theorem avoids_refuseIf {condition : Prop} [Decidable condition] {other : Failure}
    (different : other ≠ failure) : Avoids failure (refuseIf condition other) := by
  unfold refuseIf
  by_cases holds : condition
  · rw [if_pos holds]
    intro left
    cases left
    exact different rfl
  · rw [if_neg holds]
    exact nofun

theorem avoids_foldlM {step : β → α → Except Failure β}
    (each : ∀ total entry, Avoids failure (step total entry)) (entries : List α) (total : β) :
    Avoids failure (entries.foldlM step total) := by
  induction entries generalizing total with
  | nil => exact avoids_pure total
  | cons entry rest inductionHypothesis =>
      rw [List.foldlM_cons]
      exact (each total entry).bind inductionHypothesis

theorem avoids_entry (sizes : List (BitVec 64)) (i : Nat) :
    Avoids .slotOutOfBounds (entry sizes i) := by
  unfold entry
  cases sizes[i]? with
  | none => exact nofun
  | some size => exact nofun

theorem avoids_addDimension (device : DeviceInfo) (globalWorkSize : List (BitVec 64))
    (localWorkSize : Option (List (BitVec 64))) (totals : Totals) (i : Nat) :
    Avoids .slotOutOfBounds (addDimension device globalWorkSize localWorkSize totals i) := by
  apply (avoids_entry globalWorkSize i).bind
  intro globalSize
  cases localWorkSize with
  | none => exact avoids_pure _
  | some localWorkSize =>
      apply (avoids_entry localWorkSize i).bind
      intro localSize
      apply (avoids_entry _ i).bind
      intro limit
      exact (avoids_refuseIf (by simp)).bind fun _ => avoids_pure _

theorem avoids_checkWorkParameters (device : DeviceInfo) (maxWorkGroupSize : BitVec 64)
    (workDim : BitVec 32) (globalWorkSize : List (BitVec 64))
    (localWorkSize : Option (List (BitVec 64))) :
    Avoids .slotOutOfBounds
      (checkWorkParameters device maxWorkGroupSize workDim globalWorkSize localWorkSize) := by
  apply (avoids_refuseIf (by simp)).bind
  intro _
  apply (avoids_refuseIf (by simp)).bind
  intro _
  refine (avoids_foldlM (avoids_addDimension device globalWorkSize localWorkSize) _ _).bind
    fun totals => ?_
  apply (avoids_refuseIf (by simp)).bind
  intro _
  apply (avoids_refuseIf (by simp)).bind
  intro _
  apply (avoids_refuseIf (by simp)).bind
  intro _
  exact avoids_refuseIf (by simp)

end Avoids

end OpenClHash.Sizing
