import Mathlib.Data.Vector.Basic

/-!
Owns the embedding of `closest_power_of_2`, `work_sizes` and
`Kernel::check_work_parameters`. `int` is a 32-bit and `size_t` a 64-bit word, a
conversion to a narrower type keeps the low-order bits, and `long long` products are the
two's complement reading of the unsigned ones.

The two functions read the device limits and the work-group limit of the kernel, and
nothing else of the wrapper's state.
-/

namespace OpenClHash.Sizing

/-- How a wrapper call leaves by other than its return: an exception, or an operation the
C++ text leaves undefined. -/
inductive Failure where
  | runtimeError (message : String)
  | outOfBounds
  | slotOutOfBounds
  | typeOutOfBounds
  | divisionByZero
  | signedOverflow
  | undefinedShift
deriving DecidableEq, Repr

/-- The limits of a `DeviceInfo` and its type. Its other fields are only printed. -/
structure DeviceInfo where
  type : BitVec 64
  addressBits : BitVec 32
  maxWorkGroupSize : BitVec 64
  workItemsForDims : Vector (BitVec 64) 3
deriving DecidableEq, Repr

/-- `work_items_for_dims[0]`. -/
def DeviceInfo.limit0 (device : DeviceInfo) : BitVec 64 := device.workItemsForDims[0]

/-- `work_items_for_dims[1]`. -/
def DeviceInfo.limit1 (device : DeviceInfo) : BitVec 64 := device.workItemsForDims[1]

/-- `sizes[i]`. -/
def entry (sizes : List (BitVec 64)) (i : Nat) : Except Failure (BitVec 64) :=
  match sizes[i]? with
  | some size => .ok size
  | none => .error .outOfBounds

/-- Leaves with the failure if the condition holds. -/
def refuseIf (condition : Prop) [Decidable condition] (failure : Failure) : Except Failure Unit :=
  if condition then .error failure else .ok ()

/-! ### `closest_power_of_2` -/

/-- `x |= x >> distance` on an `int`. -/
def smear (x : BitVec 32) (distance : Nat) : BitVec 32 := x ||| x.sshiftRight distance

def closestPowerOf2 (x : BitVec 32) : Except Failure (BitVec 64) :=
  if x.slt 0#32 then
    .ok 0#64
  else
    let smeared := smear (smear (smear (smear (smear (x - 1#32) 1) 2) 4) 8) 16
    if smeared = BitVec.intMax 32 then
      .error .signedOverflow
    else
      .ok ((smeared + 1#32).signExtend 64)

/-! ### `work_sizes` -/

/-- The two entries of `local_work_size` and the variable `div_w` of the shrinking loop. -/
structure Shrinking where
  size0 : BitVec 64
  size1 : BitVec 64
  divW : Bool
deriving DecidableEq, Repr

namespace Shrinking

/-- The loop body. -/
def step (sizes : Shrinking) : Shrinking where
  size0 := sizes.size0 / if sizes.divW then 2#64 else 1#64
  size1 := sizes.size1 / if !sizes.divW then 2#64 else 1#64
  divW := !sizes.divW

theorem toNat_pos {size : BitVec 64} (nonzero : size ≠ 0#64) : 0 < size.toNat := by
  rw [Nat.pos_iff_ne_zero]
  intro zero
  exact nonzero (BitVec.eq_of_toNat_eq zero)

/-- A machine product that exceeds something has no zero factor, so halving either size
shrinks it. -/
theorem step_lt {maxLocal : BitVec 64} {sizes : Shrinking}
    (exceeds : maxLocal < sizes.size0 * sizes.size1) :
    sizes.step.size0.toNat + sizes.step.size1.toNat < sizes.size0.toNat + sizes.size1.toNat := by
  have nonzero : sizes.size0 * sizes.size1 ≠ 0#64 := by
    intro zero
    rw [zero] at exceeds
    exact BitVec.not_lt_zero exceeds
  have pos0 : 0 < sizes.size0.toNat := toNat_pos fun zero => nonzero (by simp [zero])
  have pos1 : 0 < sizes.size1.toNat := toNat_pos fun zero => nonzero (by simp [zero])
  cases turn : sizes.divW with
  | false =>
      simp only [step, turn, BitVec.toNat_udiv]
      simp
      omega
  | true =>
      simp only [step, turn, BitVec.toNat_udiv]
      simp
      omega

/-- `while (local_work_size[0] * local_work_size[1] > max_local)`. -/
def shrink (maxLocal : BitVec 64) (sizes : Shrinking) : Shrinking :=
  if _ : maxLocal < sizes.size0 * sizes.size1 then
    shrink maxLocal sizes.step
  else
    sizes
termination_by sizes.size0.toNat + sizes.size1.toNat
decreasing_by exact step_lt ‹_›

end Shrinking

/-- What `work_sizes` writes to its two array parameters. -/
structure WorkSizes where
  globalWorkSize : List (BitVec 64)
  localWorkSize : List (BitVec 64)
deriving DecidableEq, Repr

/-- The first local size of a dimension of `x` pixels. -/
def initialLocal (maxDeviceLocalSize x : BitVec 64) : Except Failure (BitVec 64) :=
  if maxDeviceLocalSize ≤ x then
    .ok maxDeviceLocalSize
  else
    closestPowerOf2 (x.setWidth 32)

/-- `std::min`. -/
def minSize (left right : BitVec 64) : BitVec 64 := if right < left then right else left

/-- The last check of `work_sizes` and its writes to the array parameters. -/
def acceptSizes (global0 global1 : BitVec 64) (sizes : Shrinking) : Except Failure WorkSizes :=
  if global0 < sizes.size0 ∨ global1 < sizes.size1 ∨ sizes.size0 = 0#64 ∨ sizes.size1 = 0#64 then
    .error (.runtimeError "Tried to create nonstandard work dimensions")
  else
    .ok { globalWorkSize := [global0, global1], localWorkSize := [sizes.size0, sizes.size1] }

def workSizes (device : DeviceInfo) (kernelMaxWorkGroupSize w h : BitVec 64) :
    Except Failure WorkSizes := do
  let maxLocal := minSize device.maxWorkGroupSize kernelMaxWorkGroupSize
  let global0 ← closestPowerOf2 (w.setWidth 32)
  let global1 ← closestPowerOf2 (h.setWidth 32)
  let local0 ← initialLocal device.limit0 w
  let local1 ← initialLocal device.limit1 h
  let divW := decide (local1 < local0)
  acceptSizes global0 global1 (Shrinking.shrink maxLocal ⟨local0, local1, divW⟩)

/-! ### `check_work_parameters` -/

/-- What the loop over the dimensions accumulates. -/
structure Totals where
  realGlobalWorkSize : BitVec 64 := 1#64
  realLocalWorkSize : BitVec 64 := 1#64
  localDimsLteDeviceMax : Bool := true
  globalDimsDivisibleByLocalDims : Bool := true
deriving DecidableEq, Repr

/-- The loop body for dimension `i`. -/
def addDimension (device : DeviceInfo) (globalWorkSize : List (BitVec 64))
    (localWorkSize : Option (List (BitVec 64))) (totals : Totals) (i : Nat) :
    Except Failure Totals := do
  let globalSize ← entry globalWorkSize i
  let realGlobalWorkSize := totals.realGlobalWorkSize * globalSize
  match localWorkSize with
  | none => return { totals with realGlobalWorkSize := realGlobalWorkSize }
  | some localWorkSize => do
      let localSize ← entry localWorkSize i
      let limit ← entry device.workItemsForDims.toList i
      refuseIf (localSize = 0#64) .divisionByZero
      return {
        realGlobalWorkSize := realGlobalWorkSize
        realLocalWorkSize := totals.realLocalWorkSize * localSize
        localDimsLteDeviceMax := totals.localDimsLteDeviceMax && decide (localSize ≤ limit)
        globalDimsDivisibleByLocalDims :=
          totals.globalDimsDivisibleByLocalDims && decide (globalSize % localSize = 0#64) }

/-- What `%d` prints for a `size_t`: its low-order half as an `int`. -/
def printInt (value : BitVec 64) : String := toString (value.setWidth 32).toInt

/-- The message for each reason to refuse a launch. -/
def workDimMessage (workDim : BitVec 32) : String :=
  "Work parameters: 1 <= (work_dim=" ++ toString workDim.toInt ++ ") <= 3"

def localDimsMessage : String :=
  "Work parameters: one of local dimensions are bigger then device allows"

def divisibleMessage : String :=
  "Work parameters: For each dimension global_work_size[dim] should be multiply of " ++
    "local_work_size[dim]"

def globalRangeMessage (realGlobalWorkSize : BitVec 64) (addressBits : BitVec 32) : String :=
  "Work parameters: global_work_size(" ++ toString realGlobalWorkSize.toNat ++
    ") is bigger then device address_bits(" ++ toString addressBits.toInt ++ ") can represent"

def groupSizeMessage (realLocalWorkSize deviceMax kernelMax : BitVec 64) : String :=
  "Work parameters: local_work_size(" ++ toString realLocalWorkSize.toNat ++
    ") is bigger then device(" ++ printInt deviceMax ++ ") or kernel(" ++ printInt kernelMax ++
    ") allows"

/-- `Kernel::check_work_parameters`; an exception here is one that `check_error` throws. -/
def checkWorkParameters (device : DeviceInfo) (maxWorkGroupSize : BitVec 64) (workDim : BitVec 32)
    (globalWorkSize : List (BitVec 64)) (localWorkSize : Option (List (BitVec 64))) :
    Except Failure Unit := do
  refuseIf (workDim < 1#32 ∨ 3#32 < workDim) (.runtimeError (workDimMessage workDim))
  refuseIf (64#32 ≤ device.addressBits) .undefinedShift
  let deviceWorkIdRange := 1#64 <<< device.addressBits
  let totals ← (List.range workDim.toNat).foldlM
    (addDimension device globalWorkSize localWorkSize) {}
  refuseIf (¬ totals.localDimsLteDeviceMax) (.runtimeError localDimsMessage)
  refuseIf (¬ totals.globalDimsDivisibleByLocalDims) (.runtimeError divisibleMessage)
  refuseIf (deviceWorkIdRange.slt totals.realGlobalWorkSize)
    (.runtimeError (globalRangeMessage totals.realGlobalWorkSize device.addressBits))
  refuseIf (device.maxWorkGroupSize < totals.realLocalWorkSize ∨
      maxWorkGroupSize < totals.realLocalWorkSize)
    (.runtimeError
      (groupSizeMessage totals.realLocalWorkSize device.maxWorkGroupSize maxWorkGroupSize))

end OpenClHash.Sizing
