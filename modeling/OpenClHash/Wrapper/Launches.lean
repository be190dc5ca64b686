import OpenClHash.Sizing.Products
import OpenClHash.Wrapper.Session

/-!
Owns what `execute` makes of the verdict of `check_work_parameters`: on a device of 64
address bits it never gets to the enqueue, and a zero local size is divided by before
anything refuses it.
-/

namespace OpenClHash.Wrapper

open OpenClHash.Sizing

/-! ### The first call of a run -/

/-- The record at the end of a run. -/
def endLog {α : Type} : EStateM.Result Failure State α → List Event
  | .ok _ after => after.log
  | .error _ after => after.log

/-- The run from `state` begins with this call. -/
def IssuesFirst (call : ClCall) (state : State) {α : Type}
    (result : EStateM.Result Failure State α) : Prop :=
  ∃ status, (.call call status .null :: state.log) <:+ endLog result

/-! ### Devices of 64 address bits -/

section Launch

variable (driver : Driver) (state : State) (slot : Fin 32) (workDim : BitVec 32)
  (globalWorkSize : List (BitVec 64)) (localWorkSize : Option (List (BitVec 64)))

/-- What is promised of a valid launch: the check passes and the kernel is enqueued. -/
def Launches : Prop :=
  checkWorkParameters state.device (state.kernels slot).maxWorkGroupSize workDim globalWorkSize
      localWorkSize = .ok () ∧
    IssuesFirst (.enqueueNDRangeKernel state.clcommandQueue (state.kernels slot).kernelId workDim
      globalWorkSize localWorkSize) state
      ((execute driver slot workDim globalWorkSize localWorkSize).run state)

variable {state slot workDim}

/-- Whatever its sizes, the launch ends in the shift. -/
theorem execute_undefinedShift (inBounds : state.InBounds) (initialized : state.initialized = true)
    (wide : state.device.addressBits = 64#32) (positive : 1 ≤ workDim.toNat)
    (dimensions : workDim.toNat ≤ 3) :
    ¬ Launches driver state slot workDim globalWorkSize localWorkSize ∧
      (execute driver slot workDim globalWorkSize localWorkSize).run state =
        .error .undefinedShift state := by
  have verdict : checkWorkParameters state.device (state.kernels slot).maxWorkGroupSize workDim
      globalWorkSize localWorkSize = .error .undefinedShift :=
    checkWorkParameters_undefinedShift positive dimensions (wide ▸ BitVec.le_refl _)
  constructor
  · intro launches
    have passes := launches.1
    rw [verdict] at passes
    cases passes
  · rw [run_execute driver inBounds, if_pos initialized, verdict]

end Launch

/-- A device with the limits of `squareDevice` and 64 address bits. -/
def wideDevice : DeviceInfo := { squareDevice 1024#64 with addressBits := 64#32 }

/-- `init` and `create_kernel`, both of them answered. -/
theorem kernelSession_ran (info : DeviceInfo) (listed : info ∈ [squareDevice 1024#64, wideDevice]) :
    ((Session.start (.filled 0)).run (.succeeding info)
        [.init, .createKernel "open_cl_kernel.cl" none "main"]).map (fun session =>
          (session.context.initialized, session.context.device,
            (session.context.kernels 0).maxWorkGroupSize)) = some (true, info, 1024#64) := by
  revert info
  decide +kernel

/-- The kernel session on a device of this list. -/
theorem exists_kernelSession {info : DeviceInfo}
    (listed : info ∈ [squareDevice 1024#64, wideDevice]) :
    ∃ session : Session, (Session.start (.filled 0)).run (.succeeding info)
        [.init, .createKernel "open_cl_kernel.cl" none "main"] = some session ∧
      session.context.initialized = true ∧ session.context.device = info ∧
      (session.context.kernels 0).maxWorkGroupSize = 1024#64 := by
  obtain ⟨session, ran, known⟩ := Option.map_eq_some_iff.mp (kernelSession_ran info listed)
  simp only [Prod.mk.injEq] at known
  exact ⟨session, ran, known⟩

theorem wide_device_refused :
    ¬ ∀ (driver : Driver) (garbage : Garbage) (ops : List Op) (session : Session) (slot : Fin 32)
      (workDim : BitVec 32) (globalWorkSize : List (BitVec 64))
      (localWorkSize : Option (List (BitVec 64))),
      (Session.start garbage).run driver ops = some session →
      session.context.initialized = true → session.context.device.addressBits = 64#32 →
      1 ≤ workDim.toNat → workDim.toNat ≤ 3 → workDim.toNat ≤ globalWorkSize.length →
      NonzeroSizes localWorkSize workDim.toNat →
      sizeProduct globalWorkSize workDim.toNat < 2 ^ 63 →
      DimensionsPass session.context.device globalWorkSize localWorkSize workDim.toNat →
      groupProduct localWorkSize workDim.toNat ≤ session.context.device.maxWorkGroupSize.toNat →
      groupProduct localWorkSize workDim.toNat ≤
        (session.context.kernels slot).maxWorkGroupSize.toNat →
      Launches driver session.context slot workDim globalWorkSize localWorkSize := by
  intro launches
  have listed : wideDevice ∈ [squareDevice 1024#64, wideDevice] :=
    List.mem_cons_of_mem _ List.mem_cons_self
  obtain ⟨session, ran, initialized, device, kernel⟩ := exists_kernelSession listed
  have nonzero : NonzeroSizes (some [64#64]) 1 := by
    intro sizes same
    cases same
    decide
  have pass : DimensionsPass wideDevice [1024#64] (some [64#64]) 1 := by
    intro sizes same
    cases same
    decide
  have verdict : checkWorkParameters wideDevice 1024#64 1#32 [1024#64] (some [64#64]) =
      .error .undefinedShift :=
    checkWorkParameters_undefinedShift (by decide) (by decide) (by decide)
  have launched := launches _ _ _ session 0 1#32 [1024#64] (some [64#64]) ran initialized
    (device ▸ rfl) (by decide) (by decide) (by decide) nonzero (by decide) (device ▸ pass)
    (device ▸ by decide) (kernel ▸ by decide)
  rw [Launches, device, kernel, verdict] at launched
  cases launched.1

/-- One dimension of 1024 work items in groups of 64. -/
theorem execute_undefinedShift_one :
    ∃ state, ¬ Launches (.succeeding wideDevice) state 0 1#32 [1024#64] (some [64#64]) ∧
      (execute (.succeeding wideDevice) 0 1#32 [1024#64] (some [64#64])).run state =
        .error .undefinedShift state := by
  have listed : wideDevice ∈ [squareDevice 1024#64, wideDevice] :=
    List.mem_cons_of_mem _ List.mem_cons_self
  obtain ⟨session, ran, initialized, device, _⟩ := exists_kernelSession listed
  have inBounds := (Session.run_valid (Session.valid_start _) ran).context.toInBounds
  exact ⟨session.context, execute_undefinedShift _ _ _ inBounds initialized (device ▸ rfl)
    (by decide) (by decide)⟩

/-! ### Zero local sizes -/

section Zeros

variable (driver : Driver) (state : State) (slot : Fin 32) (workDim : BitVec 32)
  (globalWorkSize localWorkSize : List (BitVec 64))

/-- The check divides by nothing that is zero, and refuses a zero local size like any other
invalid one: with a teardown and an exception. -/
def RefusesZeros : Prop :=
  (∀ after, (checkWork driver slot workDim globalWorkSize (some localWorkSize)).run state ≠
      .error .divisionByZero after) ∧
    ((∃ i < workDim.toNat, localWorkSize.getD i 0#64 = 0#64) →
      ∃ msg, (checkWork driver slot workDim globalWorkSize (some localWorkSize)).run state =
        .error (.runtimeError msg) (state.tornDown driver))

variable {state slot workDim globalWorkSize localWorkSize}

/-- With a zero local size the check leaves by a division or, before it, by the shift. -/
theorem checkWork_zero (inBounds : state.InBounds) (positive : 1 ≤ workDim.toNat)
    (dimensions : workDim.toNat ≤ 3) (globalLength : workDim.toNat ≤ globalWorkSize.length)
    (localLength : workDim.toNat ≤ localWorkSize.length)
    (zero : ∃ i < workDim.toNat, localWorkSize.getD i 0#64 = 0#64) :
    (checkWork driver slot workDim globalWorkSize (some localWorkSize)).run state =
      .error (if 64#32 ≤ state.device.addressBits then .undefinedShift else .divisionByZero)
        state := by
  rw [run_checkWork driver inBounds]
  by_cases wide : 64#32 ≤ state.device.addressBits
  · rw [if_pos wide, checkWorkParameters_undefinedShift positive dimensions wide]
  · rw [if_neg wide, checkWorkParameters_eq positive dimensions, refuseIf, if_neg wide,
      addDimensions_zero state.device dimensions globalLength localLength zero]
    rfl

theorem checkWork_safe_iff (inBounds : state.InBounds) (positive : 1 ≤ workDim.toNat)
    (dimensions : workDim.toNat ≤ 3) (globalLength : workDim.toNat ≤ globalWorkSize.length)
    (localLength : workDim.toNat ≤ localWorkSize.length) :
    RefusesZeros driver state slot workDim globalWorkSize localWorkSize ↔
      ∀ i < workDim.toNat, localWorkSize.getD i 0#64 ≠ 0#64 := by
  constructor
  · intro refuses i below isZero
    obtain ⟨msg, thrown⟩ := refuses.2 ⟨i, below, isZero⟩
    rw [checkWork_zero driver inBounds positive dimensions globalLength localLength
      ⟨i, below, isZero⟩] at thrown
    split at thrown
    · cases thrown
    · cases thrown
  · intro entries
    have nonzero : NonzeroSizes (some localWorkSize) workDim.toNat := by
      intro sizes same
      cases same
      exact ⟨localLength, entries⟩
    constructor
    · intro after
      rw [run_checkWork driver inBounds]
      by_cases wide : 64#32 ≤ state.device.addressBits
      · rw [checkWorkParameters_undefinedShift positive dimensions wide]
        simp
      · have either := returnsOrThrows_checkWorkParameters
          (state.kernels slot).maxWorkGroupSize (BitVec.not_le.mp wide) positive dimensions
          globalLength nonzero
        rcases either with returned | ⟨message, thrown⟩
        · rw [returned]
          simp
        · rw [thrown]
          simp
    · intro someZero
      rcases someZero with ⟨i, below, isZero⟩
      exact absurd isZero (entries i below)

theorem zero_local_size_divides :
    ¬ ∀ (driver : Driver) (garbage : Garbage) (ops : List Op) (session : Session) (slot : Fin 32)
      (workDim : BitVec 32) (globalWorkSize localWorkSize : List (BitVec 64)),
      (Session.start garbage).run driver ops = some session →
      1 ≤ workDim.toNat → workDim.toNat ≤ 3 → workDim.toNat ≤ globalWorkSize.length →
      workDim.toNat ≤ localWorkSize.length →
      RefusesZeros driver session.context slot workDim globalWorkSize localWorkSize := by
  intro refuses
  have listed : squareDevice 1024#64 ∈ [squareDevice 1024#64, wideDevice] := List.mem_cons_self
  obtain ⟨session, ran, _, device, _⟩ := exists_kernelSession listed
  have inBounds := (Session.run_valid (Session.valid_start _) ran).context.toInBounds
  obtain ⟨never, _⟩ := refuses _ _ _ session 0 1#32 [1024#64] [0#64] ran (by decide) (by decide)
    (by decide) (by decide)
  apply never session.context
  rw [checkWork_zero _ inBounds (by decide) (by decide) (by decide) (by decide) ⟨0, by decide, rfl⟩,
    device]
  rfl

theorem checkWork_safe_one :
    ∃ state, RefusesZeros (.succeeding (squareDevice 1024#64)) state 0 1#32 [1024#64] [64#64] := by
  refine ⟨.constructed (.filled 0), ?_⟩
  exact (checkWork_safe_iff _ (sound_constructed _).toInBounds (by decide) (by decide) (by decide)
    (by decide)).mpr (by decide)

end Zeros

end OpenClHash.Wrapper
