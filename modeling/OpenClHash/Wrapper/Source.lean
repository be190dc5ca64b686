import Mathlib.Data.Fintype.Basic
import OpenClHash.Sizing.Source

/-!
Owns the embedding of `Context.cpp` and `Kernel.cpp`: the members of a `Context` with its
two fixed arrays, and each operation as a program that may leave by an exception and
keeps the state it reached. OpenCL answers through a `Driver`; every call is recorded
with the handles it passes.

A creation call that succeeds returns a new object and one that fails returns the null
handle. A command that succeeds also returns a new `cl_event`. What is printed, the device and
platform ids and the event lists are left out; the lookup of a device's type in the table that
`operator<<` prints from is not, since nothing bounds its index.
-/

namespace OpenClHash.Wrapper

open OpenClHash.Sizing

/-! ### What OpenCL is asked -/

/-- A stored handle: an object, or bits that no creation call returned. -/
inductive Handle where
  | raw (bits : Nat)
  | object (id : Nat)
deriving DecidableEq, Repr

namespace Handle

def null : Handle := .raw 0

/-- What `if (handle)` tests, negated. -/
def isNull (handle : Handle) : Bool := decide (handle = null)

end Handle

/-- The memory `arg_value` points to. -/
inductive ArgValue where
  | bytes (value : List (BitVec 8))
  | memObject (buffer : Handle)
deriving DecidableEq, Repr

/-- A call of the OpenCL library. -/
inductive ClCall where
  | getPlatformIDs
  | getPlatformInfo (param : String)
  | getDeviceIDs
  | getDeviceInfo (param : String)
  | createContext
  | createCommandQueue (context : Handle)
  | createBuffer (context : Handle) (flags size : BitVec 64)
  | createProgramWithSource (context : Handle) (source : List (BitVec 8))
  | buildProgram (program : Handle) (options : Option String)
  | getProgramBuildInfo (program : Handle)
  | createKernel (program : Handle) (name : String)
  | getKernelWorkGroupInfo (kernel : Handle)
  | setKernelArg (kernel : Handle) (index : Nat) (size : BitVec 64) (value : ArgValue)
  | enqueueNDRangeKernel (queue kernel : Handle) (workDim : BitVec 32)
      (globalWorkSize : List (BitVec 64)) (localWorkSize : Option (List (BitVec 64)))
  | enqueueReadBuffer (queue buffer : Handle) (blocking : Bool) (offset size : BitVec 64)
  | enqueueWriteBuffer (queue buffer : Handle) (blocking : Bool) (offset size : BitVec 64)
      (source : List (BitVec 8))
  | flush (queue : Handle)
  | finish (queue : Handle)
  | releaseMemObject (buffer : Handle)
  | releaseKernel (kernel : Handle)
  | releaseProgram (program : Handle)
  | releaseCommandQueue (queue : Handle)
  | releaseContext (context : Handle)
deriving DecidableEq, Repr

/-- The calls that are given `&finish_token`: they create a `cl_event` if they succeed. -/
def ClCall.finishes : ClCall → Bool
  | .enqueueNDRangeKernel _ _ _ _ _ | .enqueueReadBuffer _ _ _ _ _
  | .enqueueWriteBuffer _ _ _ _ _ _ => true
  | _ => false

/-- What a run leaves in its record. Besides the calls, the host buffer of the kernel
source, the array slots taken, `Kernel::init` and each start of the last part of
`_cleanup` are noted. -/
inductive Event where
  | call (call : ClCall) (status : BitVec 32) (result : Handle)
  | malloc
  | free
  | allocationTaken (slot : Fin 32)
  | kernelTaken (slot : Fin 32)
  | kernelInit (slot : Fin 32) (kernel program : Handle)
  | cleanup
deriving DecidableEq, Repr

/-- The call created a `cl_event`. -/
def Event.finishes : Event → Bool
  | .call made status _ => made.finishes && decide (status = 0#32)
  | _ => false

/-- The `cl_event`s that the calls of a record created; no call releases one. -/
def finishTokens (log : List Event) : Nat := log.countP Event.finishes

/-- The answers of OpenCL and of the file system, by the number of earlier events. -/
structure Driver where
  status : Nat → BitVec 32
  platformCount : Nat → BitVec 32
  deviceCount : Nat → BitVec 32
  deviceInfo : Nat → DeviceInfo
  kernelWorkGroupSize : Nat → BitVec 64
  file : Nat → String → Option (List (BitVec 8))
  readFails : Nat → Bool

/-! ### The members of a `Context` -/

/-- A `MemoryHandler`. -/
structure MemoryHandler where
  handle : Handle := .null
  size : BitVec 64 := 0#64
  released : Bool := false
deriving DecidableEq, Repr

/-- A `Kernel`; the fields besides `initialized` are read only after `init` wrote them. -/
structure Kernel where
  kernelId : Handle := .null
  programId : Handle := .null
  maxWorkGroupSize : BitVec 64 := 0#64
  argStackSize : Nat := 0
  initialized : Bool := false
deriving DecidableEq, Repr

/-- A `Context`, the number of objects OpenCL has created and the record, newest first. -/
structure State where
  initialized : Bool
  clcontext : Handle
  clcommandQueue : Handle
  device : DeviceInfo
  kernels : Fin 32 → Kernel
  kernelCount : Nat
  allocations : Fin 32 → MemoryHandler
  allocationCount : Nat
  objects : Nat
  log : List Event

/-- What the memory of the members held that the constructor leaves alone. -/
structure Garbage where
  clcontext : Nat
  clcommandQueue : Nat
  device : DeviceInfo

namespace State

/-- `Context::Context`. -/
def constructed (garbage : Garbage) : State where
  initialized := false
  clcontext := .raw garbage.clcontext
  clcommandQueue := .raw garbage.clcommandQueue
  device := garbage.device
  kernels := fun _ => {}
  kernelCount := 0
  allocations := fun _ => {}
  allocationCount := 0
  objects := 0
  log := []

def record (event : Event) (state : State) : State := { state with log := event :: state.log }

def setKernel (slot : Fin 32) (kernel : Kernel) (state : State) : State :=
  { state with kernels := Function.update state.kernels slot kernel }

def setAllocation (slot : Fin 32) (handler : MemoryHandler) (state : State) : State :=
  { state with allocations := Function.update state.allocations slot handler }

end State

/-- A wrapper operation. -/
abbrev Cl : Type → Type := EStateM Failure State

/-! ### Calls -/

section Operations

variable (driver : Driver)

/-- A call that creates no object. -/
def issue (call : ClCall) : Cl (BitVec 32) := do
  let state ← get
  let status := driver.status state.log.length
  set (state.record (.call call status .null))
  return status

/-- A creation call: the new object or null, and the status. -/
def create (call : ClCall) : Cl (Handle × BitVec 32) := do
  let state ← get
  let status := driver.status state.log.length
  let result := if status = 0#32 then .object state.objects else .null
  let objects := if status = 0#32 then state.objects + 1 else state.objects
  set { state.record (.call call status result) with objects := objects }
  return (result, status)

def note (event : Event) : Cl Unit := modify fun state => state.record event

/-- `array + index`, dereferenced. -/
def slotAt (index : Nat) : Cl (Fin 32) :=
  if inside : index < 32 then pure ⟨index, inside⟩ else throw .slotOutOfBounds

/-! ### Releasing -/

/-- `if (handle) call(handle)`. -/
def releaseHandle (call : Handle → ClCall) (handle : Handle) : Cl Unit := do
  if handle.isNull then
    pure ()
  else
    let _ ← issue driver (call handle)

/-- `MemoryHandler::release`. -/
def release (slot : Fin 32) : Cl Unit := do
  let handler := (← get).allocations slot
  if handler.released then
    pure ()
  else
    releaseHandle driver .releaseMemObject handler.handle
  modify fun state => state.setAllocation slot { handler with released := true }

/-- `Kernel::cleanup`. -/
def cleanupKernel (slot : Fin 32) : Cl Unit := do
  let kernel := (← get).kernels slot
  if kernel.initialized then
    modify fun state => state.setKernel slot { kernel with initialized := false }
    releaseHandle driver .releaseKernel kernel.kernelId
    releaseHandle driver .releaseProgram kernel.programId
  else
    pure ()

/-- The part of `_cleanup` after its two loops. -/
def releaseHandles : Cl Unit := do
  note .cleanup
  releaseHandle driver .releaseCommandQueue (← get).clcommandQueue
  releaseHandle driver .releaseContext (← get).clcontext

/-- `Context::_cleanup`. -/
def cleanup : Cl Unit := do
  let state ← get
  (List.range state.kernelCount).forM fun i => do
    let slot ← slotAt i
    cleanupKernel driver slot
  (List.range state.allocationCount).forM fun i => do
    let slot ← slotAt i
    release driver slot
  releaseHandles driver

/-- `Context::check_error` on a status. -/
def checkError (errCode : BitVec 32) (msg : String) : Cl Unit := do
  if errCode ≠ 0#32 then
    cleanup driver
    throw (.runtimeError msg)

/-- `Context::check_error` on a condition. -/
def check (condition : Bool) (msg : String) : Cl Unit :=
  checkError driver (if condition then 0#32 else BitVec.ofInt 32 (-100)) msg

/-! ### Platform and device queries -/

/-- Queries in a row; the statuses are or-ed. -/
def issueAll : List ClCall → Cl (BitVec 32)
  | [] => pure 0#32
  | call :: rest => do
      let status ← issue driver call
      let others ← issueAll rest
      return status ||| others

def deviceQueries : List ClCall :=
  [.getDeviceInfo "CL_DEVICE_GLOBAL_MEM_SIZE", .getDeviceInfo "CL_DEVICE_IMAGE_SUPPORT",
    .getDeviceInfo "CL_DEVICE_MAX_WORK_GROUP_SIZE", .getDeviceInfo "CL_DEVICE_ADDRESS_BITS",
    .getDeviceInfo "CL_DEVICE_MAX_WORK_ITEM_SIZES", .getDeviceInfo "CL_DEVICE_TYPE",
    .getDeviceInfo "CL_DEVICE_NAME"]

def platformQueries : List ClCall :=
  [.getPlatformInfo "CL_PLATFORM_NAME", .getPlatformInfo "CL_PLATFORM_VENDOR",
    .getPlatformInfo "CL_PLATFORM_VERSION"]

/-- `Context::device_info`; `store` writes the record that `info` refers to. -/
def deviceInfo (store : DeviceInfo → State → State) : Cl DeviceInfo := do
  let info := driver.deviceInfo (← get).log.length
  let status ← issueAll driver deviceQueries
  modify (store info)
  checkError driver status "Could not get device data"
  return info

/-- `Context::platform_info`; `devices` tells whether the caller passed a vector. -/
def platformInfo (devices : Bool) : Cl (List DeviceInfo) := do
  let status ← issueAll driver platformQueries
  checkError driver status "Could not get platform details"
  if devices then
    let deviceCount := driver.deviceCount (← get).log.length
    let status ← issue driver .getDeviceIDs
    checkError driver status "Could not get platform devices"
    let status ← issue driver .getDeviceIDs
    checkError driver status "Could not get device ids"
    (List.range deviceCount.toNat).mapM fun _ => deviceInfo driver fun _ state => state
  else
    return []

/-- `os << device`: `device_type_str` has nine entries. -/
def printDevice (device : DeviceInfo) : Cl Unit :=
  if device.type < 9#64 then pure () else throw .typeOutOfBounds

/-- `Context::display_opencl_info`. -/
def displayOpenclInfo : Cl Unit := do
  let platformCount := driver.platformCount (← get).log.length
  let status ← issue driver .getPlatformIDs
  checkError driver status "Could not get platform count"
  let status ← issue driver .getPlatformIDs
  checkError driver status "Could not get platform ids"
  (List.range platformCount.toNat).forM fun _ => do
    let devices ← platformInfo driver true
    devices.forM printDevice

/-! ### `Context::init` -/

/-- `init` up to `clCreateContext`. -/
def selectDevice : Cl Unit := do
  let status ← issue driver .getPlatformIDs
  checkError driver status "Error in clGetPlatformID"
  let _ ← platformInfo driver false
  let status ← issue driver .getDeviceIDs
  checkError driver status "Error in clGetDeviceIDs"
  let device ← deviceInfo driver fun info state => { state with device := info }
  printDevice device

/-- `member = clCreate…(…, &ciErr1)` and the check of its status. -/
def createInto (store : Handle → State → State) (call : ClCall) (failed : String) : Cl Unit := do
  let (handle, status) ← create driver call
  modify (store handle)
  checkError driver status failed

/-- `init` from `clCreateContext` on. -/
def createHandles : Cl Unit := do
  createInto driver (fun handle state => { state with clcontext := handle }) .createContext
    "Error in clCreateContext"
  createInto driver (fun handle state => { state with clcommandQueue := handle })
    (.createCommandQueue (← get).clcontext) "Error in clCreateCommandQueue"
  modify fun state => { state with initialized := true }

/-- `Context::init`. -/
def init : Cl Unit := do
  selectDevice driver
  createHandles driver

/-! ### Execution -/

/-- `Context::block`. -/
def block : Cl Unit := do
  let status ← issue driver (.flush (← get).clcommandQueue)
  checkError driver status "Error during command queue flush during Context::block()"
  let status ← issue driver (.finish (← get).clcommandQueue)
  checkError driver status "Error during clFinish during Context::block()"

/-- `Context::allocate`; the result points into `_allocations`. -/
def allocate (flags size : BitVec 64) : Cl (Fin 32) := do
  check driver (← get).initialized "Context was not initialized"
  check driver (decide ((← get).allocationCount < 32))
    "Wrapper hit allocations limit, increase MAX_ALLOCATIONS_COUNT"
  let slot ← slotAt (← get).allocationCount
  modify fun state => { state with allocationCount := state.allocationCount + 1 }
  note (.allocationTaken slot)
  createInto driver (fun handle state =>
      state.setAllocation slot { state.allocations slot with handle := handle, size := size })
    (.createBuffer (← get).clcontext flags size) "Error in clCreateBuffer"
  return slot

/-- `utils::load_file` with an empty preamble; null is `none`. An `fread` of no bytes fails. -/
def loadFile (path : String) : Cl (Option (List (BitVec 8))) := do
  match driver.file (← get).log.length path with
  | none => return none
  | some source =>
      note .malloc
      if source.length = 0 ∨ driver.readFails (← get).log.length then
        note .free
        return none
      else
        return some source

/-- `Kernel::init`. -/
def kernelInit (slot : Fin 32) (kernelId programId : Handle) (maxWorkGroupSize : BitVec 64) :
    Cl Unit := do
  if ((← get).kernels slot).initialized then
    cleanupKernel driver slot
  note (.kernelInit slot kernelId programId)
  modify fun state => state.setKernel slot {
    kernelId := kernelId
    programId := programId
    maxWorkGroupSize := maxWorkGroupSize
    argStackSize := 0
    initialized := true }

/-- `CL_BUILD_PROGRAM_FAILURE`. -/
def buildProgramFailure : BitVec 32 := BitVec.ofInt 32 (-11)

/-- The part of `create_kernel` that creates and builds the program. -/
def buildProgram (kernelSource : List (BitVec 8)) (cmpOpt : Option String) : Cl Handle := do
  let (programId, status) ← create driver
    (.createProgramWithSource (← get).clcontext kernelSource)
  checkError driver status "Error in clCreateProgramWithSource"
  note .free
  let status ← issue driver (.buildProgram programId cmpOpt)
  if status = buildProgramFailure then
    let _ ← issue driver (.getProgramBuildInfo programId)
  checkError driver status "Error in clBuildProgram"
  return programId

/-- `create_kernel` once it has taken a slot. -/
def fillKernel (slot : Fin 32) (filePath : String) (cmpOpt : Option String) (mainF : String) :
    Cl (Fin 32) := do
  let kernelSource ← loadFile driver filePath
  check driver (decide (0 < (kernelSource.getD []).length)) "Could not read file"
  let programId ← buildProgram driver (kernelSource.getD []) cmpOpt
  let (kernelId, status) ← create driver (.createKernel programId mainF)
  checkError driver status "Error in clCreateKernel"
  let maxWorkGroupSize := driver.kernelWorkGroupSize (← get).log.length
  let _ ← issue driver (.getKernelWorkGroupInfo kernelId)
  kernelInit driver slot kernelId programId maxWorkGroupSize
  return slot

/-- `Context::create_kernel`; the result points into `_kernels`. -/
def createKernel (filePath : String) (cmpOpt : Option String) (mainF : String) : Cl (Fin 32) := do
  check driver (← get).initialized "Context was not initialized"
  check driver (decide ((← get).kernelCount < 32))
    "Wrapper hit kernel limit, increase MAX_KERNEL_COUNT"
  let slot ← slotAt (← get).kernelCount
  modify fun state => { state with kernelCount := state.kernelCount + 1 }
  note (.kernelTaken slot)
  fillKernel driver slot filePath cmpOpt mainF

/-- What `read_buffer` and `write_buffer` have in common: two checks, the command on the
queue and the buffer, and its check. -/
def transfer (slot : Fin 32) (size : BitVec 64) (tooMuch failed : String)
    (command : Handle → Handle → ClCall) : Cl Unit := do
  check driver (← get).initialized "Context was not initialized"
  check driver (decide (size ≤ ((← get).allocations slot).size)) tooMuch
  let state ← get
  let status ← issue driver (command state.clcommandQueue (state.allocations slot).handle)
  checkError driver status failed

/-- `Context::read_buffer`. -/
def readBuffer (slot : Fin 32) (offset size : BitVec 64) (blocking : Bool) : Cl Unit :=
  transfer driver slot size "Tried to read more then is allocated" "Error in read buffer"
    fun queue buffer => .enqueueReadBuffer queue buffer blocking offset size

/-- `Context::read_buffer` of the whole buffer. -/
def readWhole (slot : Fin 32) (blocking : Bool) : Cl Unit := do
  readBuffer driver slot 0#64 ((← get).allocations slot).size blocking

/-- `Context::write_buffer`; `source` is the memory `src` points to. -/
def writeBuffer (slot : Fin 32) (offset size : BitVec 64) (source : List (BitVec 8))
    (blocking : Bool) : Cl Unit :=
  transfer driver slot size "Tried to write more then is allocated" "Error in write buffer"
    fun queue buffer => .enqueueWriteBuffer queue buffer blocking offset size source

/-- `Context::write_buffer` of the whole buffer. -/
def writeWhole (slot : Fin 32) (source : List (BitVec 8)) (blocking : Bool) : Cl Unit := do
  writeBuffer driver slot 0#64 ((← get).allocations slot).size source blocking

/-- `Context::zeros_float`. -/
def zerosFloat (slot : Fin 32) (blocking : Bool) : Cl Unit := do
  let len := ((← get).allocations slot).size / 4#64
  writeWhole driver slot (List.replicate (4 * len.toNat) 0#8) blocking

/-- `Kernel::push_arg`. -/
def pushArg (slot : Fin 32) (argSize : BitVec 64) (argValue : ArgValue) : Cl Unit := do
  let kernel := (← get).kernels slot
  let status ← issue driver (.setKernelArg kernel.kernelId kernel.argStackSize argSize argValue)
  checkError driver status "Could not push kernel argument"
  modify fun state => state.setKernel slot
    { state.kernels slot with argStackSize := (state.kernels slot).argStackSize + 1 }

/-- `Kernel::push_arg` of a buffer. -/
def pushBuffer (slot buffer : Fin 32) : Cl Unit := do
  pushArg driver slot 8#64 (.memObject ((← get).allocations buffer).handle)

/-- `Kernel::check_work_parameters` with the calls of `check_error` it ends in. -/
def checkWork (slot : Fin 32) (workDim : BitVec 32) (globalWorkSize : List (BitVec 64))
    (localWorkSize : Option (List (BitVec 64))) : Cl Unit := do
  let state ← get
  match checkWorkParameters state.device (state.kernels slot).maxWorkGroupSize workDim
    globalWorkSize localWorkSize with
  | .ok () => pure ()
  | .error (.runtimeError msg) => check driver false msg
  | .error failure => throw failure

/-- `Kernel::execute`. -/
def execute (slot : Fin 32) (workDim : BitVec 32) (globalWorkSize : List (BitVec 64))
    (localWorkSize : Option (List (BitVec 64))) : Cl Unit := do
  check driver (← get).initialized "Context was not initialized"
  checkWork driver slot workDim globalWorkSize localWorkSize
  modify fun state => state.setKernel slot { state.kernels slot with argStackSize := 0 }
  let state ← get
  let status ← issue driver (.enqueueNDRangeKernel state.clcommandQueue
    (state.kernels slot).kernelId workDim globalWorkSize localWorkSize)
  checkError driver status "Error in clEnqueueNDRangeKernel"

end Operations

end OpenClHash.Wrapper
