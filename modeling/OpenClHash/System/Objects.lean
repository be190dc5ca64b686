import OpenClHash.Device.Runs
import OpenClHash.Host.Arguments
import OpenClHash.Library.Regions
import OpenClHash.Wrapper.Zeros

/-!
Owns what OpenCL does with the calls in a record: the bytes of the memory objects, the
kernels that programs were built into, and a launch of the kernel on the buffers of its
arguments. The commands of a queue take effect in the order of the record.

A call that fails does nothing. A record has no meaning if a call succeeds that OpenCL has to
refuse, if a launch is not one of the kernel in one dimension, or if one never completes.
-/

namespace OpenClHash.System

open OpenClHash.Kernel OpenClHash.Device OpenClHash.Host OpenClHash.Wrapper
open OpenClHash.Library OpenClHash.Library.Regions

/-! ### Objects -/

/-- The bytes of a memory object. -/
structure Buffer where
  size : Nat
  bytes : Nat → BitVec 8

namespace Buffer

/-- A range of the buffer, if the buffer has it. -/
def read (region : Region) (buffer : Buffer) : Option (List (BitVec 8)) :=
  if region.start + region.length ≤ buffer.size then some (load buffer.bytes region) else none

def write (store : Store (BitVec 8)) (buffer : Buffer) : Option Buffer :=
  if store.start + store.bytes.length ≤ buffer.size then
    some { buffer with bytes := store.apply buffer.bytes }
  else none

/-- All bytes of the buffer. -/
def contents (buffer : Buffer) : List (BitVec 8) := load buffer.bytes ⟨0, buffer.size⟩

end Buffer

/-- The objects of a context by their handles, and how many kernels were launched. A kernel is
known by the `LETTER_COUNT` it was compiled with. -/
structure Objects where
  buffers : Handle → Option Buffer := fun _ => none
  sources : Handle → Option (List (BitVec 8)) := fun _ => none
  builds : Handle → Option (Option String) := fun _ => none
  kernels : Handle → Option Nat := fun _ => none
  launches : Nat := 0

/-- What the implementation of OpenCL and the machine decide: the bytes of a new memory object, by
the number of earlier events; the `LETTER_COUNT` for which a source with these options has the
kernel of `open_cl_kernel.cl` under this name; the order in which the work items of a launch run;
and, for a write by the number of earlier events, whether its source outlives a call that does
not wait, and what is found in the memory of the host where the source is not. -/
structure Platform where
  fresh : Nat → Nat → BitVec 8
  compile : List (BitVec 8) → Option String → String → Option Nat
  schedule : Nat → List Nat
  stays : Nat → Bool
  elsewhere : Nat → Nat → BitVec 8

/-! ### A launch -/

/-- A byte of a `char` array. -/
def charOf (byte : BitVec 8) : Char := Char.ofNat byte.toNat

def byteOf (character : Char) : BitVec 8 := BitVec.ofNat 8 character.toNat

instance (letterCount : Nat) (args : Arguments) : Decidable (Fits letterCount args) :=
  decidable_of_iff
    (letterCount < 2 ^ 31 ∧
      args.lettersFromGlobalId.toNat + args.lettersToIterOver.toNat ≤ letterCount)
    ⟨fun both => ⟨both.1, both.2⟩, fun fits => ⟨fits.isInt, fits.split⟩⟩

/-- A launch of `workItems` work items with these arguments. -/
def launchOf (letterCount : Nat) (args : Arguments) (workItems : Nat) :
    Option (Launch letterCount args.targetHash) :=
  if fits : 0 < workItems ∧ Fits letterCount args then
    some {
      lettersFromGlobalId := args.lettersFromGlobalId
      cpuIterI := args.cpuIterI
      lettersToIterOver := args.lettersToIterOver
      workItems := workItems
      nonempty := fits.1
      fits := fits.2 }
  else none

/-- The arguments that OpenCL holds for the six parameters of the kernel. -/
def heldArguments (kernel : Handle) (log : List Event) : Option (List ArgValue) :=
  (List.range 6).mapM fun index => Rounds.held kernel index (settings log)

namespace Objects

/-- The two buffers of the arguments as the work items see them. -/
def shared (parameters : Parameters) (objects : Objects) : Option Memory := do
  let target ← objects.buffers parameters.target
  let flag ← objects.buffers parameters.foundFlag
  let foundFlag ← flag.read ⟨0, 4⟩
  return { foundFlag := readInt foundFlag, target := target.contents.map charOf }

/-- The bytes that the work items left in the two buffers. -/
def share (parameters : Parameters) (memory : Memory) (objects : Objects) : Option Objects := do
  let target ← objects.buffers parameters.target
  let flag ← objects.buffers parameters.foundFlag
  let written ← target.write ⟨0, memory.target.map byteOf⟩
  let raised ← flag.write ⟨0, LittleEndian.bytes 4 memory.foundFlag⟩
  return { objects with
    buffers := Function.update
      (Function.update objects.buffers parameters.target (some written))
      parameters.foundFlag (some raised) }

/-- One buffer cannot serve as both. -/
def launch (letterCount : Nat) (parameters : Parameters) (workItems : Nat) (schedule : List Nat)
    (objects : Objects) : Option Objects := do
  let launch ← launchOf letterCount parameters.args workItems
  if parameters.target = parameters.foundFlag then
    none
  else
    let memory ← objects.shared parameters
    let after ← launch.run schedule memory
    let objects ← objects.share parameters after
    return { objects with launches := objects.launches + 1 }

end Objects

/-! ### The record -/

namespace Platform

variable (platform : Platform)

/-- The source of the write after `earlier` events is there when it is copied. -/
def lives (earlier : Nat) (blocking : Bool) : Bool := blocking || platform.stays earlier

/-- The bytes that the write after `earlier` events copies. -/
def copied (earlier : Nat) (blocking : Bool) (size : BitVec 64) (source : List (BitVec 8)) :
    List (BitVec 8) :=
  (List.range size.toNat).map
    (hostMemory source (platform.lives earlier blocking) (platform.elsewhere earlier))

/-- What a successful call does that created `result`, after the events of `older`. -/
def perform (older : List Event) (call : ClCall) (result : Handle) (objects : Objects) :
    Option Objects :=
  match call with
  | .createBuffer _ _ size =>
      some { objects with
        buffers := Function.update objects.buffers result
          (some ⟨size.toNat, platform.fresh older.length⟩) }
  | .createProgramWithSource _ source =>
      some { objects with sources := Function.update objects.sources result (some source) }
  | .buildProgram program options =>
      some { objects with builds := Function.update objects.builds program (some options) }
  | .createKernel program name => do
      let source ← objects.sources program
      let options ← objects.builds program
      return { objects with
        kernels := Function.update objects.kernels result
          (platform.compile source options name) }
  | .setKernelArg _ _ _ (.memObject buffer) => do
      let _ ← objects.buffers buffer
      return objects
  | .enqueueReadBuffer _ buffer _ offset size => do
      let stored ← objects.buffers buffer
      let _ ← stored.read ⟨offset.toNat, size.toNat⟩
      return objects
  | .enqueueWriteBuffer _ buffer blocking offset size source => do
      let stored ← objects.buffers buffer
      let copied := platform.copied older.length blocking size source
      let written ← stored.write ⟨offset.toNat, copied⟩
      return { objects with buffers := Function.update objects.buffers buffer (some written) }
  | .enqueueNDRangeKernel _ kernel _ [workItems] _ => do
      let letterCount ← objects.kernels kernel
      let arguments ← heldArguments kernel older
      let parameters ← Parameters.read arguments
      objects.launch letterCount parameters workItems.toNat (platform.schedule objects.launches)
  | .enqueueNDRangeKernel _ _ _ _ _ => none
  | .releaseMemObject buffer =>
      some { objects with buffers := Function.update objects.buffers buffer none }
  | _ => some objects

def happen (older : List Event) (event : Event) (objects : Objects) : Option Objects :=
  match event with
  | .call call status result =>
      if status = 0#32 then platform.perform older call result objects else some objects
  | _ => some objects

/-- The objects after a record, newest event first. -/
def after : List Event → Option Objects
  | [] => some {}
  | event :: older => (after older).bind (platform.happen older event)

end Platform

/-! ### Buffers -/

section Buffers

variable {buffer : Buffer} {store : Store (BitVec 8)}

@[simp] theorem contents_length (buffer : Buffer) : buffer.contents.length = buffer.size := by
  simp [Buffer.contents, Regions.load]

theorem read_all {size : Nat} (whole : size = buffer.size) :
    buffer.read ⟨0, size⟩ = some buffer.contents := by
  rw [Buffer.read, whole, if_pos (Nat.le_of_eq (Nat.zero_add _)), Buffer.contents]

/-- Writing all of a buffer replaces its contents. -/
theorem write_all {bytes : List (BitVec 8)} (whole : bytes.length = buffer.size) :
    ∃ written, buffer.write ⟨0, bytes⟩ = some written ∧ written.contents = bytes ∧
      written.size = buffer.size := by
  refine ⟨_, if_pos (Nat.le_of_eq (by rw [Nat.zero_add, whole])), ?_, rfl⟩
  show load _ ⟨0, buffer.size⟩ = bytes
  rw [← whole]
  exact load_apply buffer.bytes ⟨0, bytes⟩

theorem charOf_byteOf {character : Char} (small : character.toNat < 256) :
    charOf (byteOf character) = character := by
  rw [charOf, byteOf, BitVec.toNat_ofNat, Nat.mod_eq_of_lt small, Char.ofNat_toNat]

theorem map_charOf_byteOf {text : List Char} (small : ∀ character ∈ text, character.toNat < 256) :
    (text.map byteOf).map charOf = text := by
  rw [List.map_map]
  exact (List.map_congr_left fun character member =>
    charOf_byteOf (small character member)).trans (List.map_id text)

theorem readInt_bytes (value : BitVec 32) : readInt (LittleEndian.bytes 4 value) = value := by
  have read : readInt (LittleEndian.bytes 4 value) = value.setWidth 32 :=
    LittleEndian.read_bytes (by decide) value
  rw [read, BitVec.setWidth_eq]

/-- A write whose source is there copies it. -/
theorem copied_eq {platform : Platform} {earlier : Nat} {blocking : Bool} {size : BitVec 64}
    {source : List (BitVec 8)} (lives : platform.lives earlier blocking = true)
    (within : size.toNat ≤ source.length) :
    platform.copied earlier blocking size source = source.take size.toNat := by
  unfold Platform.copied hostMemory
  rw [lives]
  apply List.ext_getElem
  · simpa using within
  · intro index below _
    have inside : index < source.length := by
      rw [List.length_map, List.length_range] at below
      exact below.trans_le within
    simp [List.getElem?_eq_getElem inside]

end Buffers

/-! ### The shared memory of a launch -/

/-- The two buffers hold the bytes of this memory. -/
structure Holds (target foundFlag : Handle) (memory : Memory) (objects : Objects) : Prop where
  target : ∃ buffer, objects.buffers target = some buffer ∧
    buffer.contents = memory.target.map byteOf
  foundFlag : ∃ buffer, objects.buffers foundFlag = some buffer ∧
    buffer.contents = LittleEndian.bytes 4 memory.foundFlag

section Launches

variable {parameters : Parameters} {memory later : Memory} {objects : Objects}

theorem shared_of_holds (holds : Holds parameters.target parameters.foundFlag memory objects)
    (small : ∀ character ∈ memory.target, character.toNat < 256) :
    objects.shared parameters = some memory := by
  obtain ⟨target, targetStored, targetBytes⟩ := holds.target
  obtain ⟨flag, flagStored, flagBytes⟩ := holds.foundFlag
  have size : 4 = flag.size := by rw [← contents_length, flagBytes, LittleEndian.bytes_length]
  unfold Objects.shared
  rw [targetStored, flagStored]
  simp only [Option.bind_eq_bind, Option.bind_some, read_all size, flagBytes, targetBytes,
    readInt_bytes, map_charOf_byteOf small]
  rfl

/-- What the work items left is what the buffers hold. -/
theorem share_holds (holds : Holds parameters.target parameters.foundFlag memory objects)
    (apart : parameters.target ≠ parameters.foundFlag)
    (length : later.target.length = memory.target.length) :
    ∃ next, objects.share parameters later = some next ∧
      Holds parameters.target parameters.foundFlag later next ∧
      next.kernels = objects.kernels ∧ next.launches = objects.launches := by
  obtain ⟨target, targetStored, targetBytes⟩ := holds.target
  obtain ⟨flag, flagStored, flagBytes⟩ := holds.foundFlag
  have targetSize : (later.target.map byteOf).length = target.size := by
    rw [← contents_length, targetBytes, List.length_map, List.length_map, length]
  have flagSize : (LittleEndian.bytes 4 later.foundFlag).length = flag.size := by
    rw [← contents_length, flagBytes, LittleEndian.bytes_length, LittleEndian.bytes_length]
  obtain ⟨written, wrote, writtenBytes, _⟩ := write_all targetSize
  obtain ⟨raised, rose, raisedBytes, _⟩ := write_all flagSize
  unfold Objects.share
  rw [targetStored, flagStored]
  simp only [Option.bind_eq_bind, Option.bind_some, wrote, rose]
  refine ⟨_, rfl, ⟨⟨written, ?_, writtenBytes⟩, ⟨raised, ?_, raisedBytes⟩⟩, rfl, rfl⟩
  · show Function.update (Function.update objects.buffers _ _) _ _ parameters.target = _
    rw [Function.update_of_ne apart, Function.update_self]
  · exact Function.update_self ..

theorem launch_holds {letterCount workItems : Nat} {schedule : List Nat} {args : Arguments}
    {target foundFlag : Handle} {launch : Launch letterCount args.targetHash}
    (holds : Holds target foundFlag memory objects) (apart : target ≠ foundFlag)
    (small : ∀ character ∈ memory.target, character.toNat < 256)
    (enqueued : launchOf letterCount args workItems = some launch)
    (ran : launch.run schedule memory = some later)
    (length : later.target.length = memory.target.length) :
    ∃ next, objects.launch letterCount ⟨target, foundFlag, args⟩ workItems schedule = some next ∧
      Holds target foundFlag later next ∧ next.kernels = objects.kernels ∧
      next.launches = objects.launches + 1 := by
  let parameters : Parameters := ⟨target, foundFlag, args⟩
  have shared : objects.shared parameters = some memory := shared_of_holds holds small
  obtain ⟨next, written, laterHolds, kernels, launches⟩ : ∃ next,
      objects.share parameters later = some next ∧ _ := share_holds holds apart length
  unfold Objects.launch
  rw [enqueued]
  simp only [Option.bind_eq_bind, Option.bind_some, if_neg apart]
  rw [shared, Option.bind_some, ran, Option.bind_some, written]
  exact ⟨_, rfl, ⟨laterHolds.target, laterHolds.foundFlag⟩, kernels, congrArg (· + 1) launches⟩

end Launches

/-! ### Records -/

section Records

variable {platform : Platform} {older : List Event} {event : Event} {objects next : Objects}

theorem after_cons (known : platform.after older = some objects)
    (happens : platform.happen older event objects = some next) :
    platform.after (event :: older) = some next := by
  rw [Platform.after, known, Option.bind_some, happens]

/-- A call that, if it succeeds, leaves the objects as they are. -/
theorem after_call {call : ClCall} {status : BitVec 32} {result : Handle}
    (known : platform.after older = some objects)
    (performs : platform.perform older call result objects = some objects) :
    platform.after (.call call status result :: older) = some objects := by
  apply after_cons known
  show (if status = 0#32 then platform.perform older call result objects else some objects) = _
  by_cases success : status = 0#32
  · rw [if_pos success, performs]
  · rw [if_neg success]

theorem after_succeeded {call : ClCall} {result : Handle}
    (known : platform.after older = some objects)
    (performs : platform.perform older call result objects = some next) :
    platform.after (.call call 0#32 result :: older) = some next :=
  after_cons known performs

theorem after_of_quiet {state later : Wrapper.State}
    (path : Relation.ReflTransGen Quiet state later)
    (known : platform.after state.log = some objects) :
    platform.after later.log = some objects := by
  induction path with
  | refl => exact known
  | tail _ quiet inductionHypothesis =>
      cases quiet with
      | query call query status =>
          apply after_call inductionHypothesis
          cases call <;> first | rfl | exact query.elim
      | device info => exact inductionHypothesis

end Records

end OpenClHash.System
