import OpenClHash.System.Program

/-!
Owns the context of `main` between its calls: the two buffers hold the shared memory of the
launches so far, the kernel is the one that `LETTER_COUNT` was compiled into, and some
arguments wait for the next launch. Each call of an iteration either leaves the context so or
raises because OpenCL failed or the launch was refused.
-/

namespace OpenClHash.System

open OpenClHash.Kernel OpenClHash.Device OpenClHash.Host OpenClHash.Sizing OpenClHash.Wrapper
open OpenClHash.Library OpenClHash.Library.Fallible

section Ready

variable (platform : Platform) (split : Split) (targetHash : BitVec 64) (pointers : Pointers)
  (verdict : Except Failure Unit)

/-- The buffers hold `memory`, `launches` kernels were launched, `pushed` was pushed since, and
`verdict` is what a launch is told. -/
structure Ready (memory : Memory) (launches : Nat) (pushed : List Pushed) (state : Wrapper.State) :
    Prop where
  inBounds : state.InBounds
  initialized : state.initialized = true
  targetSize : (state.allocations pointers.gpuBuf).size.toNat = memory.target.length
  flagSize : (state.allocations pointers.gpuFlag).size = 4#64
  apart : (state.allocations pointers.gpuBuf).handle ≠ (state.allocations pointers.gpuFlag).handle
  verdict : launchCheck state.device (state.kernels pointers.kernel).maxWorkGroupSize split
    targetHash = verdict
  stack : (state.kernels pointers.kernel).argStackSize = pushed.length
  held : ∀ index value, pushed[index]? = some value →
    Rounds.held (state.kernels pointers.kernel).kernelId index (settings state.log) =
      some (value.value state)
  objects : ∃ objects, platform.after state.log = some objects ∧
    objects.kernels (state.kernels pointers.kernel).kernelId = some split.letterCount ∧
    objects.launches = launches ∧
    Holds (state.allocations pointers.gpuBuf).handle (state.allocations pointers.gpuFlag).handle
      memory objects

variable {platform split targetHash pointers verdict} {driver : Driver} {memory : Memory}
  {launches : Nat} {pushed : List Pushed} {state : Wrapper.State}

/-! ### Arguments -/

/-- An operation that pushes bytes or one of the two buffers to the kernel. -/
def Op.IsPush (pointers : Pointers) : Op → Prop
  | .pushArg kernel _ _ => kernel = pointers.kernel
  | .pushBuffer kernel buffer =>
      kernel = pointers.kernel ∧ (buffer = pointers.gpuBuf ∨ buffer = pointers.gpuFlag)
  | _ => False

/-- OpenCL knows the argument, if it is a buffer. -/
def ArgValue.Valid (objects : Objects) : ArgValue → Prop
  | .bytes _ => True
  | .memObject buffer => ∃ stored, objects.buffers buffer = some stored

theorem perform_setKernelArg {objects : Objects} {argValue : ArgValue}
    (valid : ArgValue.Valid objects argValue) (older : List Event) (kernel : Handle) (index : Nat)
    (argSize : BitVec 64) (result : Handle) :
    platform.perform older (.setKernelArg kernel index argSize argValue) result objects =
      some objects := by
  cases argValue with
  | bytes value => rfl
  | memObject buffer =>
      obtain ⟨stored, present⟩ := valid
      simp only [Platform.perform, present]
      rfl

theorem ready_argument (ready : Ready platform split targetHash pointers verdict memory launches
    pushed state) (argSize : BitVec 64) (argValue : ArgValue) (value : Pushed)
    (copied : argValue.copied argSize = value.value state)
    (valid : ∀ objects, Holds (state.allocations pointers.gpuBuf).handle
      (state.allocations pointers.gpuFlag).handle memory objects →
      ArgValue.Valid objects argValue) :
    Ensures
      (fun _ next => Ready platform split targetHash pointers verdict memory launches
        (pushed ++ [value]) next)
      (fun _ _ => ¬ driver.NeverFails)
      (Wrapper.pushArg driver pointers.kernel argSize argValue) state := by
  have ran := run_pushArg driver ready.inBounds pointers.kernel argSize argValue
  dsimp only at ran
  by_cases success : driver.status state.log.length = 0#32
  · rw [if_pos success] at ran
    apply ensures_of_ok ran
    let kernel := state.kernels pointers.kernel
    let next := (state.issued driver
      (.setKernelArg kernel.kernelId kernel.argStackSize argSize argValue)).setKernel
        pointers.kernel { kernel with argStackSize := kernel.argStackSize + 1 }
    show Ready _ _ _ _ _ _ _ _ next
    have stored : next.kernels pointers.kernel =
        { kernel with argStackSize := kernel.argStackSize + 1 } := Function.update_self ..
    have log : settings next.log =
        .set kernel.kernelId pushed.length (value.value state) :: settings state.log := by
      refine List.filterMap_cons_some ?_
      rw [← ready.stack, ← copied]
      exact if_pos success
    constructor
    · exact ⟨ready.inBounds.1, ready.inBounds.2⟩
    · exact ready.initialized
    · exact ready.targetSize
    · exact ready.flagSize
    · exact ready.apart
    · rw [stored]
      exact ready.verdict
    · rw [stored, List.length_append]
      exact congrArg (· + 1) ready.stack
    · intro index found present
      rw [stored, log, Rounds.held]
      by_cases last : pushed.length = index
      · subst last
        rw [List.getElem?_concat_length] at present
        rw [if_pos ⟨rfl, rfl⟩, ← Option.some.inj present]
        cases value <;> rfl
      · have below := (List.getElem?_eq_some_iff.mp present).1
        rw [List.length_append, List.length_singleton] at below
        rw [List.getElem?_append_left (by omega)] at present
        rw [if_neg fun both => last both.2]
        refine (ready.held index found present).trans ?_
        cases found <;> rfl
    · obtain ⟨objects, known, compiled, counted, holds⟩ := ready.objects
      refine ⟨objects, after_call known (perform_setKernelArg (valid objects holds) ..), ?_,
        counted, holds⟩
      rw [stored]
      exact compiled
  · rw [if_neg success] at ran
    exact ensures_of_error ran fun never => success (never _)

theorem ready_push {op : Op} (isPush : Op.IsPush pointers op)
    (ready : Ready platform split targetHash pointers verdict memory launches pushed state) :
    Ensures
      (fun _ next => Ready platform split targetHash pointers verdict memory launches
        (op.argue pointers.kernel pushed) next)
      (fun _ _ => ¬ driver.NeverFails) (op.perform driver) state := by
  cases op with
  | pushArg target argSize value =>
      cases isPush
      apply Ensures.map
      rw [Op.argue, if_pos rfl]
      exact ready_argument ready argSize _ _ (copied_bytes argSize value state)
        fun _ _ => trivial
  | pushBuffer target buffer =>
      obtain ⟨rfl, buffers⟩ := isPush
      apply Ensures.map
      rw [Op.argue, if_pos rfl]
      apply ensures_get_bind
      refine ready_argument ready 8#64 _ _ (copied_buffer 8#64 buffer state) fun objects holds => ?_
      rcases buffers with rfl | rfl
      · exact ⟨_, holds.target.choose_spec.1⟩
      · exact ⟨_, holds.foundFlag.choose_spec.1⟩
  | _ => exact isPush.elim

theorem ready_pushes {ops : List Op} (arePushes : ∀ op ∈ ops, Op.IsPush pointers op)
    (ready : Ready platform split targetHash pointers verdict memory launches pushed state) :
    Ensures
      (fun _ next => Ready platform split targetHash pointers verdict memory launches
        (ops.foldl (Op.argue pointers.kernel) pushed) next)
      (fun _ _ => ¬ driver.NeverFails)
      (ops.forM fun op => do let _ ← op.perform driver) state := by
  refine ensures_forM (fun op member done between kept => ?_) ready
  exact (ready_push (arePushes op member) kept).bind fun _ _ pushed => ensures_pure pushed

/-! ### The launch -/

theorem heldArguments_eq {kernel : Handle} {log : List Event} {values : List ArgValue}
    (six : values.length = 6)
    (held : ∀ index value, values[index]? = some value →
      Rounds.held kernel index (settings log) = some value) :
    heldArguments kernel log = some values := by
  match values, six with
  | [first, second, third, fourth, fifth, sixth], _ =>
      simp [heldArguments, List.range_succ, held 0 first rfl, held 1 second rfl, held 2 third rfl,
        held 3 fourth rfl, held 4 fifth rfl, held 5 sixth rfl]

/-- The arguments that OpenCL holds are the values of what was pushed. -/
theorem Ready.held_value (ready : Ready platform split targetHash pointers verdict memory launches
    pushed state) (index : Nat) (value : ArgValue)
    (present : (pushed.map (Pushed.value state))[index]? = some value) :
    Rounds.held (state.kernels pointers.kernel).kernelId index (settings state.log) =
      some value := by
  rw [List.getElem?_map] at present
  obtain ⟨found, member, rfl⟩ := Option.map_eq_some_iff.mp present
  exact ready.held index found member

/-- What the launch of iteration `i` leaves in the objects. -/
theorem after_launch {i : Nat} {later : Memory}
    (below : i < (split.config targetHash).repeatCnt.toNat)
    (small : ∀ character ∈ memory.target, character.toNat < 256)
    (ran : (split.launch targetHash i).run (platform.schedule i) memory = some later)
    (length : later.target.length = memory.target.length)
    (ready : Ready platform split targetHash pointers verdict memory i
      (pending pointers.kernel (beforeLaunch split targetHash pointers i)) state) (queue : Handle)
    (localWorkSize : Option (List (BitVec 64))) :
    ∃ objects, platform.after (.call (.enqueueNDRangeKernel queue
          (state.kernels pointers.kernel).kernelId 1#32 [(split.config targetHash).globalWorkSize]
          localWorkSize) 0#32 .null :: state.log) = some objects ∧
      objects.kernels (state.kernels pointers.kernel).kernelId = some split.letterCount ∧
      objects.launches = i + 1 ∧
      Holds (state.allocations pointers.gpuBuf).handle (state.allocations pointers.gpuFlag).handle
        later objects := by
  obtain ⟨⟨target, foundFlag, args⟩, read, received⟩ : ∃ parameters, _ ∧
      Receives split targetHash pointers i state parameters := receives state below
  obtain rfl : target = _ := received.target
  obtain rfl : foundFlag = _ := received.foundFlag
  obtain rfl : args = _ := received.args
  obtain ⟨objects, known, compiled, counted, holds⟩ := ready.objects
  have arguments := heldArguments_eq (by rw [pending_beforeLaunch]; rfl) ready.held_value
  have enqueued : launchOf split.letterCount
      ((split.config targetHash).arguments (BitVec.ofNat 64 i))
      (split.config targetHash).globalWorkSize.toNat = some (split.launch targetHash i) :=
    dif_pos ⟨(split.launch targetHash i).nonempty, (split.launch targetHash i).fits⟩
  obtain ⟨next, launched, laterHolds, kernels, launches⟩ := launch_holds holds ready.apart small
    enqueued ran length
  refine ⟨next, after_succeeded known ?_, ?_, ?_, laterHolds⟩
  · simp only [Platform.perform, compiled, arguments, read, Option.bind_eq_bind, Option.bind_some,
      counted]
    exact launched
  · rw [kernels, compiled]
  · rw [launches, counted]

/-- A launch that is refused raises before it is enqueued. -/
theorem execute_refused {failure : Failure}
    (ready : Ready platform split targetHash pointers (.error failure) memory launches pushed
      state) :
    Ensures (fun _ _ => False) (fun _ _ => True)
      (execute driver pointers.kernel 1#32 [(split.config targetHash).globalWorkSize]
        (some [256#64])) state := by
  have executed := run_execute driver ready.inBounds pointers.kernel 1#32
    [(split.config targetHash).globalWorkSize] (some [256#64])
  have check := ready.verdict
  unfold launchCheck at check
  rw [if_pos ready.initialized, check] at executed
  cases failure <;> exact ensures_of_error executed trivial

theorem ready_execute {i : Nat} {later : Memory}
    (below : i < (split.config targetHash).repeatCnt.toNat)
    (small : ∀ character ∈ memory.target, character.toNat < 256)
    (ran : (split.launch targetHash i).run (platform.schedule i) memory = some later)
    (length : later.target.length = memory.target.length)
    (ready : Ready platform split targetHash pointers (.ok ()) memory i
      (pending pointers.kernel (beforeLaunch split targetHash pointers i)) state) :
    Ensures
      (fun _ next => Ready platform split targetHash pointers (.ok ()) later (i + 1) [] next)
      (fun _ _ => ¬ driver.NeverFails)
      (execute driver pointers.kernel 1#32 [(split.config targetHash).globalWorkSize]
        (some [256#64])) state := by
  have executed := run_execute driver ready.inBounds pointers.kernel 1#32
    [(split.config targetHash).globalWorkSize] (some [256#64])
  have check := ready.verdict
  unfold launchCheck at check
  rw [if_pos ready.initialized, check] at executed
  dsimp only at executed
  unfold afterCall at executed
  by_cases success : driver.status (state.stackReset pointers.kernel).log.length = 0#32
  · rw [if_pos success] at executed
    apply ensures_of_ok executed
    let kernel := state.kernels pointers.kernel
    let call : ClCall := .enqueueNDRangeKernel state.clcommandQueue kernel.kernelId 1#32
      [(split.config targetHash).globalWorkSize] (some [256#64])
    let next := (state.stackReset pointers.kernel).issued driver call
    show Ready _ _ _ _ _ _ _ _ next
    have stored : next.kernels pointers.kernel = { kernel with argStackSize := 0 } :=
      Function.update_self ..
    have log : next.log = .call call 0#32 .null :: state.log :=
      congrArg (fun status => Event.call call status .null :: state.log) success
    constructor
    · exact ⟨ready.inBounds.1, ready.inBounds.2⟩
    · exact ready.initialized
    · exact ready.targetSize.trans length.symm
    · exact ready.flagSize
    · exact ready.apart
    · rw [stored]
      exact check
    · rw [stored]
      rfl
    · exact nofun
    · rw [stored, log]
      exact after_launch below small ran length ready state.clcommandQueue (some [256#64])
  · rw [if_neg success] at executed
    exact ensures_of_error executed fun never => success (never _)

/-! ### Reading back -/

/-- A blocking read of one of the two buffers delivers its bytes. -/
theorem ready_readBack {slot : Fin 32} {bytes : List (BitVec 8)}
    (size : (state.allocations slot).size.toNat = bytes.length)
    (stored : ∀ objects, Holds (state.allocations pointers.gpuBuf).handle
      (state.allocations pointers.gpuFlag).handle memory objects →
      ∃ buffer, objects.buffers (state.allocations slot).handle = some buffer ∧
        buffer.contents = bytes)
    (ready : Ready platform split targetHash pointers verdict memory launches pushed state) :
    Ensures
      (fun read next => read = some bytes ∧
        Ready platform split targetHash pointers verdict memory launches pushed next)
      (fun _ _ => ¬ driver.NeverFails) (readBack driver platform slot) state := by
  obtain ⟨objects, known, compiled, counted, holds⟩ := ready.objects
  obtain ⟨buffer, present, contents⟩ := stored objects holds
  have whole : (state.allocations slot).size.toNat = buffer.size := by
    rw [size, ← contents, contents_length]
  cases ended : (readBack driver platform slot).run state with
  | ok read next =>
      obtain ⟨rfl, rfl, later⟩ := readBack_returned ready.inBounds known present whole ended
      refine ensures_of_ok ended ⟨congrArg some contents, ?_⟩
      exact {
        inBounds := ⟨ready.inBounds.1, ready.inBounds.2⟩
        initialized := ready.initialized
        targetSize := ready.targetSize
        flagSize := ready.flagSize
        apart := ready.apart
        verdict := ready.verdict
        stack := ready.stack
        held := ready.held
        objects := ⟨objects, later, compiled, counted, holds⟩ }
  | error failure next =>
      refine ensures_of_error ended fun never => ?_
      have ran := run_readBuffer driver slot true ready.inBounds ready.initialized 0#64
        (state.allocations slot).size
      rw [← run_readWhole, if_pos (BitVec.le_refl _), afterCall, if_pos (never _)] at ran
      unfold readBack at ended
      rw [run_bind_ok ran] at ended
      cases ended

theorem ready_readFlag
    (ready : Ready platform split targetHash pointers verdict memory launches pushed state) :
    Ensures
      (fun read next => read = some (LittleEndian.bytes 4 memory.foundFlag) ∧
        Ready platform split targetHash pointers verdict memory launches pushed next)
      (fun _ _ => ¬ driver.NeverFails) (readBack driver platform pointers.gpuFlag) state := by
  refine ready_readBack ?_ (fun _ holds => holds.foundFlag) ready
  rw [ready.flagSize, LittleEndian.bytes_length]
  rfl

theorem ready_readTarget
    (ready : Ready platform split targetHash pointers verdict memory launches pushed state) :
    Ensures
      (fun read next => read = some (memory.target.map byteOf) ∧
        Ready platform split targetHash pointers verdict memory launches pushed next)
      (fun _ _ => ¬ driver.NeverFails) (readBack driver platform pointers.gpuBuf) state := by
  refine ready_readBack ?_ (fun _ holds => holds.target) ready
  rw [ready.targetSize, List.length_map]

end Ready

end OpenClHash.System
