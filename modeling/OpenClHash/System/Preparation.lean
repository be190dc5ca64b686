import OpenClHash.System.Ready

/-!
Owns `main` up to its loop: on a driver that answers everything `prepare` returns, and when it
returns both buffers hold zeros and the kernel is the one `LETTER_COUNT` was compiled into.
-/

namespace OpenClHash.System

open OpenClHash.Kernel OpenClHash.Device OpenClHash.Host OpenClHash.Sizing OpenClHash.Wrapper
open OpenClHash.Library OpenClHash.Library.Fallible Relation

/-- Every call succeeds, the source file can be read, and the device and the kernel report the
same limits whenever they are asked. -/
structure Reliable (driver : Driver) (info : DeviceInfo) (maxWorkGroupSize : BitVec 64) :
    Prop where
  neverFails : driver.NeverFails
  device : ∀ earlier, driver.deviceInfo earlier = info
  kernel : ∀ earlier, driver.kernelWorkGroupSize earlier = maxWorkGroupSize
  readable : ∀ earlier, ∃ source, source ≠ [] ∧ driver.file earlier sourceFile = some source
  reads : ∀ earlier, driver.readFails earlier = false

/-- Whatever the source file holds when it is read, its `main` is the kernel of
`open_cl_kernel.cl` with this `LETTER_COUNT`. -/
def Compiles (driver : Driver) (platform : Platform) (letterCount : Nat) : Prop :=
  ∀ earlier source, driver.file earlier sourceFile = some source →
    platform.compile source (some (buildOptions letterCount)) "main" = some letterCount

section Calls

variable {driver : Driver} {info : DeviceInfo} {maxWorkGroupSize : BitVec 64}
  {state next : Wrapper.State}

/-! ### `init` -/

theorem run_issueAll_ok (neverFails : driver.NeverFails) (calls : List ClCall)
    (state : Wrapper.State) :
    ∃ after, (issueAll driver calls).run state = .ok 0#32 after := by
  induction calls generalizing state with
  | nil => exact ⟨state, rfl⟩
  | cons call rest inductionHypothesis =>
      obtain ⟨after, ran⟩ := inductionHypothesis (state.issued driver call)
      refine ⟨after, ?_⟩
      unfold issueAll
      rw [run_bind_ok (run_issue driver call state), run_bind_ok ran, neverFails]
      rfl

theorem run_deviceInfo_ok (neverFails : driver.NeverFails)
    (store : DeviceInfo → Wrapper.State → Wrapper.State) (state : Wrapper.State) :
    ∃ after, (deviceInfo driver store).run state =
      .ok (driver.deviceInfo state.log.length)
        (store (driver.deviceInfo state.log.length) after) := by
  obtain ⟨after, asked⟩ := run_issueAll_ok neverFails deviceQueries state
  refine ⟨after, ?_⟩
  unfold deviceInfo
  rw [run_get_bind, run_bind_ok asked, run_modify_bind, run_bind_ok (run_checkError_ok driver _ _)]
  rfl

theorem run_issue_checked {α : Type} (neverFails : driver.NeverFails) (call : ClCall)
    (failed : String) (rest : Unit → Cl α) (state : Wrapper.State) :
    (issue driver call >>= fun status => checkError driver status failed >>= rest).run state =
      (rest ()).run (state.issued driver call) := by
  rw [run_bind_ok (run_issue driver call state), neverFails,
    run_bind_ok (run_checkError_ok driver _ _)]

/-- A device that is asked for is printed. -/
theorem selectDevice_prints (reliable : Reliable driver info maxWorkGroupSize)
    (state : Wrapper.State) :
    ∃ after, after.device = info ∧
      (selectDevice driver).run state = (printDevice info).run after := by
  have neverFails := reliable.neverFails
  obtain ⟨described, platform⟩ := run_issueAll_ok neverFails platformQueries
    (state.issued driver .getPlatformIDs)
  have platformInfo : (Wrapper.platformInfo driver false).run
      (state.issued driver .getPlatformIDs) = .ok [] described := by
    unfold Wrapper.platformInfo
    rw [run_bind_ok platform, run_bind_ok (run_checkError_ok driver _ _)]
    rfl
  obtain ⟨after, device⟩ := run_deviceInfo_ok neverFails
    (fun info state => { state with device := info }) (described.issued driver .getDeviceIDs)
  rw [reliable.device] at device
  refine ⟨{ after with device := info }, rfl, ?_⟩
  unfold selectDevice
  rw [run_issue_checked neverFails, run_bind_ok platformInfo, run_issue_checked neverFails,
    run_bind_ok device]

theorem selectDevice_ok (reliable : Reliable driver info maxWorkGroupSize) {value : Unit}
    (ran : (selectDevice driver).run state = .ok value next) :
    next.device = info ∧ info.type < 9#64 := by
  obtain ⟨after, device, prints⟩ := selectDevice_prints reliable state
  rw [prints, printDevice] at ran
  split at ran
  · cases ran
    exact ⟨device, ‹_›⟩
  · cases ran

theorem selectDevice_error (reliable : Reliable driver info maxWorkGroupSize) {failure : Failure}
    (ran : (selectDevice driver).run state = .error failure next) : ¬ info.type < 9#64 := by
  obtain ⟨after, _, prints⟩ := selectDevice_prints reliable state
  rw [prints, printDevice] at ran
  split at ran
  · cases ran
  · assumption

theorem createHandles_returns (neverFails : driver.NeverFails) (state : Wrapper.State) :
    (createHandles driver).run state = .ok () state.handlesCreated := by
  have context : (createInto driver (fun handle state => { state with clcontext := handle })
      .createContext "Error in clCreateContext").run state = .ok () state.contextCreated := by
    unfold createInto
    rw [run_bind_ok (run_create_created driver (neverFails _))]
    rfl
  unfold createHandles
  rw [run_bind_ok context, run_get_bind]
  unfold createInto
  rw [run_bind (create _ _ >>= _), run_bind_ok (run_create_created driver (neverFails _))]
  rfl

/-- `init` asks, then creates both handles. -/
theorem ensures_init (sound : Sound state) :
    Ensures
      (fun _ next => ∃ asked, ReflTransGen Quiet state asked ∧ next = asked.handlesCreated ∧
        (Reliable driver info maxWorkGroupSize → next.device = info ∧ info.type < 9#64))
      (fun _ _ => Reliable driver info maxWorkGroupSize → ¬ info.type < 9#64) (init driver)
      state := by
  unfold init
  rcases onlyAsks_selectDevice.cases sound.toInBounds with
    ⟨value, asked, ran, path⟩ | ⟨msg, failing, ran, _⟩ | ⟨failing, ran, _⟩
  · refine (ensures_of_ok ran ⟨path, fun reliable => selectDevice_ok reliable ran⟩ :
      Ensures (fun _ asked => ReflTransGen Quiet state asked ∧
        (Reliable driver info maxWorkGroupSize → asked.device = info ∧ info.type < 9#64))
        _ _ _).bind ?_
    rintro _ between ⟨quiet, device⟩
    have soundBetween := sound_of_effects (effects_of_quiet driver quiet) sound
    rcases createHandles_cases driver soundBetween.toInBounds with
      ⟨_, _, _, raised⟩ | ⟨_, _, _, raised⟩ | created
    · refine ensures_of_error raised fun reliable => ?_
      cases raised.symm.trans (createHandles_returns reliable.neverFails between)
    · refine ensures_of_error raised fun reliable => ?_
      cases raised.symm.trans (createHandles_returns reliable.neverFails between)
    · exact ensures_of_ok created ⟨between, quiet, rfl, device⟩
  · exact ensures_of_error (run_bind_error ran) fun reliable => selectDevice_error reliable ran
  · exact ensures_of_error (run_bind_error ran) fun reliable => selectDevice_error reliable ran

/-! ### Buffers -/

theorem allocate_returns (inBounds : state.InBounds) (neverFails : driver.NeverFails)
    (marked : state.initialized = true) (room : state.allocationCount < 32)
    (flags size : BitVec 64) :
    ∃ slot after, (allocate driver flags size).run state = .ok slot after := by
  unfold allocate
  rw [run_get_bind, run_check_bind driver inBounds, if_pos marked, run_get_bind,
    run_check_bind driver inBounds, if_pos (decide_eq_true room), run_get_bind,
    run_bind_ok (run_slotAt room state), run_modify_bind, run_bind_ok (run_note _ _),
    run_get_bind]
  unfold createInto
  rw [run_bind (create _ _ >>= _), run_bind_ok (run_create_created driver (neverFails _))]
  exact ⟨_, _, rfl⟩

theorem ensures_allocate (inBounds : state.InBounds) (marked : state.initialized = true)
    (room : state.allocationCount < 32) (flags size : BitVec 64) :
    Ensures
      (fun slot next => slot.val = state.allocationCount ∧
        next = state.allocated slot flags size 0#32 (.object state.objects) (state.objects + 1))
      (fun _ _ => ¬ driver.NeverFails) (allocate driver flags size) state := by
  cases ran : (allocate driver flags size).run state with
  | ok slot after => exact ensures_of_ok ran (allocate_returned driver inBounds ran).2
  | error failure after =>
      refine ensures_of_error ran fun neverFails => ?_
      obtain ⟨slot, after, returned⟩ := allocate_returns inBounds neverFails marked room flags size
      cases ran.symm.trans returned

theorem ensures_writeBuffer (inBounds : state.InBounds) (marked : state.initialized = true)
    (slot : Fin 32) {size : BitVec 64} (fits : size ≤ (state.allocations slot).size)
    (offset : BitVec 64) (source : List (BitVec 8)) (blocking : Bool) :
    Ensures
      (fun _ next => next = state.record (.call (.enqueueWriteBuffer state.clcommandQueue
        (state.allocations slot).handle blocking offset size source) 0#32 .null))
      (fun _ _ => ¬ driver.NeverFails) (writeBuffer driver slot offset size source blocking)
      state := by
  have ran := run_writeBuffer driver slot blocking inBounds marked offset size source
  rw [if_pos fits] at ran
  unfold afterCall at ran
  by_cases success : driver.status state.log.length = 0#32
  · rw [if_pos success] at ran
    refine ensures_of_ok ran ?_
    unfold State.issued
    rw [success]
  · rw [if_neg success] at ran
    exact ensures_of_error ran fun never => success (never _)

/-- A buffer was allocated in `slot` and `zeros` zeros were written to it. -/
structure Cleared (platform : Platform) (zeros : Nat) (objects : Objects) (state : Wrapper.State)
    (slot : Fin 32) (next : Wrapper.State) : Prop where
  sound : Sound next
  marked : next.initialized = true
  taken : slot.val = state.allocationCount
  allocations : next.allocations = Function.update state.allocations slot
    { state.allocations slot with handle := .object state.objects, size := BitVec.ofNat 64 zeros }
  allocationCount : next.allocationCount = state.allocationCount + 1
  kernelCount : next.kernelCount = state.kernelCount
  created : next.objects = state.objects + 1
  device : next.device = state.device
  known : ∃ later buffer, platform.after next.log = some later ∧
    later.buffers = Function.update objects.buffers (.object state.objects) (some buffer) ∧
    buffer.contents = List.replicate zeros 0#8 ∧ later.launches = objects.launches

theorem ensures_cleared {platform : Platform} {objects : Objects} (sound : Sound state)
    (marked : state.initialized = true) (room : state.allocationCount < 32)
    (known : platform.after state.log = some objects) (flags : BitVec 64) {zeros length : Nat}
    (small : zeros < 2 ^ 64) (enough : zeros ≤ length) {α : Type}
    {returned : α → Wrapper.State → Prop} {raised : Failure → Wrapper.State → Prop}
    (fails : ∀ failure after, ¬ driver.NeverFails → raised failure after) {rest : Fin 32 → Cl α}
    (continues : ∀ slot next, Cleared platform zeros objects state slot next →
      Ensures returned raised (rest slot) next) :
    Ensures returned raised (do
      let slot ← allocate driver flags (BitVec.ofNat 64 zeros)
      writeBuffer driver slot 0#64 (BitVec.ofNat 64 zeros) (List.replicate length 0#8) true
      rest slot) state := by
  have size : (BitVec.ofNat 64 zeros).toNat = zeros := by
    rw [BitVec.toNat_ofNat, Nat.mod_eq_of_lt small]
  refine ((ensures_allocate sound.toInBounds marked room flags _).mono
    (fun _ _ returned => returned) (fun failure after => fails failure after)).bind ?_
  rintro slot between ⟨next, rfl⟩
  let allocated := state.allocated slot flags (BitVec.ofNat 64 zeros) 0#32 (.object state.objects)
    (state.objects + 1)
  have effect : Effect driver state allocated := .allocated slot flags _ next .created
  have soundBetween := effect.sound sound
  have stored : allocated.allocations slot = { state.allocations slot with
      handle := .object state.objects, size := BitVec.ofNat 64 zeros } := Function.update_self ..
  have fits : BitVec.ofNat 64 zeros ≤ (allocated.allocations slot).size := by
    rw [stored]
    exact BitVec.le_refl _
  refine ((ensures_writeBuffer soundBetween.toInBounds marked slot fits _ _ _).mono
    (fun _ _ returned => returned) (fun failure after => fails failure after)).bind ?_
  rintro _ written rfl
  apply continues
  let call : ClCall := .enqueueWriteBuffer allocated.clcommandQueue
    (allocated.allocations slot).handle true 0#64 (BitVec.ofNat 64 zeros)
    (List.replicate length 0#8)
  have writes : Effect driver allocated (allocated.record (.call call 0#32 .null)) :=
    .issued call trivial 0#32
  let fresh : Buffer := ⟨(BitVec.ofNat 64 zeros).toNat, platform.fresh (state.log.length + 1)⟩
  have created : platform.after allocated.log = some { objects with
      buffers := Function.update objects.buffers (.object state.objects) (some fresh) } :=
    after_succeeded (after_cons known rfl) rfl
  have copied : platform.copied allocated.log.length true (BitVec.ofNat 64 zeros)
      (List.replicate length 0#8) = List.replicate zeros 0#8 := by
    have within : (BitVec.ofNat 64 zeros).toNat ≤ (List.replicate length 0#8).length := by
      rwa [size, List.length_replicate]
    rw [copied_eq rfl within, List.take_replicate, size, Nat.min_eq_left enough]
  have whole : (List.replicate zeros 0#8).length = fresh.size :=
    List.length_replicate.trans size.symm
  obtain ⟨buffer, wrote, contents, _⟩ := write_all whole
  let cleared : Objects := { objects with
    buffers := Function.update objects.buffers (.object state.objects) (some buffer) }
  have later : platform.after (allocated.record (.call call 0#32 .null)).log = some cleared := by
    apply after_succeeded created
    simp only [call, Platform.perform, stored, Function.update_self, Option.bind_eq_bind,
      Option.bind_some, copied]
    rw [show (0#64).toNat = 0 from rfl, wrote, Option.bind_some, Function.update_idem]
    rfl
  exact ⟨writes.sound soundBetween, marked, next, rfl, rfl, rfl, rfl, rfl, cleared, buffer, later,
    rfl, contents, rfl⟩

/-! ### The kernel -/

theorem loadedSource_of_reliable (reliable : Reliable driver info maxWorkGroupSize)
    (state : Wrapper.State) : loadedSource driver sourceFile state ≠ none := by
  obtain ⟨source, nonempty, found⟩ := reliable.readable state.log.length
  have read : ¬ (source.length = 0 ∨ driver.readFails (state.log.length + 1) = true) := by
    rw [reliable.reads, List.length_eq_zero_iff]
    simpa using nonempty
  unfold loadedSource
  rw [found]
  dsimp only
  rw [if_neg read]
  exact nofun

theorem file_of_loadedSource {path : String} {source : List (BitVec 8)}
    (loaded : loadedSource driver path state = some source) :
    driver.file state.log.length path = some source := by
  unfold loadedSource at loaded
  cases found : driver.file state.log.length path with
  | none =>
      rw [found] at loaded
      cases loaded
  | some stored =>
      rw [found] at loaded
      dsimp only at loaded
      split at loaded
      · cases loaded
      · exact loaded

/-- `create_kernel` fills a new slot from the source file. -/
theorem ensures_createKernel (sound : Sound state) (marked : state.initialized = true)
    (room : state.kernelCount < 32) (cmpOpt : Option String) (mainF : String) :
    Ensures
      (fun slot next => slot.val = state.kernelCount ∧ ∃ earlier source status size,
        driver.file earlier sourceFile = some source ∧
        next = (state.kernelSlotTaken slot).kernelFilled slot source cmpOpt mainF status size ∧
        (Reliable driver info maxWorkGroupSize → size = maxWorkGroupSize))
      (fun _ _ => ¬ Reliable driver info maxWorkGroupSize)
      (createKernel driver sourceFile cmpOpt mainF) state := by
  rcases createKernel_ends driver sound sourceFile cmpOpt mainF with
    ⟨full, _⟩ | ⟨_, slot, next, ends⟩
  · exact absurd ⟨marked, room⟩ full
  · generalize ran : (createKernel driver sourceFile cmpOpt mainF).run state = result at ends
    cases ends with
    | unread missing failing balanced =>
        exact ensures_of_error ran fun reliable => loadedSource_of_reliable reliable _ missing
    | programFailed source loaded failed =>
        exact ensures_of_error ran fun reliable => failed (reliable.neverFails _)
    | programLeft source loaded created failed msg failing path =>
        refine ensures_of_error ran fun reliable => ?_
        rcases failed with failed | failed
        · exact failed (reliable.neverFails _)
        · exact failed (reliable.neverFails _)
    | filled source loaded program built kernel =>
        exact ensures_of_ok ran ⟨next, _, source, _, _, file_of_loadedSource loaded, rfl,
          fun reliable => reliable.kernel _⟩

/-- The new kernel is what its source was compiled into. -/
theorem after_kernelFilled {platform : Platform} {objects : Objects}
    (known : platform.after state.log = some objects) (slot : Fin 32) (source : List (BitVec 8))
    (options : Option String) (name : String) (status : BitVec 32) (size : BitVec 64) :
    ∃ later, platform.after ((state.kernelSlotTaken slot).kernelFilled slot source options name
        status size).log = some later ∧
      later.buffers = objects.buffers ∧ later.launches = objects.launches ∧
      later.kernels (.object (state.objects + 1)) = platform.compile source options name := by
  let program : Handle := .object state.objects
  let kernel : Handle := .object (state.objects + 1)
  let sourced : Objects := { objects with
    sources := Function.update objects.sources program (some source) }
  let built : Objects := { sourced with
    builds := Function.update objects.builds program (some options) }
  let filled : Objects := { built with
    kernels := Function.update objects.kernels kernel (platform.compile source options name) }
  let loaded : List Event := .malloc :: .kernelTaken slot :: state.log
  let sourceLog : List Event :=
    .call (.createProgramWithSource state.clcontext source) 0#32 program :: loaded
  let buildLog : List Event :=
    .call (.buildProgram program options) 0#32 .null :: .free :: sourceLog
  have sources : platform.after sourceLog = some sourced :=
    after_succeeded (after_cons (after_cons known rfl) rfl) rfl
  have builds : platform.after buildLog = some built := after_succeeded (after_cons sources rfl) rfl
  have created : platform.after (.call (.createKernel program name) 0#32 kernel :: buildLog) =
      some filled := by
    apply after_succeeded builds
    simp only [Platform.perform, built, sourced, Function.update_self, Option.bind_eq_bind,
      Option.bind_some]
    rfl
  exact ⟨filled, after_cons (after_call created rfl) rfl, rfl, rfl, Function.update_self ..⟩

end Calls

/-! ### `main` up to its loop -/

section Prepare

variable {driver : Driver} {info : DeviceInfo} {maxWorkGroupSize : BitVec 64} {platform : Platform}
  {split : Split}

theorem letterCount_small (split : Split) : split.letterCount ≤ 21 := by
  have onCpu := split.onCpu_le
  have fromGlobalId := split.fromGlobalId_le
  have inKernel := split.inKernel_le
  unfold Split.letterCount
  omega

theorem quiet_counts {state next : Wrapper.State} (path : ReflTransGen Quiet state next) :
    next.allocationCount = state.allocationCount ∧ next.kernelCount = state.kernelCount := by
  induction path with
  | refl => exact ⟨rfl, rfl⟩
  | tail _ quiet inductionHypothesis => cases quiet <;> exact inductionHypothesis

/-- What `prepare` leaves: zeros in both buffers, and a kernel compiled with `LETTER_COUNT`. -/
theorem ensures_prepare (targetHash : BitVec 64) (garbage : Garbage)
    (compiles : Compiles driver platform split.letterCount) :
    Ensures
      (fun pointers next => ∃ device size,
        Ready platform split targetHash pointers (launchCheck device size split targetHash)
          (zeroMemory split.letterCount) 0 [] next ∧
        (Reliable driver info maxWorkGroupSize →
          device = info ∧ size = maxWorkGroupSize ∧ info.type < 9#64))
      (fun _ _ => Reliable driver info maxWorkGroupSize → ¬ info.type < 9#64)
      (prepare driver split) (State.constructed garbage) := by
  have small := letterCount_small split
  have fails : ∀ (_ : Failure) (_ : Wrapper.State), ¬ driver.NeverFails →
      Reliable driver info maxWorkGroupSize → ¬ info.type < 9#64 :=
    fun _ _ faulty reliable => absurd reliable.neverFails faulty
  unfold prepare
  have init : Ensures _
      (fun _ _ => Reliable driver info maxWorkGroupSize → ¬ info.type < 9#64) (init driver)
      (State.constructed garbage) := ensures_init (sound_constructed garbage)
  apply init.bind
  rintro _ started ⟨asked, quiet, rfl, device⟩
  have effects := effects_of_quiet driver quiet
  have sound := sound_of_effects (handlesCreated_effects driver asked)
    (sound_of_effects effects (sound_constructed garbage))
  obtain ⟨noAllocations, noKernels⟩ := quiet_counts quiet
  have known : platform.after asked.handlesCreated.log = some {} :=
    after_call (after_call (after_of_quiet quiet rfl) rfl) rfl
  have room : asked.handlesCreated.allocationCount < 32 := by
    show asked.allocationCount < 32
    rw [noAllocations]
    exact Nat.zero_lt_succ 31
  apply ensures_cleared sound rfl room known 2#64 (by omega) (Nat.le_succ _) fails
  intro gpuBuf first target
  obtain ⟨firstObjects, targetBuffer, firstKnown, firstBuffers, targetBytes, noLaunch⟩ :=
    target.known
  have secondRoom : first.allocationCount < 32 := by
    rw [target.allocationCount]
    show asked.allocationCount + 1 < 32
    rw [noAllocations]
    exact Nat.one_lt_succ_succ 30
  apply ensures_cleared target.sound target.marked secondRoom firstKnown 1#64 (by decide)
    (Nat.le_refl 4) fails
  intro gpuFlag second flag
  obtain ⟨secondObjects, flagBuffer, secondKnown, secondBuffers, flagBytes, stillNoLaunch⟩ :=
    flag.known
  have kernelRoom : second.kernelCount < 32 := by
    rw [flag.kernelCount, target.kernelCount]
    show asked.kernelCount < 32
    rw [noKernels]
    exact Nat.zero_lt_succ 31
  refine ((ensures_createKernel flag.sound flag.marked kernelRoom _ "main").mono
    (fun _ _ created => created) (fun _ _ faulty reliable => absurd reliable faulty)).bind ?_
  rintro kernel filled ⟨taken, earlier, source, status, size, found, rfl, reported⟩
  apply ensures_pure
  obtain ⟨objects, filledKnown, buffers, launches, compiled⟩ := after_kernelFilled secondKnown
    kernel source (some (buildOptions split.letterCount)) "main" status size
  have different : gpuBuf ≠ gpuFlag := by
    rintro rfl
    have next := target.allocationCount
    rw [← flag.taken, ← target.taken] at next
    omega
  have targetHandle : (second.allocations gpuBuf).handle =
      .object asked.handlesCreated.objects := by
    rw [flag.allocations, Function.update_of_ne different, target.allocations,
      Function.update_self]
  have targetSize : (second.allocations gpuBuf).size = BitVec.ofNat 64 split.letterCount := by
    rw [flag.allocations, Function.update_of_ne different, target.allocations,
      Function.update_self]
  have flagHandle : (second.allocations gpuFlag).handle = .object first.objects := by
    rw [flag.allocations, Function.update_self]
  have flagSize : (second.allocations gpuFlag).size = 4#64 := by
    rw [flag.allocations, Function.update_self]
  have apart : Handle.object asked.handlesCreated.objects ≠ .object first.objects := by
    rw [target.created]
    intro same
    have := Handle.object.inj same
    omega
  have stored : ((second.kernelSlotTaken kernel).kernelFilled kernel source
      (some (buildOptions split.letterCount)) "main" status size).kernels kernel =
        { kernelId := .object (second.objects + 1), programId := .object second.objects
          maxWorkGroupSize := size, argStackSize := 0, initialized := true } :=
    Function.update_self ..
  have creates : Effect driver second _ := .kernelCreated kernel source
    (some (buildOptions split.letterCount)) "main" status size taken
  have filledSound := creates.sound flag.sound
  refine ⟨second.device, size, ?_, ?_⟩
  · constructor
    · exact filledSound.toInBounds
    · exact flag.marked
    · show (second.allocations gpuBuf).size.toNat = (List.replicate _ _).length
      rw [targetSize, List.length_replicate, BitVec.toNat_ofNat, Nat.mod_eq_of_lt (by omega)]
    · exact flagSize
    · show (second.allocations gpuBuf).handle ≠ (second.allocations gpuFlag).handle
      rwa [targetHandle, flagHandle]
    · rw [stored]
      rfl
    · rw [stored]
      rfl
    · exact nofun
    · refine ⟨objects, filledKnown, ?_, ?_, ⟨targetBuffer, ?_, ?_⟩, ⟨flagBuffer, ?_, ?_⟩⟩
      · rw [stored, compiled, compiles earlier source found]
      · rw [launches, stillNoLaunch, noLaunch]
      · show objects.buffers (second.allocations gpuBuf).handle = _
        rw [targetHandle, buffers, secondBuffers, Function.update_of_ne apart, firstBuffers,
          Function.update_self]
      · rw [targetBytes]
        show _ = (List.replicate split.letterCount '\x00').map byteOf
        rw [List.map_replicate]
        rfl
      · show objects.buffers (second.allocations gpuFlag).handle = _
        rw [flagHandle, buffers, secondBuffers, Function.update_self]
      · rw [flagBytes]
        show List.replicate 4 0#8 = LittleEndian.bytes 4 0#32
        decide
  · intro reliable
    obtain ⟨selected, printable⟩ := device reliable
    exact ⟨flag.device.trans (target.device.trans selected), reported reliable, printable⟩

end Prepare

end OpenClHash.System
