import OpenClHash.Wrapper.Queries

/-!
Owns what each operation does from a given state: where it refuses, the command it
issues, and the state it leaves.
-/

namespace OpenClHash.Wrapper

open OpenClHash.Sizing OpenClHash.Library.Fallible Relation

section Runs

variable (driver : Driver) {state : State}

/-! ### Checks -/

theorem run_check_bind {α : Type} (inBounds : state.InBounds) (condition : Bool) (msg : String)
    (rest : Unit → Cl α) :
    (check driver condition msg >>= rest).run state =
      if condition then (rest ()).run state
      else .error (.runtimeError msg) (state.tornDown driver) := by
  cases condition with
  | false => exact run_bind_error (run_check_failed driver inBounds msg)
  | true => exact run_bind_ok (run_check_ok driver msg state)

theorem run_checkError_bind {α : Type} (inBounds : state.InBounds) (errCode : BitVec 32)
    (msg : String) (rest : Unit → Cl α) :
    (checkError driver errCode msg >>= rest).run state =
      if errCode = 0#32 then (rest ()).run state
      else .error (.runtimeError msg) (state.tornDown driver) := by
  by_cases success : errCode = 0#32
  · rw [if_pos success, success]
    exact run_bind_ok (run_checkError_ok driver msg state)
  · rw [if_neg success]
    exact run_bind_error (run_checkError_failed driver inBounds success msg)

theorem run_checkError (inBounds : state.InBounds) (errCode : BitVec 32) (msg : String) :
    (checkError driver errCode msg).run state =
      if errCode = 0#32 then .ok () state
      else .error (.runtimeError msg) (state.tornDown driver) := by
  by_cases success : errCode = 0#32
  · rw [if_pos success, success]
    rfl
  · rw [if_neg success]
    exact run_checkError_failed driver inBounds success msg

/-- What every operation but `init`, `block`, `push_arg` and the releases says first. -/
def notInitialized : Failure := .runtimeError "Context was not initialized"

theorem State.InBounds.issued (inBounds : state.InBounds) (call : ClCall) :
    (state.issued driver call).InBounds := ⟨inBounds.kernels, inBounds.allocations⟩

theorem State.InBounds.answered (inBounds : state.InBounds) (call : ClCall) (status : BitVec 32)
    (result : Handle) (objects : Nat) : (state.answered call status result objects).InBounds :=
  ⟨inBounds.kernels, inBounds.allocations⟩

/-! ### Commands -/

/-- The end of an operation that issued `call`. -/
def afterCall (call : ClCall) (failed : String) (state : State) :
    EStateM.Result Failure State Unit :=
  if driver.status state.log.length = 0#32 then .ok () (state.issued driver call)
  else .error (.runtimeError failed) ((state.issued driver call).tornDown driver)

theorem afterCall_ok {call : ClCall} {failed : String} {value : Unit} {after : State}
    (ran : afterCall driver call failed state = .ok value after) :
    driver.status state.log.length = 0#32 ∧ after = state.issued driver call := by
  unfold afterCall at ran
  split at ran
  · cases ran
    exact ⟨‹_›, rfl⟩
  · cases ran

theorem run_command (inBounds : state.InBounds) (call : ClCall) (failed : String) :
    (issue driver call >>= fun status => checkError driver status failed).run state =
      afterCall driver call failed state := by
  rw [run_bind_ok (run_issue driver call state)]
  exact run_checkError driver (inBounds.issued driver call) _ failed

theorem run_transfer (inBounds : state.InBounds) (slot : Fin 32) (size : BitVec 64)
    (tooMuch failed : String) (command : Handle → Handle → ClCall) :
    (transfer driver slot size tooMuch failed command).run state =
      if state.initialized then
        if size ≤ (state.allocations slot).size then
          afterCall driver (command state.clcommandQueue (state.allocations slot).handle) failed
            state
        else .error (.runtimeError tooMuch) (state.tornDown driver)
      else .error notInitialized (state.tornDown driver) := by
  unfold transfer
  rw [run_get_bind, run_check_bind driver inBounds, run_get_bind, run_check_bind driver inBounds,
    run_get_bind, run_command driver inBounds]
  simp only [decide_eq_true_eq]
  rfl

/-- A transfer that returns was let through, and OpenCL accepted it. -/
theorem transfer_returned (inBounds : state.InBounds) {slot : Fin 32} {size : BitVec 64}
    {tooMuch failed : String} {command : Handle → Handle → ClCall} {value : Unit} {after : State}
    (ran : (transfer driver slot size tooMuch failed command).run state = .ok value after) :
    driver.status state.log.length = 0#32 ∧ size ≤ (state.allocations slot).size ∧
      after = state.issued driver
        (command state.clcommandQueue (state.allocations slot).handle) := by
  rw [run_transfer driver inBounds] at ran
  by_cases initialized : state.initialized
  · rw [if_pos initialized] at ran
    by_cases fits : size ≤ (state.allocations slot).size
    · rw [if_pos fits] at ran
      obtain ⟨success, same⟩ := afterCall_ok driver ran
      exact ⟨success, fits, same⟩
    · rw [if_neg fits] at ran
      cases ran
  · rw [if_neg initialized] at ran
    cases ran

theorem run_readWhole (slot : Fin 32) (blocking : Bool) (state : State) :
    (readWhole driver slot blocking).run state =
      (readBuffer driver slot 0#64 (state.allocations slot).size blocking).run state := by
  unfold readWhole
  rw [run_get_bind]

theorem run_writeWhole (slot : Fin 32) (source : List (BitVec 8)) (blocking : Bool)
    (state : State) :
    (writeWhole driver slot source blocking).run state =
      (writeBuffer driver slot 0#64 (state.allocations slot).size source blocking).run state := by
  unfold writeWhole
  rw [run_get_bind]

/-- The vector holds whole floats, the transfer the size of the buffer. -/
theorem run_zerosFloat (slot : Fin 32) (blocking : Bool) (state : State) :
    (zerosFloat driver slot blocking).run state =
      (writeBuffer driver slot 0#64 (state.allocations slot).size
        (List.replicate (4 * ((state.allocations slot).size.toNat / 4)) 0#8) blocking).run
          state := by
  unfold zerosFloat
  rw [run_get_bind, run_writeWhole]
  rfl

theorem run_block (inBounds : state.InBounds) :
    (block driver).run state =
      let flushed := state.issued driver (.flush state.clcommandQueue)
      if driver.status state.log.length = 0#32 then
        afterCall driver (.finish state.clcommandQueue)
          "Error during clFinish during Context::block()" flushed
      else .error
        (.runtimeError "Error during command queue flush during Context::block()")
        (flushed.tornDown driver) := by
  have flushedInBounds := inBounds.issued driver (.flush state.clcommandQueue)
  unfold block
  rw [run_get_bind, run_bind_ok (run_issue driver _ state),
    run_checkError_bind driver flushedInBounds, run_get_bind, run_command driver flushedInBounds]
  rfl

theorem run_pushArg (inBounds : state.InBounds) (slot : Fin 32) (argSize : BitVec 64)
    (argValue : ArgValue) :
    (pushArg driver slot argSize argValue).run state =
      let kernel := state.kernels slot
      let pushed := state.issued driver
        (.setKernelArg kernel.kernelId kernel.argStackSize argSize argValue)
      if driver.status state.log.length = 0#32 then
        .ok () (pushed.setKernel slot { kernel with argStackSize := kernel.argStackSize + 1 })
      else .error (.runtimeError "Could not push kernel argument") (pushed.tornDown driver) := by
  unfold pushArg
  rw [run_get_bind, run_bind_ok (run_issue driver _ state),
    run_checkError_bind driver (inBounds.issued driver _)]
  rfl

/-- The state in which `execute` enqueues the kernel. -/
def State.stackReset (slot : Fin 32) (state : State) : State :=
  state.setKernel slot { state.kernels slot with argStackSize := 0 }

theorem run_checkWork (inBounds : state.InBounds) (slot : Fin 32) (workDim : BitVec 32)
    (globalWorkSize : List (BitVec 64)) (localWorkSize : Option (List (BitVec 64))) :
    (checkWork driver slot workDim globalWorkSize localWorkSize).run state =
      match checkWorkParameters state.device (state.kernels slot).maxWorkGroupSize workDim
        globalWorkSize localWorkSize with
      | .ok () => .ok () state
      | .error (.runtimeError msg) => .error (.runtimeError msg) (state.tornDown driver)
      | .error failure => .error failure state := by
  unfold checkWork
  rw [run_get_bind]
  cases checkWorkParameters state.device (state.kernels slot).maxWorkGroupSize workDim
    globalWorkSize localWorkSize with
  | ok => rfl
  | error failure =>
      cases failure with
      | runtimeError msg => exact run_check_failed driver inBounds msg
      | outOfBounds | slotOutOfBounds | typeOutOfBounds | divisionByZero | signedOverflow
      | undefinedShift => rfl

theorem run_execute (inBounds : state.InBounds) (slot : Fin 32) (workDim : BitVec 32)
    (globalWorkSize : List (BitVec 64)) (localWorkSize : Option (List (BitVec 64))) :
    (execute driver slot workDim globalWorkSize localWorkSize).run state =
      if state.initialized then
        match checkWorkParameters state.device (state.kernels slot).maxWorkGroupSize workDim
          globalWorkSize localWorkSize with
        | .ok () => afterCall driver
            (.enqueueNDRangeKernel state.clcommandQueue (state.kernels slot).kernelId workDim
              globalWorkSize localWorkSize)
            "Error in clEnqueueNDRangeKernel" (state.stackReset slot)
        | .error (.runtimeError msg) => .error (.runtimeError msg) (state.tornDown driver)
        | .error failure => .error failure state
      else .error notInitialized (state.tornDown driver) := by
  have resetInBounds : (state.stackReset slot).InBounds := ⟨inBounds.1, inBounds.2⟩
  unfold execute
  rw [run_get_bind, run_check_bind driver inBounds, run_bind, run_checkWork driver inBounds]
  congr 1
  cases checkWorkParameters state.device (state.kernels slot).maxWorkGroupSize workDim
    globalWorkSize localWorkSize with
  | ok value =>
      cases value
      have sameKernel : ((state.stackReset slot).kernels slot).kernelId =
          (state.kernels slot).kernelId := by simp [State.stackReset, State.setKernel]
      dsimp only
      rw [run_modify_bind]
      show EStateM.run (get >>= _) (state.stackReset slot) = _
      rw [run_get_bind, run_command driver resetInBounds, sameKernel]
      rfl
  | error failure =>
      cases failure with
      | runtimeError | outOfBounds | slotOutOfBounds | typeOutOfBounds | divisionByZero
      | signedOverflow | undefinedShift => rfl

/-- The state after a launch. -/
def State.launched (driver : Driver) (slot : Fin 32) (workDim : BitVec 32)
    (globalWorkSize : List (BitVec 64)) (localWorkSize : Option (List (BitVec 64)))
    (state : State) : State :=
  (state.stackReset slot).issued driver (.enqueueNDRangeKernel state.clcommandQueue
    (state.kernels slot).kernelId workDim globalWorkSize localWorkSize)

theorem execute_returned (inBounds : state.InBounds) {slot : Fin 32} {workDim : BitVec 32}
    {globalWorkSize : List (BitVec 64)} {localWorkSize : Option (List (BitVec 64))} {value : Unit}
    {after : State}
    (ran : (execute driver slot workDim globalWorkSize localWorkSize).run state =
      .ok value after) :
    driver.status state.log.length = 0#32 ∧
      after = state.launched driver slot workDim globalWorkSize localWorkSize := by
  rw [run_execute driver inBounds] at ran
  by_cases marked : state.initialized = true
  · rw [if_pos marked] at ran
    generalize checkWorkParameters state.device (state.kernels slot).maxWorkGroupSize workDim
      globalWorkSize localWorkSize = checked at ran
    cases checked with
    | ok accepted =>
        cases accepted
        exact afterCall_ok driver ran
    | error failure => cases failure <;> cases ran
  · rw [if_neg marked] at ran
    cases ran

/-! ### Creating the handles -/

theorem run_createInto (store : Handle → State → State)
    (keeps : ∀ handle state, state.InBounds → (store handle state).InBounds)
    (inBounds : state.InBounds) (call : ClCall) (failed : String) :
    ∃ status result objects, Answer state.objects status result objects ∧
      (createInto driver store call failed).run state =
        let after := store result (state.answered call status result objects)
        if status = 0#32 then .ok () after
        else .error (.runtimeError failed) (after.tornDown driver) := by
  rcases run_create driver call state with ⟨status, result, objects, answer, run⟩
  refine ⟨status, result, objects, answer, ?_⟩
  unfold createInto
  rw [run_bind_ok run]
  dsimp only
  rw [run_modify_bind,
    run_checkError driver (keeps _ _ (inBounds.answered call status result objects))]

namespace State

def contextCreated (state : State) : State :=
  state.contextAssigned 0#32 (.object state.objects) (state.objects + 1)

/-- The state after both handles were created and `init` marked the context. -/
def handlesCreated (state : State) : State :=
  state.contextCreated.queueCreated

end State

theorem createHandles_cases (inBounds : state.InBounds) :
    (∃ status msg, status ≠ 0#32 ∧ (createHandles driver).run state =
      .error (.runtimeError msg)
        ((state.contextAssigned status .null state.objects).tornDown driver)) ∨
    (∃ status msg, status ≠ 0#32 ∧ (createHandles driver).run state =
      .error (.runtimeError msg)
        ((state.contextCreated.queueAssigned status .null (state.objects + 1)).tornDown driver)) ∨
    (createHandles driver).run state = .ok () state.handlesCreated := by
  unfold createHandles
  rcases run_createInto driver (fun handle state => { state with clcontext := handle })
    (fun _ _ inBounds => ⟨inBounds.1, inBounds.2⟩) inBounds .createContext
    "Error in clCreateContext" with ⟨status, result, objects, answer, run⟩
  cases answer with
  | failed _ nonzero =>
      simp only [if_neg nonzero] at run
      exact .inl ⟨status, _, nonzero, run_bind_error run⟩
  | created =>
      right
      simp only [if_true] at run
      rw [run_bind_ok run, run_get_bind]
      have createdInBounds : state.contextCreated.InBounds := ⟨inBounds.1, inBounds.2⟩
      rcases run_createInto driver (fun handle state => { state with clcommandQueue := handle })
        (fun _ _ inBounds => ⟨inBounds.1, inBounds.2⟩) createdInBounds
        (.createCommandQueue state.contextCreated.clcontext)
        "Error in clCreateCommandQueue" with ⟨status, result, objects, answer, run⟩
      cases answer with
      | failed _ nonzero =>
          simp only [if_neg nonzero] at run
          exact .inl ⟨status, _, nonzero, run_bind_error run⟩
      | created =>
          simp only [if_true] at run
          right
          exact run_bind_ok run

/-! ### Taking slots -/

theorem allocate_cases (inBounds : state.InBounds) (flags size : BitVec 64) :
    (allocate driver flags size).run state =
      .error notInitialized (state.tornDown driver) ∧ state.initialized = false ∨
    state.initialized = true ∧
      ((∃ msg, (allocate driver flags size).run state =
        .error (.runtimeError msg) (state.tornDown driver)) ∨
      ∃ slot : Fin 32, slot.val = state.allocationCount ∧
        ∃ status result objects, Answer state.objects status result objects ∧
          (allocate driver flags size).run state =
            let after := state.allocated slot flags size status result objects
            if status = 0#32 then .ok slot after
            else .error (.runtimeError "Error in clCreateBuffer") (after.tornDown driver)) := by
  unfold allocate
  rw [run_get_bind, run_check_bind driver inBounds]
  cases initialized : state.initialized with
  | false => exact .inl ⟨rfl, rfl⟩
  | true =>
      refine .inr ⟨rfl, ?_⟩
      rw [if_pos rfl, run_get_bind, run_check_bind driver inBounds]
      by_cases room : state.allocationCount < 32
      · right
        let slot : Fin 32 := ⟨state.allocationCount, room⟩
        let taken : State := { state.record (.allocationTaken slot) with
          allocationCount := state.allocationCount + 1 }
        refine ⟨slot, rfl, ?_⟩
        rw [if_pos (decide_eq_true room), run_get_bind, run_bind_ok (run_slotAt room state),
          run_modify_bind, run_bind_ok (run_note _ _), run_get_bind]
        have takenInBounds : taken.InBounds := ⟨inBounds.kernels, room⟩
        rcases run_createInto driver (fun handle state => state.setAllocation slot
            { state.allocations slot with handle := handle, size := size })
          (fun _ _ inBounds => ⟨inBounds.1, inBounds.2⟩) takenInBounds
          (.createBuffer state.clcontext flags size) "Error in clCreateBuffer" with
          ⟨status, result, objects, answer, run⟩
        refine ⟨status, result, objects, answer, ?_⟩
        by_cases success : status = 0#32
        · simp only [if_pos success] at run ⊢
          exact run_bind_ok run
        · simp only [if_neg success] at run ⊢
          exact run_bind_error run
      · left
        rw [if_neg (by simpa using room)]
        exact ⟨_, rfl⟩

theorem allocate_returned (inBounds : state.InBounds) {flags size : BitVec 64} {slot : Fin 32}
    {after : State} (ran : (allocate driver flags size).run state = .ok slot after) :
    state.initialized = true ∧ slot.val = state.allocationCount ∧
      after = state.allocated slot flags size 0#32 (.object state.objects) (state.objects + 1) := by
  rcases allocate_cases driver inBounds flags size with
    ⟨refused, _⟩ | ⟨marked, ⟨msg, refused⟩ | ⟨taken, next, status, result, objects, answer, ended⟩⟩
  · rw [refused] at ran
    cases ran
  · rw [refused] at ran
    cases ran
  · rw [ended] at ran
    dsimp only at ran
    cases answer with
    | failed _ nonzero =>
        rw [if_neg nonzero] at ran
        cases ran
    | created =>
        rw [if_pos rfl] at ran
        cases ran
        exact ⟨marked, next, rfl⟩

/-! ### `create_kernel` -/

/-- What `load_file` returns. -/
def loadedSource (path : String) (state : State) : Option (List (BitVec 8)) :=
  match driver.file state.log.length path with
  | none => none
  | some source =>
      if source.length = 0 ∨ driver.readFails (state.log.length + 1) then none else some source

/-- The host buffer is kept exactly if the source was read. -/
theorem loadFile_cases (path : String) (state : State) :
    (∃ after, (after = state ∨ after = (state.record .malloc).record .free) ∧
      loadedSource driver path state = none ∧
      (loadFile driver path).run state = .ok none after) ∨
    ∃ source : List (BitVec 8), 0 < source.length ∧ loadedSource driver path state = some source ∧
      (loadFile driver path).run state = .ok (some source) (state.record .malloc) := by
  unfold loadFile loadedSource
  rw [run_get_bind]
  cases driver.file state.log.length path with
  | none => exact .inl ⟨state, .inl rfl, rfl, rfl⟩
  | some source =>
      dsimp only
      rw [run_bind_ok (run_note _ _), run_get_bind]
      have later : (state.record .malloc).log.length = state.log.length + 1 := rfl
      rw [later]
      by_cases unread : source.length = 0 ∨ driver.readFails (state.log.length + 1) = true
      · rw [if_pos unread, if_pos unread, run_bind_ok (run_note _ _)]
        exact .inl ⟨_, .inr rfl, rfl, rfl⟩
      · rw [if_neg unread, if_neg unread]
        exact .inr ⟨source, Nat.pos_of_ne_zero fun empty => unread (.inl empty), rfl, rfl⟩

/-- The state after the program was created from the source. -/
def State.programCreated (source : List (BitVec 8)) (state : State) : State :=
  state.answered (.createProgramWithSource state.clcontext source) 0#32 (.object state.objects)
    (state.objects + 1)

theorem effect_programCreated (source : List (BitVec 8)) (state : State) :
    Effect driver state (state.programCreated source) :=
  .answered (.createProgramWithSource state.clcontext source) trivial .created

/-- The state after the program was created and built. -/
def State.programBuilt (source : List (BitVec 8)) (options : Option String) (state : State) :
    State :=
  { state with
    objects := state.objects + 1
    log := .call (.buildProgram (.object state.objects) options) 0#32 .null :: .free ::
      .call (.createProgramWithSource state.clcontext source) 0#32 (.object state.objects) ::
      state.log }

theorem programBuilt_effects (source : List (BitVec 8)) (options : Option String) :
    ReflTransGen (Effect driver) (state.programCreated source)
      (state.programBuilt source options) :=
  (ReflTransGen.single .free).tail
    (.issued (.buildProgram (.object state.objects) options) trivial 0#32)

/-- How the creation and the build of the program end. -/
inductive BuildEnd (source : List (BitVec 8)) (options : Option String) (state : State) :
    EStateM.Result Failure State Handle → Prop where
  | programFailed (failed : driver.status state.log.length ≠ 0#32) :
      BuildEnd source options state (.error (.runtimeError "Error in clCreateProgramWithSource")
        ((state.answered (.createProgramWithSource state.clcontext source)
          (driver.status state.log.length) .null state.objects).tornDown driver))
  | buildFailed (created : driver.status state.log.length = 0#32)
      (failed : driver.status (state.log.length + 2) ≠ 0#32) (failing : State)
      (path : ReflTransGen (Effect driver) (state.programCreated source) failing) :
      BuildEnd source options state
        (.error (.runtimeError "Error in clBuildProgram") (failing.tornDown driver))
  | built (created : driver.status state.log.length = 0#32)
      (succeeded : driver.status (state.log.length + 2) = 0#32) :
      BuildEnd source options state
        (.ok (.object state.objects) (state.programBuilt source options))

theorem buildProgram_ends (sound : Sound state) (source : List (BitVec 8))
    (options : Option String) :
    BuildEnd driver source options state ((buildProgram driver source options).run state) := by
  let createCall : ClCall := .createProgramWithSource state.clcontext source
  unfold buildProgram
  rw [run_get_bind]
  by_cases created : driver.status state.log.length = 0#32
  · let freed := (state.programCreated source).record .free
    let call : ClCall := .buildProgram (.object state.objects) options
    have path : ReflTransGen (Effect driver) (state.programCreated source)
        (freed.issued driver call) :=
      (ReflTransGen.single .free).tail (effect_issued driver freed trivial)
    have createdSound := (effect_programCreated driver source state).sound sound
    have answered : (create driver createCall).run state =
        .ok (.object state.objects, 0#32) (state.programCreated source) :=
      run_create_created driver created
    rw [run_bind_ok answered]
    dsimp only
    rw [run_checkError_bind driver createdSound.toInBounds, if_pos rfl, run_bind_ok (run_note _ _),
      run_bind_ok (run_issue driver call freed)]
    by_cases success : driver.status freed.log.length = 0#32
    · rw [success, if_neg (by decide), run_checkError_bind driver
        (sound_of_effects path createdSound).toInBounds, if_pos rfl]
      have ended : freed.issued driver call = state.programBuilt source options := by
        unfold State.issued
        rw [success]
        rfl
      rw [ended]
      exact .built created success
    · by_cases explained : driver.status freed.log.length = buildProgramFailure
      · let info : ClCall := .getProgramBuildInfo (.object state.objects)
        have longer := path.tail (effect_issued driver _ (show info.Inert from trivial))
        rw [if_pos explained, run_bind_ok (run_issue driver info _), run_checkError_bind driver
          (sound_of_effects longer createdSound).toInBounds, if_neg success]
        exact .buildFailed created success _ longer
      · rw [if_neg explained, run_checkError_bind driver
          (sound_of_effects path createdSound).toInBounds, if_neg success]
        exact .buildFailed created success _ path
  · have failure : Effect driver state _ := .answered createCall trivial (.failed _ created)
    rw [run_bind_ok (run_create_failed driver created)]
    dsimp only
    rw [run_checkError_bind driver (failure.sound sound).toInBounds, if_neg created]
    exact .programFailed created

theorem run_kernelInit {slot : Fin 32} (fresh : (state.kernels slot).initialized = false)
    (kernelId programId : Handle) (maxWorkGroupSize : BitVec 64) :
    (kernelInit driver slot kernelId programId maxWorkGroupSize).run state =
      .ok () ((state.record (.kernelInit slot kernelId programId)).setKernel slot {
        kernelId := kernelId
        programId := programId
        maxWorkGroupSize := maxWorkGroupSize
        argStackSize := 0
        initialized := true }) := by
  unfold kernelInit
  rw [run_get_bind, fresh]
  rfl

/-- How `create_kernel` ends once it has taken a slot: it got no source, OpenCL created no
program, a later step failed after that, or it filled the slot. -/
inductive FillEnd (slot : Fin 32) (filePath : String) (options : Option String) (name : String)
    (state : State) : EStateM.Result Failure State (Fin 32) → Prop where
  | unread (missing : loadedSource driver filePath state = none) (failing : State)
      (balanced : failing = state ∨ failing = (state.record .malloc).record .free) :
      FillEnd slot filePath options name state
        (.error (.runtimeError "Could not read file") (failing.tornDown driver))
  | programFailed (source : List (BitVec 8))
      (loaded : loadedSource driver filePath state = some source)
      (failed : driver.status (state.log.length + 1) ≠ 0#32) :
      FillEnd slot filePath options name state
        (.error (.runtimeError "Error in clCreateProgramWithSource")
          (((state.record .malloc).answered (.createProgramWithSource state.clcontext source)
            (driver.status (state.log.length + 1)) .null state.objects).tornDown driver))
  | programLeft (source : List (BitVec 8))
      (loaded : loadedSource driver filePath state = some source)
      (created : driver.status (state.log.length + 1) = 0#32)
      (failed : driver.status (state.log.length + 3) ≠ 0#32 ∨
        driver.status (state.log.length + 4) ≠ 0#32) (msg : String) (failing : State)
      (path : ReflTransGen (Effect driver) ((state.record .malloc).programCreated source) failing) :
      FillEnd slot filePath options name state
        (.error (.runtimeError msg) (failing.tornDown driver))
  | filled (source : List (BitVec 8)) (loaded : loadedSource driver filePath state = some source)
      (program : driver.status (state.log.length + 1) = 0#32)
      (built : driver.status (state.log.length + 3) = 0#32)
      (kernel : driver.status (state.log.length + 4) = 0#32) :
      FillEnd slot filePath options name state
        (.ok slot (state.kernelFilled slot source options name
          (driver.status (state.log.length + 5))
          (driver.kernelWorkGroupSize (state.log.length + 5))))

theorem fillKernel_ends (sound : Sound state) {slot : Fin 32}
    (fresh : (state.kernels slot).initialized = false) (filePath : String)
    (cmpOpt : Option String) (mainF : String) :
    FillEnd driver slot filePath cmpOpt mainF state
      ((fillKernel driver slot filePath cmpOpt mainF).run state) := by
  unfold fillKernel
  rcases loadFile_cases driver filePath state with
    ⟨after, balanced, missing, run⟩ | ⟨source, nonempty, loaded, run⟩
  · have afterInBounds : after.InBounds := by
      rcases balanced with rfl | rfl
      · exact sound.toInBounds
      · exact ⟨sound.kernels, sound.allocations⟩
    rw [run_bind_ok run, run_check_bind driver afterInBounds]
    exact .unread missing after balanced
  · have allocated : Effect driver state (state.record .malloc) := .malloc
    have loadedSound := allocated.sound sound
    rw [run_bind_ok run, run_check_bind driver loadedSound.toInBounds, Option.getD_some,
      if_pos (decide_eq_true nonempty)]
    have ends := buildProgram_ends driver loadedSound source cmpOpt
    generalize ran : (buildProgram driver source cmpOpt).run (state.record .malloc) = result at ends
    cases ends with
    | programFailed failed =>
        rw [run_bind_error ran]
        exact .programFailed source loaded failed
    | buildFailed created failed failing path =>
        rw [run_bind_error ran]
        exact .programLeft source loaded created (.inl failed) _ failing path
    | built program built =>
        let after := (state.record .malloc).programBuilt source cmpOpt
        let call : ClCall := .createKernel (.object (state.record .malloc).objects) mainF
        have path : ReflTransGen (Effect driver) ((state.record .malloc).programCreated source)
            after := programBuilt_effects driver source cmpOpt
        have createdSound := (effect_programCreated driver source _).sound loadedSound
        rw [run_bind_ok ran]
        by_cases kernel : driver.status (state.log.length + 4) = 0#32
        · let kernelCreated := after.answered call 0#32 (.object after.objects) (after.objects + 1)
          let asked := kernelCreated.issued driver
            (.getKernelWorkGroupInfo (.object after.objects))
          have askedFresh : (asked.kernels slot).initialized = false := fresh
          have longer := path.tail (.answered call trivial .created)
          have answered : (create driver call).run after =
              .ok (.object after.objects, 0#32) kernelCreated := run_create_created driver kernel
          rw [run_bind_ok answered]
          dsimp only
          rw [run_checkError_bind driver (sound_of_effects longer createdSound).toInBounds,
            if_pos rfl, run_get_bind, run_bind_ok (run_issue driver _ _),
            run_bind_ok (run_kernelInit driver askedFresh _ _ _)]
          have ends : FillEnd driver slot filePath cmpOpt mainF state _ :=
            .filled source loaded program built kernel
          refine Eq.mp (congrArg (FillEnd driver slot filePath cmpOpt mainF state) ?_) ends
          apply congrArg (EStateM.Result.ok slot)
          simp only [asked, kernelCreated, after, call, State.setKernel, State.record,
            State.issued, State.answered, State.programBuilt, State.kernelFilled, kernelEvents,
            List.cons_append, List.nil_append, List.length_cons]
        · have failed : driver.status after.log.length ≠ 0#32 := kernel
          have longer := path.tail (.answered call trivial (.failed _ failed))
          have answered : (create driver call).run after =
              .ok (.null, driver.status after.log.length)
                (after.answered call (driver.status after.log.length) .null after.objects) :=
            run_create_failed driver failed
          rw [run_bind_ok answered]
          dsimp only
          rw [run_checkError_bind driver (sound_of_effects longer createdSound).toInBounds,
            if_neg failed]
          exact .programLeft source loaded program (.inr kernel) _ _ longer

/-- The program raised after some effects. -/
def Raises {α : Type} (state : State) (result : EStateM.Result Failure State α) : Prop :=
  ∃ msg failing, ReflTransGen (Effect driver) state failing ∧
    result = .error (.runtimeError msg) (failing.tornDown driver)

/-- The ends without their reasons. -/
theorem FillEnd.cases {slot : Fin 32} {filePath : String} {options : Option String} {name : String}
    {result : EStateM.Result Failure State (Fin 32)}
    (ends : FillEnd driver slot filePath options name state result) :
    Raises driver state result ∨
    ∃ (source : List (BitVec 8)) (status : BitVec 32) (size : BitVec 64),
      result = .ok slot (state.kernelFilled slot source options name status size) := by
  have malloc : ReflTransGen (Effect driver) state (state.record .malloc) := .single .malloc
  cases ends with
  | unread missing failing balanced =>
      left
      rcases balanced with rfl | rfl
      · exact ⟨_, failing, .refl, rfl⟩
      · exact ⟨_, _, malloc.tail .free, rfl⟩
  | programFailed source loaded failed =>
      have failure : Effect driver (state.record .malloc) _ :=
        .answered (.createProgramWithSource state.clcontext source) trivial (.failed _ failed)
      exact .inl ⟨_, _, malloc.tail failure, rfl⟩
  | programLeft source loaded created failed msg failing path =>
      have creation := effect_programCreated driver source (state.record .malloc)
      exact .inl ⟨msg, failing, (malloc.tail creation).trans path, rfl⟩
  | filled source => exact .inr ⟨source, _, _, rfl⟩

/-- How `create_kernel` ends: it refuses before it does anything, or it takes a slot. -/
theorem createKernel_ends (sound : Sound state) (filePath : String) (cmpOpt : Option String)
    (mainF : String) :
    (¬ (state.initialized = true ∧ state.kernelCount < 32) ∧
      (∃ msg, (createKernel driver filePath cmpOpt mainF).run state =
        .error (.runtimeError msg) (state.tornDown driver)) ∧
      (state.initialized = false → (createKernel driver filePath cmpOpt mainF).run state =
        .error notInitialized (state.tornDown driver))) ∨
    (state.initialized = true ∧ state.kernelCount < 32) ∧
      ∃ slot : Fin 32, slot.val = state.kernelCount ∧
        FillEnd driver slot filePath cmpOpt mainF (state.kernelSlotTaken slot)
          ((createKernel driver filePath cmpOpt mainF).run state) := by
  have inBounds := sound.toInBounds
  unfold createKernel
  rw [run_get_bind, run_check_bind driver inBounds]
  cases initialized : state.initialized with
  | false => exact .inl ⟨by simp, ⟨_, rfl⟩, fun _ => rfl⟩
  | true =>
      rw [if_pos rfl, run_get_bind, run_check_bind driver inBounds]
      by_cases room : state.kernelCount < 32
      · let slot : Fin 32 := ⟨state.kernelCount, room⟩
        have taken : Effect driver state (state.kernelSlotTaken slot) := .kernelTaken slot rfl
        have fresh : ((state.kernelSlotTaken slot).kernels slot).initialized = false :=
          sound.freshKernel slot (Nat.le_refl _)
        rw [if_pos (decide_eq_true room), run_get_bind, run_bind_ok (run_slotAt room state),
          run_modify_bind, run_bind_ok (run_note _ _)]
        exact .inr ⟨⟨rfl, room⟩, slot, rfl,
          fillKernel_ends driver (taken.sound sound) fresh filePath cmpOpt mainF⟩
      · rw [if_neg (by simpa using room)]
        exact .inl ⟨by simpa using room, ⟨_, rfl⟩, nofun⟩

theorem createKernel_cases (sound : Sound state) (filePath : String) (cmpOpt : Option String)
    (mainF : String) :
    (createKernel driver filePath cmpOpt mainF).run state =
      .error notInitialized (state.tornDown driver) ∧ state.initialized = false ∨
    state.initialized = true ∧
      (Raises driver state ((createKernel driver filePath cmpOpt mainF).run state) ∨
      ∃ slot : Fin 32, slot.val = state.kernelCount ∧
        ∃ (source : List (BitVec 8)) (status : BitVec 32) (size : BitVec 64),
          (createKernel driver filePath cmpOpt mainF).run state = .ok slot
            ((state.kernelSlotTaken slot).kernelFilled slot source cmpOpt mainF status size)) := by
  rcases createKernel_ends driver sound filePath cmpOpt mainF with
    ⟨_, ⟨msg, refused⟩, unmarked⟩ | ⟨⟨initialized, _⟩, slot, next, ends⟩
  · cases initialized : state.initialized with
    | false => exact .inl ⟨unmarked initialized, rfl⟩
    | true => exact .inr ⟨rfl, .inl ⟨msg, state, .refl, refused⟩⟩
  · refine .inr ⟨initialized, ?_⟩
    have taken : Effect driver state (state.kernelSlotTaken slot) := .kernelTaken slot next
    rcases ends.cases with ⟨msg, failing, path, raised⟩ | ⟨source, status, size, filled⟩
    · exact .inl ⟨msg, failing, ReflTransGen.head taken path, raised⟩
    · exact .inr ⟨slot, next, source, status, size, filled⟩

theorem createKernel_returned (sound : Sound state) {filePath : String} {cmpOpt : Option String}
    {mainF : String} {slot : Fin 32} {after : State}
    (ran : (createKernel driver filePath cmpOpt mainF).run state = .ok slot after) :
    slot.val = state.kernelCount ∧ ∃ (source : List (BitVec 8)) (status : BitVec 32)
      (size : BitVec 64), after =
        (state.kernelSlotTaken slot).kernelFilled slot source cmpOpt mainF status size := by
  rcases createKernel_cases driver sound filePath cmpOpt mainF with
    ⟨refused, _⟩ | ⟨_, ⟨msg, failing, _, raised⟩ | ⟨taken, next, source, status, size, filled⟩⟩
  · rw [refused] at ran
    cases ran
  · rw [raised] at ran
    cases ran
  · rw [filled] at ran
    cases ran
    exact ⟨next, source, status, size, rfl⟩

end Runs

end OpenClHash.Wrapper
