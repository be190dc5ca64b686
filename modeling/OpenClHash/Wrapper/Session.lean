import OpenClHash.Sizing.Validation
import OpenClHash.Wrapper.Operations

/-!
Owns the caller of the wrapper: sessions of operations on the pointers that earlier
operations returned, with every exception caught, and the life of a `Context` from its
constructor over such a session to its destructor.
-/

namespace OpenClHash.Wrapper

open OpenClHash.Sizing OpenClHash.Library.Fallible Relation

/-! ### Operations of a caller -/

/-- A public operation of `Context`, `MemoryHandler` or `Kernel` with its arguments; a slot
stands for a pointer into `_allocations` or `_kernels`. -/
inductive Op where
  | init
  | displayOpenclInfo
  | block
  | checkError (errCode : BitVec 32) (msg : String)
  | allocate (flags size : BitVec 64)
  | createKernel (filePath : String) (cmpOpt : Option String) (mainF : String)
  | readBuffer (buffer : Fin 32) (offset size : BitVec 64) (blocking : Bool)
  | readWhole (buffer : Fin 32) (blocking : Bool)
  | writeBuffer (buffer : Fin 32) (offset size : BitVec 64) (source : List (BitVec 8))
      (blocking : Bool)
  | writeWhole (buffer : Fin 32) (source : List (BitVec 8)) (blocking : Bool)
  | zerosFloat (buffer : Fin 32) (blocking : Bool)
  | release (buffer : Fin 32)
  | pushArg (kernel : Fin 32) (argSize : BitVec 64) (value : List (BitVec 8))
  | pushBuffer (kernel buffer : Fin 32)
  | execute (kernel : Fin 32) (workDim : BitVec 32) (globalWorkSize : List (BitVec 64))
      (localWorkSize : Option (List (BitVec 64)))
  | cleanupKernel (kernel : Fin 32)

/-- The pointer an operation returns. -/
inductive Returned where
  | nothing
  | buffer (slot : Fin 32)
  | kernel (slot : Fin 32)
deriving DecidableEq, Repr

namespace Op

/-- The buffers an operation is given. -/
def buffers : Op → List (Fin 32)
  | .readBuffer buffer _ _ _ | .readWhole buffer _ | .writeBuffer buffer _ _ _ _
  | .writeWhole buffer _ _ | .zerosFloat buffer _ | .release buffer | .pushBuffer _ buffer =>
      [buffer]
  | _ => []

/-- The kernels an operation is given. -/
def kernels : Op → List (Fin 32)
  | .pushArg kernel _ _ | .pushBuffer kernel _ | .execute kernel _ _ _ | .cleanupKernel kernel =>
      [kernel]
  | _ => []

def perform (driver : Driver) : Op → Cl Returned
  | .init => (fun _ => .nothing) <$> Wrapper.init driver
  | .displayOpenclInfo => (fun _ => .nothing) <$> Wrapper.displayOpenclInfo driver
  | .block => (fun _ => .nothing) <$> Wrapper.block driver
  | .checkError errCode msg => (fun _ => .nothing) <$> Wrapper.checkError driver errCode msg
  | .allocate flags size => .buffer <$> Wrapper.allocate driver flags size
  | .createKernel filePath cmpOpt mainF =>
      .kernel <$> Wrapper.createKernel driver filePath cmpOpt mainF
  | .readBuffer buffer offset size blocking =>
      (fun _ => .nothing) <$> Wrapper.readBuffer driver buffer offset size blocking
  | .readWhole buffer blocking =>
      (fun _ => .nothing) <$> Wrapper.readWhole driver buffer blocking
  | .writeBuffer buffer offset size source blocking =>
      (fun _ => .nothing) <$> Wrapper.writeBuffer driver buffer offset size source blocking
  | .writeWhole buffer source blocking =>
      (fun _ => .nothing) <$> Wrapper.writeWhole driver buffer source blocking
  | .zerosFloat buffer blocking =>
      (fun _ => .nothing) <$> Wrapper.zerosFloat driver buffer blocking
  | .release buffer => (fun _ => .nothing) <$> Wrapper.release driver buffer
  | .pushArg kernel argSize value =>
      (fun _ => .nothing) <$> Wrapper.pushArg driver kernel argSize (.bytes value)
  | .pushBuffer kernel buffer => (fun _ => .nothing) <$> Wrapper.pushBuffer driver kernel buffer
  | .execute kernel workDim globalWorkSize localWorkSize =>
      (fun _ => .nothing) <$> Wrapper.execute driver kernel workDim globalWorkSize localWorkSize
  | .cleanupKernel kernel => (fun _ => .nothing) <$> Wrapper.cleanupKernel driver kernel

end Op

/-! ### Sessions -/

/-- A `Context` and the pointers its operations have returned. -/
structure Session where
  context : State
  buffers : List (Fin 32)
  kernels : List (Fin 32)

namespace Session

def start (garbage : Garbage) : Session where
  context := .constructed garbage
  buffers := []
  kernels := []

/-- The session after an operation returned. -/
def returned (value : Returned) (context : State) (session : Session) : Session :=
  match value with
  | .nothing => { session with context := context }
  | .buffer slot => { session with context := context, buffers := slot :: session.buffers }
  | .kernel slot => { session with context := context, kernels := slot :: session.kernels }

/-- Every pointer the operation is given was returned before. -/
def Provides (session : Session) (op : Op) : Prop :=
  (∀ buffer ∈ op.buffers, buffer ∈ session.buffers) ∧
    ∀ kernel ∈ op.kernels, kernel ∈ session.kernels

instance (session : Session) (op : Op) : Decidable (session.Provides op) := by
  unfold Provides
  infer_instance

variable (driver : Driver)

/-- One operation, its exception caught; nothing follows undefined behaviour. -/
def step (session : Session) (op : Op) : Option Session :=
  if session.Provides op then
    match (op.perform driver).run session.context with
    | .ok value context => some (session.returned value context)
    | .error (.runtimeError _) context => some { session with context := context }
    | .error _ _ => none
  else none

def run (session : Session) : List Op → Option Session
  | [] => some session
  | op :: rest => (session.step driver op).bind fun next => next.run rest

/-- The life of a `Context`: what its destructor leaves after a session. -/
def life (garbage : Garbage) (ops : List Op) : Option State :=
  match (start garbage).run driver ops with
  | none => none
  | some session =>
      match (cleanup driver).run session.context with
      | .ok _ ended => some ended
      | .error _ _ => none

end Session

/-! ### How an operation ends -/

section Outcomes

variable {driver : Driver} {before state : State}

theorem outcome_afterCall (path : ReflTransGen (Effect driver) before state) {call : ClCall}
    (inert : call.Inert) (failed : String) :
    Outcome driver before (afterCall driver call failed state) := by
  have longer := path.tail (effect_issued driver state inert)
  unfold afterCall
  by_cases success : driver.status state.log.length = 0#32
  · rw [if_pos success]
    exact .returned () _ longer
  · rw [if_neg success]
    exact .raised failed _ longer

theorem Outcome.map {α β : Type} (change : α → β) {program : Cl α}
    (outcome : Outcome driver state (program.run state)) :
    Outcome driver state ((change <$> program).run state) := by
  rw [run_map]
  generalize program.run state = result at outcome
  cases outcome with
  | returned value after path => exact .returned (change value) after path
  | raised msg failing path => exact .raised msg failing path
  | undefined failure after noException inside =>
      exact .undefined failure after noException inside

theorem outcome_of_raises {α : Type} {result : EStateM.Result Failure State α}
    (raises : Raises driver state result) : Outcome driver state result := by
  rcases raises with ⟨msg, failing, path, rfl⟩
  exact .raised msg failing path

theorem outcome_of_onlyAsks {α : Type} {program : Cl α} (asks : OnlyAsks driver program)
    (sound : Sound state) : Outcome driver state (program.run state) := by
  rcases asks.cases sound.toInBounds with
    ⟨value, after, ran, path⟩ | ⟨msg, failing, ran, path⟩ | ⟨after, ran, _⟩
  · rw [ran]
    exact .returned value after (effects_of_quiet driver path)
  · rw [ran]
    exact .raised msg failing (effects_of_quiet driver path)
  · rw [ran]
    exact .undefined _ after nofun nofun

/-- An outcome after some effects. -/
theorem Outcome.of_effects {α : Type} {result : EStateM.Result Failure State α}
    (path : ReflTransGen (Effect driver) before state) (outcome : Outcome driver state result) :
    Outcome driver before result := by
  cases outcome with
  | returned value after rest => exact .returned value after (path.trans rest)
  | raised msg failing rest => exact .raised msg failing (path.trans rest)
  | undefined failure after noException inside =>
      exact .undefined failure after noException inside

theorem handlesCreated_effects (driver : Driver) (state : State) :
    ReflTransGen (Effect driver) state state.handlesCreated := by
  have context : Effect driver state state.contextCreated := .contextAssigned .created
  exact (ReflTransGen.single context).tail .queueCreated

theorem outcome_createHandles (sound : Sound state) :
    Outcome driver state ((createHandles driver).run state) := by
  rcases createHandles_cases driver sound.toInBounds with
    ⟨status, msg, nonzero, ran⟩ | ⟨status, msg, nonzero, ran⟩ | ran
  · rw [ran]
    exact .raised msg _ (.single (.contextAssigned (.failed status nonzero)))
  · have context : Effect driver state state.contextCreated := .contextAssigned .created
    rw [ran]
    exact .raised msg _
      ((ReflTransGen.single context).tail (.queueFailed status nonzero))
  · rw [ran]
    exact .returned () _ (handlesCreated_effects driver state)

theorem outcome_init (sound : Sound state) :
    Outcome driver state ((init driver).run state) := by
  unfold init
  rcases onlyAsks_selectDevice.cases sound.toInBounds with
    ⟨value, after, ran, path⟩ | ⟨msg, failing, ran, path⟩ | ⟨after, ran, _⟩
  · have effects := effects_of_quiet driver path
    rw [run_bind_ok ran]
    exact (outcome_createHandles (sound_of_effects effects sound)).of_effects effects
  · rw [run_bind_error ran]
    exact .raised msg failing (effects_of_quiet driver path)
  · rw [run_bind_error ran]
    exact .undefined _ after nofun nofun

theorem outcome_checkError (sound : Sound state) (errCode : BitVec 32) (msg : String) :
    Outcome driver state ((checkError driver errCode msg).run state) := by
  rw [run_checkError driver sound.toInBounds]
  by_cases success : errCode = 0#32
  · rw [if_pos success]
    exact .returned () state .refl
  · rw [if_neg success]
    exact .raised msg state .refl

theorem outcome_block (sound : Sound state) :
    Outcome driver state ((block driver).run state) := by
  have flushed := effect_issued driver state
    (show (ClCall.flush state.clcommandQueue).Inert from trivial)
  rw [run_block driver sound.toInBounds]
  dsimp only
  by_cases success : driver.status state.log.length = 0#32
  · rw [if_pos success]
    exact outcome_afterCall (.single flushed) (by trivial) _
  · rw [if_neg success]
    exact .raised _ _ (.single flushed)

theorem outcome_allocate (sound : Sound state) (flags size : BitVec 64) :
    Outcome driver state ((allocate driver flags size).run state) := by
  rcases allocate_cases driver sound.toInBounds flags size with
    ⟨ran, _⟩ | ⟨_, ⟨msg, ran⟩ | ⟨slot, next, status, result, objects, answer, ran⟩⟩
  · rw [ran]
    exact .raised _ state .refl
  · rw [ran]
    exact .raised msg state .refl
  · have allocated : Effect driver state _ := .allocated slot flags size next answer
    rw [ran]
    dsimp only
    by_cases success : status = 0#32
    · rw [if_pos success]
      exact .returned slot _ (.single allocated)
    · rw [if_neg success]
      exact .raised _ _ (.single allocated)

theorem outcome_createKernel (sound : Sound state) (filePath : String) (cmpOpt : Option String)
    (mainF : String) :
    Outcome driver state ((createKernel driver filePath cmpOpt mainF).run state) := by
  rcases createKernel_cases driver sound filePath cmpOpt mainF with
    ⟨ran, _⟩ | ⟨_, raises | ⟨slot, next, source, status, size, ran⟩⟩
  · rw [ran]
    exact .raised _ state .refl
  · exact outcome_of_raises raises
  · rw [ran]
    exact .returned slot _ (.single (.kernelCreated slot source cmpOpt mainF status size next))

theorem outcome_transfer (sound : Sound state) (slot : Fin 32) (size : BitVec 64)
    (tooMuch failed : String) {command : Handle → Handle → ClCall}
    (inert : ∀ queue buffer, (command queue buffer).Inert) :
    Outcome driver state ((transfer driver slot size tooMuch failed command).run state) := by
  rw [run_transfer driver sound.toInBounds]
  by_cases initialized : state.initialized
  · rw [if_pos initialized]
    by_cases fits : size ≤ (state.allocations slot).size
    · rw [if_pos fits]
      exact outcome_afterCall .refl (inert _ _) failed
    · rw [if_neg fits]
      exact .raised tooMuch state .refl
  · rw [if_neg initialized]
    exact .raised _ state .refl

theorem outcome_readBuffer (sound : Sound state) (slot : Fin 32) (offset size : BitVec 64)
    (blocking : Bool) :
    Outcome driver state ((readBuffer driver slot offset size blocking).run state) := by
  apply outcome_transfer sound slot size
  intro queue buffer
  trivial

theorem outcome_writeBuffer (sound : Sound state) (slot : Fin 32) (offset size : BitVec 64)
    (source : List (BitVec 8)) (blocking : Bool) :
    Outcome driver state ((writeBuffer driver slot offset size source blocking).run state) := by
  apply outcome_transfer sound slot size
  intro queue buffer
  trivial

theorem outcome_pushArg (sound : Sound state) (slot : Fin 32) (argSize : BitVec 64)
    (argValue : ArgValue) :
    Outcome driver state ((pushArg driver slot argSize argValue).run state) := by
  have pushed := effect_issued driver state (show (ClCall.setKernelArg (state.kernels slot).kernelId
    (state.kernels slot).argStackSize argSize argValue).Inert from trivial)
  rw [run_pushArg driver sound.toInBounds]
  dsimp only
  by_cases success : driver.status state.log.length = 0#32
  · rw [if_pos success]
    exact .returned () _ ((ReflTransGen.single pushed).tail (.argStack slot _))
  · rw [if_neg success]
    exact .raised _ _ (.single pushed)

theorem outcome_execute (sound : Sound state) (slot : Fin 32) (workDim : BitVec 32)
    (globalWorkSize : List (BitVec 64)) (localWorkSize : Option (List (BitVec 64))) :
    Outcome driver state
      ((execute driver slot workDim globalWorkSize localWorkSize).run state) := by
  rw [run_execute driver sound.toInBounds]
  by_cases initialized : state.initialized
  · rw [if_pos initialized]
    have inside := avoids_checkWorkParameters state.device
      (state.kernels slot).maxWorkGroupSize workDim globalWorkSize localWorkSize
    generalize checkWorkParameters state.device (state.kernels slot).maxWorkGroupSize workDim
      globalWorkSize localWorkSize = checked at inside
    cases checked with
    | ok value =>
        cases value
        exact outcome_afterCall (.single (.argStack slot 0)) (by trivial) _
    | error failure =>
        cases failure with
        | runtimeError msg => exact .raised msg state .refl
        | slotOutOfBounds => exact absurd rfl inside
        | outOfBounds | typeOutOfBounds | divisionByZero | signedOverflow | undefinedShift =>
            exact .undefined _ state nofun nofun
  · rw [if_neg initialized]
    exact .raised _ state .refl

/-- No operation of a caller leaves an array. -/
theorem perform_outcome (sound : Sound state) {op : Op}
    (buffers : ∀ buffer ∈ op.buffers, buffer.val < state.allocationCount)
    (kernels : ∀ kernel ∈ op.kernels, kernel.val < state.kernelCount) :
    Outcome driver state ((op.perform driver).run state) := by
  cases op with
  | init => exact (outcome_init sound).map _
  | displayOpenclInfo => exact (outcome_of_onlyAsks onlyAsks_displayOpenclInfo sound).map _
  | block => exact (outcome_block sound).map _
  | checkError errCode msg => exact (outcome_checkError sound errCode msg).map _
  | allocate flags size => exact (outcome_allocate sound flags size).map _
  | createKernel filePath cmpOpt mainF =>
      exact (outcome_createKernel sound filePath cmpOpt mainF).map _
  | readBuffer buffer offset size blocking =>
      exact (outcome_readBuffer sound buffer offset size blocking).map _
  | readWhole buffer blocking =>
      apply Outcome.map
      rw [run_readWhole]
      exact outcome_readBuffer sound buffer 0#64 _ blocking
  | writeBuffer buffer offset size source blocking =>
      exact (outcome_writeBuffer sound buffer offset size source blocking).map _
  | writeWhole buffer source blocking =>
      apply Outcome.map
      rw [run_writeWhole]
      exact outcome_writeBuffer sound buffer 0#64 _ source blocking
  | zerosFloat buffer blocking =>
      apply Outcome.map
      rw [run_zerosFloat]
      exact outcome_writeBuffer sound buffer 0#64 _ _ blocking
  | release buffer =>
      apply Outcome.map
      rw [run_release]
      exact .returned () _ (.single (.released buffer (buffers buffer List.mem_cons_self)))
  | pushArg kernel argSize value => exact (outcome_pushArg sound kernel argSize _).map _
  | pushBuffer kernel buffer =>
      apply Outcome.map
      unfold pushBuffer
      rw [run_get_bind]
      exact outcome_pushArg sound kernel _ _
  | execute kernel workDim globalWorkSize localWorkSize =>
      exact (outcome_execute sound kernel workDim globalWorkSize localWorkSize).map _
  | cleanupKernel kernel =>
      apply Outcome.map
      rw [run_cleanupKernel]
      exact .returned () _ (.single (.cleaned kernel (kernels kernel List.mem_cons_self)))

/-- What a returned pointer promises: a taken slot, and for a buffer a stored handle. -/
def Returned.Taken (state : State) : Returned → Prop
  | .nothing => True
  | .buffer slot =>
      slot.val < state.allocationCount ∧ (state.allocations slot).handle.isNull = false
  | .kernel slot => slot.val < state.kernelCount

theorem taken_of_extends {later : State} {value : Returned} (grown : Extends state later)
    (taken : value.Taken state) : value.Taken later := by
  cases value with
  | nothing => trivial
  | buffer slot =>
      refine ⟨taken.1.trans_le grown.allocationCount, ?_⟩
      rw [grown.handle slot taken.1]
      exact taken.2
  | kernel slot => exact Nat.lt_of_lt_of_le taken grown.kernelCount

/-- The call that returned a pointer. -/
def Returned.From (driver : Driver) (state after : State) : Returned → Prop
  | .nothing => True
  | .buffer slot => ∃ flags size, (allocate driver flags size).run state = .ok slot after
  | .kernel slot => ∃ filePath cmpOpt mainF,
      (createKernel driver filePath cmpOpt mainF).run state = .ok slot after

/-- Only `allocate` returns a buffer, and only `create_kernel` a kernel. -/
theorem perform_from {op : Op} {value : Returned} {after : State}
    (ran : (op.perform driver).run state = .ok value after) : value.From driver state after := by
  cases op with
  | allocate flags size =>
      obtain ⟨slot, allocated, rfl⟩ := returned_of_map ran
      exact ⟨flags, size, allocated⟩
  | createKernel filePath cmpOpt mainF =>
      obtain ⟨slot, created, rfl⟩ := returned_of_map ran
      exact ⟨filePath, cmpOpt, mainF, created⟩
  | init | displayOpenclInfo | block | checkError | readBuffer | readWhole | writeBuffer
  | writeWhole | zerosFloat | release | pushArg | pushBuffer | execute | cleanupKernel =>
      obtain ⟨_, _, rfl⟩ := returned_of_map ran
      trivial

theorem perform_taken (sound : Sound state) {op : Op} {value : Returned} {after : State}
    (ran : (op.perform driver).run state = .ok value after) : value.Taken after := by
  have origin := perform_from ran
  cases value with
  | nothing => trivial
  | buffer slot =>
      obtain ⟨flags, size, allocated⟩ := origin
      obtain ⟨_, next, rfl⟩ := allocate_returned driver sound.toInBounds allocated
      refine ⟨Nat.lt_succ_of_le (Nat.le_of_eq next), ?_⟩
      show (Function.update state.allocations slot _ slot).handle.isNull = false
      rw [Function.update_self]
      rfl
  | kernel slot =>
      obtain ⟨filePath, cmpOpt, mainF, created⟩ := origin
      obtain ⟨next, source, status, size, rfl⟩ := createKernel_returned driver sound created
      exact Nat.lt_succ_of_le (Nat.le_of_eq next)

end Outcomes

/-! ### Steps of a session -/

namespace Session

/-- The context is sound and every returned pointer names a taken slot. -/
structure Valid (session : Session) : Prop where
  context : Sound session.context
  buffers : ∀ slot ∈ session.buffers, (Returned.buffer slot).Taken session.context
  kernels : ∀ slot ∈ session.kernels, (Returned.kernel slot).Taken session.context

theorem valid_start (garbage : Garbage) : (start garbage).Valid where
  context := sound_constructed garbage
  buffers := nofun
  kernels := nofun

variable {driver : Driver} {session next : Session} {op : Op}

theorem step_cases (stepped : session.step driver op = some next) :
    session.Provides op ∧
      ((∃ value context, (op.perform driver).run session.context = .ok value context ∧
        next = session.returned value context) ∨
      ∃ msg context, (op.perform driver).run session.context = .error (.runtimeError msg) context ∧
        next = { session with context := context }) := by
  unfold step at stepped
  by_cases provides : session.Provides op
  · rw [if_pos provides] at stepped
    refine ⟨provides, ?_⟩
    generalize (op.perform driver).run session.context = result at stepped ⊢
    cases result with
    | ok value context =>
        cases stepped
        exact .inl ⟨value, context, rfl, rfl⟩
    | error failure context =>
        cases failure with
        | runtimeError msg =>
            cases stepped
            exact .inr ⟨msg, context, rfl, rfl⟩
        | outOfBounds | slotOutOfBounds | typeOutOfBounds | divisionByZero | signedOverflow
        | undefinedShift => cases stepped
  · rw [if_neg provides] at stepped
    cases stepped

theorem Valid.outcome (valid : session.Valid) (provides : session.Provides op) :
    Outcome driver session.context ((op.perform driver).run session.context) := by
  apply perform_outcome valid.context
  · intro buffer given
    exact (valid.buffers buffer (provides.1 buffer given)).1
  · intro kernel given
    exact valid.kernels kernel (provides.2 kernel given)

@[simp] theorem returned_context (value : Returned) (context : State) :
    (session.returned value context).context = context := by
  cases value <;> rfl

/-- A step of a session is a sequence of effects. -/
theorem step_effects (valid : session.Valid) (stepped : session.step driver op = some next) :
    ReflTransGen (Effect driver) session.context next.context := by
  rcases step_cases stepped with ⟨provides, returned | raised⟩
  · rcases returned with ⟨value, context, ran, rfl⟩
    have outcome : Outcome driver session.context _ := valid.outcome provides
    rw [ran] at outcome
    cases outcome with
    | returned _ _ path => simpa using path
  · rcases raised with ⟨msg, context, ran, rfl⟩
    have outcome : Outcome driver session.context _ := valid.outcome provides
    rw [ran] at outcome
    cases outcome with
    | raised _ failing path =>
        exact path.trans (tornDown_effects driver (sound_of_effects path valid.context))
    | undefined _ _ noException => exact absurd rfl (noException msg)

theorem step_valid (valid : session.Valid) (stepped : session.step driver op = some next) :
    next.Valid := by
  have effects := step_effects valid stepped
  have grown := extends_of_effects effects
  have sound := sound_of_effects effects valid.context
  have buffers : ∀ slot ∈ session.buffers, (Returned.buffer slot).Taken next.context :=
    fun slot member => taken_of_extends grown (valid.buffers slot member)
  have kernels : ∀ slot ∈ session.kernels, (Returned.kernel slot).Taken next.context :=
    fun slot member => taken_of_extends grown (valid.kernels slot member)
  rcases step_cases stepped with ⟨_, returned | raised⟩
  · rcases returned with ⟨value, context, ran, rfl⟩
    have taken := perform_taken valid.context ran
    cases value with
    | nothing => exact ⟨sound, buffers, kernels⟩
    | buffer slot => exact ⟨sound, List.forall_mem_cons.mpr ⟨taken, buffers⟩, kernels⟩
    | kernel slot => exact ⟨sound, buffers, List.forall_mem_cons.mpr ⟨taken, kernels⟩⟩
  · rcases raised with ⟨msg, context, ran, rfl⟩
    exact ⟨sound, buffers, kernels⟩

/-! ### Runs of a session -/

theorem run_cases {rest : List Op} {last : Session}
    (ran : session.run driver (op :: rest) = some last) :
    ∃ next, session.step driver op = some next ∧ next.run driver rest = some last :=
  Option.bind_eq_some_iff.mp ran

theorem run_append (session : Session) (ops rest : List Op) :
    session.run driver (ops ++ rest) =
      (session.run driver ops).bind fun next => next.run driver rest := by
  induction ops generalizing session with
  | nil => rfl
  | cons op ops inductionHypothesis =>
      show (session.step driver op).bind _ = ((session.step driver op).bind _).bind _
      rw [Option.bind_assoc]
      congr 1
      funext next
      exact inductionHypothesis next

theorem run_valid (valid : session.Valid) {ops : List Op}
    (ran : session.run driver ops = some next) : next.Valid := by
  induction ops generalizing session with
  | nil =>
      cases ran
      exact valid
  | cons op rest inductionHypothesis =>
      rcases run_cases ran with ⟨between, stepped, rest⟩
      exact inductionHypothesis (step_valid valid stepped) rest

/-- What every effect keeps holds after a run. -/
theorem run_preserves {property : State → Prop}
    (keeps : ∀ before after, Sound before → property before → Effect driver before after →
      property after)
    (valid : session.Valid) (holds : property session.context) {ops : List Op}
    (ran : session.run driver ops = some next) : property next.context := by
  induction ops generalizing session with
  | nil =>
      cases ran
      exact holds
  | cons op rest inductionHypothesis =>
      rcases run_cases ran with ⟨between, stepped, rest⟩
      have kept := preserved_of_effects keeps (step_effects valid stepped) valid.context holds
      exact inductionHypothesis (step_valid valid stepped) kept rest

/-- The destructor tears down what a session left. -/
theorem life_cases {garbage : Garbage} {ops : List Op} {ended : State}
    (lived : life driver garbage ops = some ended) :
    ∃ last : Session, (start garbage).run driver ops = some last ∧ last.Valid ∧
      ended = last.context.tornDown driver := by
  unfold life at lived
  cases ran : (start garbage).run driver ops with
  | none =>
      rw [ran] at lived
      cases lived
  | some last =>
      have valid := run_valid (valid_start garbage) ran
      rw [ran] at lived
      dsimp only at lived
      rw [run_cleanup driver valid.context.toInBounds] at lived
      cases lived
      exact ⟨last, rfl, valid, rfl⟩

/-- What every effect keeps holds at the end of a life. -/
theorem life_preserves {property : State → Prop}
    (keeps : ∀ before after, Sound before → property before → Effect driver before after →
      property after)
    {garbage : Garbage} (holds : property (.constructed garbage)) {ops : List Op} {ended : State}
    (lived : life driver garbage ops = some ended) : property ended := by
  rcases life_cases lived with ⟨last, ran, valid, rfl⟩
  have kept := run_preserves keeps (valid_start garbage) holds ran
  exact preserved_of_effects keeps (tornDown_effects driver valid.context) valid.context kept

end Session

/-! ### Drivers for single runs -/

/-- One platform with one device, one source file, and an error in answer to one event. -/
def Driver.failingAt (failing : Nat) : Driver where
  status := fun earlier => if earlier = failing then BitVec.ofInt 32 (-4) else 0#32
  platformCount := fun _ => 1#32
  deviceCount := fun _ => 1#32
  deviceInfo := fun _ => ⟨4#64, 32#32, 1024#64, #v[1024#64, 1024#64, 64#64]⟩
  kernelWorkGroupSize := fun _ => 1024#64
  file := fun _ _ => some [0#8]
  readFails := fun _ => false

/-- Every call succeeds on a device with these limits. -/
def Driver.succeeding (info : DeviceInfo) : Driver :=
  { Driver.failingAt 0 with status := fun _ => 0#32, deviceInfo := fun _ => info }

/-- Both handle members hold `bits` when the constructor runs. -/
def Garbage.filled (bits : Nat) : Garbage where
  clcontext := bits
  clcommandQueue := bits
  device := ⟨0#64, 0#32, 0#64, #v[0#64, 0#64, 0#64]⟩

end OpenClHash.Wrapper
