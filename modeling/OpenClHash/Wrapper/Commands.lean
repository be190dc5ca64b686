import OpenClHash.Wrapper.Liveness

/-!
Owns the runs in which no command uses a dead object. An operation keeps a context live
exactly when the flags allow its arguments and none of its checks fails in a context that
`init` has marked.
-/

namespace OpenClHash.Wrapper

open OpenClHash.Library OpenClHash.Library.Fallible OpenClHash.Library.Lifetime
open OpenClHash.Sizing Relation

/-! ### Safe steps -/

namespace Op

/-- What no operation checks: `block` needs a marked context, the operations on a buffer
one that was not released, and those on a kernel one that was not cleaned up. -/
def Allowed (state : State) : Op → Prop
  | .block => state.initialized = true
  | .readBuffer buffer _ _ _ | .readWhole buffer _ | .writeBuffer buffer _ _ _ _
  | .writeWhole buffer _ _ | .zerosFloat buffer _ =>
      state.initialized = true → (state.allocations buffer).released = false
  | .execute kernel _ _ _ =>
      state.initialized = true → (state.kernels kernel).initialized = true
  | .pushArg kernel _ _ => (state.kernels kernel).initialized = true
  | .pushBuffer kernel buffer =>
      (state.kernels kernel).initialized = true ∧ (state.allocations buffer).released = false
  | .init | .displayOpenclInfo | .checkError _ _ | .allocate _ _ | .createKernel _ _ _
  | .release _ | .cleanupKernel _ => True

instance (state : State) : (op : Op) → Decidable (op.Allowed state)
  | .block => inferInstanceAs (Decidable (_ = true))
  | .readBuffer _ _ _ _ | .readWhole _ _ | .writeBuffer _ _ _ _ _ | .writeWhole _ _ _
  | .zerosFloat _ _ => inferInstanceAs (Decidable (_ = true → _ = false))
  | .execute _ _ _ _ => inferInstanceAs (Decidable (_ = true → _ = true))
  | .pushArg _ _ _ => inferInstanceAs (Decidable (_ = true))
  | .pushBuffer _ _ => inferInstanceAs (Decidable (_ = true ∧ _ = false))
  | .init | .displayOpenclInfo | .checkError _ _ | .allocate _ _ | .createKernel _ _ _
  | .release _ | .cleanupKernel _ => isTrue trivial

/-- A check of the operation fails. -/
def Fails (driver : Driver) (state : State) (op : Op) : Prop :=
  ∃ msg after, (op.perform driver).run state = .error (.runtimeError msg) after

instance (driver : Driver) (state : State) (op : Op) : Decidable (op.Fails driver state) :=
  match ran : (op.perform driver).run state with
  | .error (.runtimeError msg) after => isTrue ⟨msg, after, ran⟩
  | .ok _ _ | .error .outOfBounds _ | .error .slotOutOfBounds _ | .error .typeOutOfBounds _
  | .error .divisionByZero _ | .error .signedOverflow _ | .error .undefinedShift _ =>
      isFalse fun ⟨_, _, fails⟩ => nomatch ran.symm.trans fails

end Op

/-- The arguments are allowed and no check fails in a marked context. -/
structure Session.Safe (driver : Driver) (session : Session) (op : Op) : Prop where
  allowed : op.Allowed session.context
  succeeds : session.context.initialized = true → ¬ op.Fails driver session.context

instance (driver : Driver) (session : Session) (op : Op) : Decidable (session.Safe driver op) :=
  decidable_of_iff (op.Allowed session.context ∧
      (session.context.initialized = true → ¬ op.Fails driver session.context))
    ⟨fun both => ⟨both.1, both.2⟩, fun safe => ⟨safe.allowed, safe.succeeds⟩⟩

/-! ### Safe steps keep a context live -/

/-- The operation leaves a live context, unless a check fails in a marked one. -/
def LeavesLive (state : State) {α : Type} : EStateM.Result Failure State α → Prop
  | .ok _ after => Live after
  | .error (.runtimeError _) after => state.initialized = false → Live after
  | .error _ _ => True

section Operations

variable {driver : Driver} {before state : State}

theorem leavesLive_map {α β : Type} (change : α → β) {program : Cl α}
    (leaves : LeavesLive state (program.run state)) :
    LeavesLive state ((change <$> program).run state) := by
  rw [run_map]
  generalize program.run state = result at leaves
  cases result with
  | ok value after => exact leaves
  | error failure after =>
      cases failure with
      | runtimeError msg => exact leaves
      | outOfBounds | slotOutOfBounds | typeOutOfBounds | divisionByZero | signedOverflow
      | undefinedShift =>
          trivial

theorem leavesLive_afterCall (live : Live state) (same : state.initialized = before.initialized)
    {call : ClCall} (inert : call.Inert)
    (alive : ∀ resource ∈ call.uses, Alive lifetimes state.log resource) (failed : String) :
    LeavesLive before (afterCall driver call failed state) := by
  have issued : Live (state.issued driver call) := live.call inert _ alive
  unfold afterCall
  by_cases success : driver.status state.log.length = 0#32
  · rw [if_pos success]
    exact issued
  · rw [if_neg success]
    intro unmarked
    exact issued.tornDown (same.trans unmarked)

theorem leavesLive_transfer (live : Live state) (sound : Sound state) (owned : Owned state)
    {slot : Fin 32} (something : (state.allocations slot).handle.isNull = false)
    (unreleased : state.initialized = true → (state.allocations slot).released = false)
    (size : BitVec 64) (tooMuch failed : String) {command : Handle → Handle → ClCall}
    (inert : ∀ queue buffer, (command queue buffer).Inert)
    (uses : ∀ queue buffer, (command queue buffer).uses = [⟨.queue, queue⟩, ⟨.buffer, buffer⟩]) :
    LeavesLive state ((transfer driver slot size tooMuch failed command).run state) := by
  rw [run_transfer driver sound.toInBounds]
  by_cases marked : state.initialized = true
  · rw [if_pos marked]
    by_cases fits : size ≤ (state.allocations slot).size
    · rw [if_pos fits]
      refine leavesLive_afterCall live rfl (inert _ _) ?_ failed
      rw [uses]
      intro resource member
      rcases List.mem_cons.mp member with rfl | member
      · exact live.queue marked
      · rw [List.mem_singleton.mp member]
        exact owned.alive_buffer (unreleased marked) something
    · rw [if_neg fits]
      exact fun unmarked => live.tornDown unmarked
  · rw [if_neg marked]
    exact fun unmarked => live.tornDown unmarked

theorem leavesLive_readBuffer (live : Live state) (sound : Sound state) (owned : Owned state)
    {slot : Fin 32} (something : (state.allocations slot).handle.isNull = false)
    (unreleased : state.initialized = true → (state.allocations slot).released = false)
    (offset size : BitVec 64) (blocking : Bool) :
    LeavesLive state ((readBuffer driver slot offset size blocking).run state) := by
  apply leavesLive_transfer live sound owned something unreleased size
  · intro queue buffer
    trivial
  · intro queue buffer
    rfl

theorem leavesLive_writeBuffer (live : Live state) (sound : Sound state) (owned : Owned state)
    {slot : Fin 32} (something : (state.allocations slot).handle.isNull = false)
    (unreleased : state.initialized = true → (state.allocations slot).released = false)
    (offset size : BitVec 64) (source : List (BitVec 8)) (blocking : Bool) :
    LeavesLive state ((writeBuffer driver slot offset size source blocking).run state) := by
  apply leavesLive_transfer live sound owned something unreleased size
  · intro queue buffer
    trivial
  · intro queue buffer
    rfl

theorem leavesLive_pushArg (live : Live state) (sound : Sound state) (owned : Owned state)
    (flagged : Flagged state) {slot : Fin 32}
    (initialized : (state.kernels slot).initialized = true) (argSize : BitVec 64)
    {argValue : ArgValue}
    (argument : ∀ buffer, argValue = .memObject buffer →
      Alive lifetimes state.log ⟨.buffer, buffer⟩) :
    LeavesLive state ((pushArg driver slot argSize argValue).run state) := by
  have kernel := owned.alive_kernel flagged initialized
  have issued : Live (state.issued driver (.setKernelArg (state.kernels slot).kernelId
      (state.kernels slot).argStackSize argSize argValue)) := by
    apply live.call (by trivial)
    cases argValue with
    | bytes value => exact List.forall_mem_singleton.mpr kernel
    | memObject buffer =>
        exact List.forall_mem_cons.mpr ⟨kernel, List.forall_mem_singleton.mpr (argument buffer rfl)⟩
  rw [run_pushArg driver sound.toInBounds]
  dsimp only
  by_cases success : driver.status state.log.length = 0#32
  · rw [if_pos success]
    exact ⟨issued.uses, issued.context, issued.queue⟩
  · rw [if_neg success]
    exact fun unmarked => issued.tornDown unmarked

theorem leavesLive_execute (live : Live state) (sound : Sound state) (owned : Owned state)
    (flagged : Flagged state) {slot : Fin 32}
    (initialized : state.initialized = true → (state.kernels slot).initialized = true)
    (workDim : BitVec 32) (globalWorkSize : List (BitVec 64))
    (localWorkSize : Option (List (BitVec 64))) :
    LeavesLive state
      ((execute driver slot workDim globalWorkSize localWorkSize).run state) := by
  have reset : Live (state.stackReset slot) := ⟨live.uses, live.context, live.queue⟩
  rw [run_execute driver sound.toInBounds]
  by_cases marked : state.initialized = true
  · rw [if_pos marked]
    cases checkWorkParameters state.device (state.kernels slot).maxWorkGroupSize workDim
      globalWorkSize localWorkSize with
    | ok value =>
        cases value
        refine leavesLive_afterCall reset rfl (by trivial) ?_ _
        refine List.forall_mem_cons.mpr ⟨live.queue marked, List.forall_mem_singleton.mpr ?_⟩
        exact owned.alive_kernel flagged (initialized marked)
    | error failure =>
        cases failure with
        | runtimeError msg => exact fun unmarked => live.tornDown unmarked
        | outOfBounds | slotOutOfBounds | typeOutOfBounds | divisionByZero | signedOverflow
        | undefinedShift =>
            trivial
  · rw [if_neg marked]
    exact fun unmarked => live.tornDown unmarked

theorem leavesLive_block (live : Live state) (sound : Sound state)
    (marked : state.initialized = true) :
    LeavesLive state ((block driver).run state) := by
  have flushed : Live (state.issued driver (.flush state.clcommandQueue)) :=
    live.call (by trivial) _ (List.forall_mem_singleton.mpr (live.queue marked))
  rw [run_block driver sound.toInBounds]
  dsimp only
  by_cases success : driver.status state.log.length = 0#32
  · rw [if_pos success]
    refine leavesLive_afterCall flushed rfl (by trivial) ?_ _
    exact List.forall_mem_singleton.mpr (flushed.queue marked)
  · rw [if_neg success]
    exact fun unmarked => flushed.tornDown unmarked

theorem quiet_initialized {next : State} (path : ReflTransGen Quiet state next) :
    next.initialized = state.initialized := by
  induction path with
  | refl => rfl
  | tail _ quiet inductionHypothesis => cases quiet <;> exact inductionHypothesis

theorem leavesLive_of_onlyAsks {α : Type} {program : Cl α} (asks : OnlyAsks driver program)
    (live : Live state) (sound : Sound state) : LeavesLive state (program.run state) := by
  rcases asks.cases sound.toInBounds with
    ⟨value, after, ran, path⟩ | ⟨msg, failing, ran, path⟩ | ⟨after, ran, path⟩
  · rw [ran]
    exact live_of_quiet path live
  · rw [ran]
    intro unmarked
    exact (live_of_quiet path live).tornDown ((quiet_initialized path).trans unmarked)
  · rw [ran]
    trivial

theorem leavesLive_createHandles (live : Live state) (sound : Sound state)
    (bounded : Bounded state) (same : state.initialized = before.initialized) :
    LeavesLive before ((createHandles driver).run state) := by
  rcases createHandles_cases driver sound.toInBounds with
    ⟨status, msg, _, ran⟩ | ⟨status, msg, _, ran⟩ | ran
  · rw [ran]
    intro unmarked
    have unmarked : state.initialized = false := same.trans unmarked
    have failed : Live (state.contextAssigned status .null state.objects) :=
      live_of_unmarked (usesAlive_event rfl live.uses) unmarked
    exact failed.tornDown unmarked
  · rw [ran]
    intro unmarked
    have unmarked : state.initialized = false := same.trans unmarked
    have context : Alive lifetimes state.contextCreated.log ⟨.context, .object state.objects⟩ :=
      alive_created rfl rfl (bounded.fresh (Nat.le_refl _))
    have uses : UsesAlive lifetimes state.contextCreated.log := usesAlive_event rfl live.uses
    have failed : Live
        (state.contextCreated.queueAssigned status .null (state.objects + 1)) :=
      live_of_unmarked (usesAlive_event_of_alive rfl context uses) unmarked
    exact failed.tornDown unmarked
  · rw [ran]
    exact live_handlesCreated bounded live.uses

theorem bounded_of_effects {next : State} (path : ReflTransGen (Effect driver) state next)
    (bounded : Bounded state) : Bounded next := by
  induction path with
  | refl => exact bounded
  | tail _ effect inductionHypothesis => exact effect.bounded inductionHypothesis

theorem leavesLive_init (live : Live state) (sound : Sound state) (bounded : Bounded state) :
    LeavesLive state ((init driver).run state) := by
  unfold init
  rcases onlyAsks_selectDevice.cases sound.toInBounds with
    ⟨value, after, ran, path⟩ | ⟨msg, failing, ran, path⟩ | ⟨after, ran, path⟩
  · have effects := effects_of_quiet driver path
    rw [run_bind_ok ran]
    exact leavesLive_createHandles (live_of_quiet path live) (sound_of_effects effects sound)
      (bounded_of_effects effects bounded) (quiet_initialized path)
  · rw [run_bind_error ran]
    intro unmarked
    exact (live_of_quiet path live).tornDown ((quiet_initialized path).trans unmarked)
  · rw [run_bind_error ran]
    trivial

theorem leavesLive_allocate (live : Live state) (sound : Sound state) (flags size : BitVec 64) :
    LeavesLive state ((allocate driver flags size).run state) := by
  rcases allocate_cases driver sound.toInBounds flags size with
    ⟨ran, _⟩ | ⟨marked, ⟨msg, ran⟩ | ⟨slot, next, status, result, objects, answer, ran⟩⟩
  · rw [ran]
    exact fun unmarked => live.tornDown unmarked
  · rw [ran]
    exact fun unmarked => live.tornDown unmarked
  · have allocated := live.allocated marked slot flags size status result objects
    rw [ran]
    dsimp only
    by_cases success : status = 0#32
    · rw [if_pos success]
      exact allocated
    · rw [if_neg success]
      exact fun unmarked => allocated.tornDown unmarked

theorem leavesLive_createKernel (live : Live state) (sound : Sound state)
    (bounded : Bounded state) (filePath : String) (cmpOpt : Option String) (mainF : String) :
    LeavesLive state ((createKernel driver filePath cmpOpt mainF).run state) := by
  rcases createKernel_cases driver sound filePath cmpOpt mainF with
    ⟨ran, _⟩ | ⟨marked, ⟨msg, failing, _, ran⟩ | ⟨slot, _, source, status, size, ran⟩⟩
  · rw [ran]
    exact fun unmarked => live.tornDown unmarked
  · rw [ran]
    exact fun unmarked => nomatch unmarked.symm.trans marked
  · rw [ran]
    exact live.kernelFilled bounded marked slot source cmpOpt mainF status size

theorem leavesLive_checkError (live : Live state) (sound : Sound state) (errCode : BitVec 32)
    (msg : String) : LeavesLive state ((checkError driver errCode msg).run state) := by
  rw [run_checkError driver sound.toInBounds]
  by_cases success : errCode = 0#32
  · rw [if_pos success]
    exact live
  · rw [if_neg success]
    exact fun unmarked => live.tornDown unmarked

end Operations

/-! ### Sessions -/

/-- What holds in every session that a run reaches. -/
structure Regular (session : Session) : Prop extends session.Valid where
  owned : Owned session.context
  flagged : Flagged session.context

theorem regular_start (garbage : Garbage) : Regular (Session.start garbage) where
  toValid := Session.valid_start garbage
  owned := owned_constructed garbage
  flagged := flagged_constructed garbage

section Sessions

variable {driver : Driver} {session next : Session} {op : Op}

theorem owned_of_effects {state later : State} (path : ReflTransGen (Effect driver) state later)
    (sound : Sound state) (owned : Owned state) : Owned later :=
  preserved_of_effects (fun _ _ sound owned effect => effect.owned sound owned) path sound owned

theorem Regular.step (regular : Regular session) (stepped : session.step driver op = some next) :
    Regular next where
  toValid := Session.step_valid regular.toValid stepped
  owned := owned_of_effects (Session.step_effects regular.toValid stepped) regular.context
    regular.owned
  flagged := preserved_of_effects (fun _ _ sound flagged effect => effect.flagged sound flagged)
    (Session.step_effects regular.toValid stepped) regular.context regular.flagged

theorem perform_leavesLive (regular : Regular session) (live : Live session.context)
    (provides : session.Provides op) (allowed : op.Allowed session.context) :
    LeavesLive session.context ((op.perform driver).run session.context) := by
  have sound := regular.context
  have owned := regular.owned
  have something : ∀ buffer ∈ op.buffers,
      (session.context.allocations buffer).handle.isNull = false :=
    fun buffer given => (regular.buffers buffer (provides.1 buffer given)).2
  cases op with
  | init => exact leavesLive_map _ (leavesLive_init live sound owned.toBounded)
  | displayOpenclInfo =>
      exact leavesLive_map _ (leavesLive_of_onlyAsks onlyAsks_displayOpenclInfo live sound)
  | block => exact leavesLive_map _ (leavesLive_block live sound allowed)
  | checkError errCode msg => exact leavesLive_map _ (leavesLive_checkError live sound errCode msg)
  | allocate flags size => exact leavesLive_map _ (leavesLive_allocate live sound flags size)
  | createKernel filePath cmpOpt mainF =>
      exact leavesLive_map _
        (leavesLive_createKernel live sound owned.toBounded filePath cmpOpt mainF)
  | readBuffer buffer offset size blocking =>
      exact leavesLive_map _ (leavesLive_readBuffer live sound owned
        (something buffer List.mem_cons_self) allowed offset size blocking)
  | readWhole buffer blocking =>
      apply leavesLive_map
      rw [run_readWhole]
      exact leavesLive_readBuffer live sound owned (something buffer List.mem_cons_self) allowed
        0#64 _ blocking
  | writeBuffer buffer offset size source blocking =>
      exact leavesLive_map _ (leavesLive_writeBuffer live sound owned
        (something buffer List.mem_cons_self) allowed offset size source blocking)
  | writeWhole buffer source blocking =>
      apply leavesLive_map
      rw [run_writeWhole]
      exact leavesLive_writeBuffer live sound owned (something buffer List.mem_cons_self) allowed
        0#64 _ source blocking
  | zerosFloat buffer blocking =>
      apply leavesLive_map
      rw [run_zerosFloat]
      exact leavesLive_writeBuffer live sound owned (something buffer List.mem_cons_self) allowed
        0#64 _ _ blocking
  | release buffer =>
      apply leavesLive_map
      rw [run_release]
      exact live.released buffer
  | pushArg kernel argSize value =>
      exact leavesLive_map _ (leavesLive_pushArg live sound owned regular.flagged allowed argSize
        nofun)
  | pushBuffer kernel buffer =>
      apply leavesLive_map
      apply leavesLive_pushArg live sound owned regular.flagged allowed.1
      intro handle same
      cases same
      exact owned.alive_buffer allowed.2 (something buffer List.mem_cons_self)
  | execute kernel workDim globalWorkSize localWorkSize =>
      exact leavesLive_map _ (leavesLive_execute live sound owned regular.flagged allowed workDim
        globalWorkSize localWorkSize)
  | cleanupKernel kernel =>
      apply leavesLive_map
      rw [run_cleanupKernel]
      exact live.cleaned kernel

/-- A safe step keeps a context live. -/
theorem live_step (regular : Regular session) (live : Live session.context)
    (stepped : session.step driver op = some next) (safe : session.Safe driver op) :
    Live next.context := by
  rcases Session.step_cases stepped with ⟨provides, returned | raised⟩
  · rcases returned with ⟨value, context, ran, rfl⟩
    have leaves : LeavesLive session.context ((op.perform driver).run session.context) :=
      perform_leavesLive regular live provides safe.allowed
    rw [ran] at leaves
    rw [Session.returned_context]
    exact leaves
  · rcases raised with ⟨msg, context, ran, rfl⟩
    have leaves : LeavesLive session.context ((op.perform driver).run session.context) :=
      perform_leavesLive regular live provides safe.allowed
    rw [ran] at leaves
    apply leaves
    apply Bool.eq_false_of_not_eq_true
    intro marked
    exact safe.succeeds marked ⟨msg, context, ran⟩

end Sessions

/-! ### A context kept live was stepped safely -/

/-- A program that a caller can go on after ends in `after`. -/
inductive Ends {α : Type} (after : State) : EStateM.Result Failure State α → Prop where
  | returned (value : α) : Ends after (.ok value after)
  | raised (msg : String) : Ends after (.error (.runtimeError msg) after)

section Recorded

variable {driver : Driver} {state after : State}

theorem ends_of_map {α β : Type} {change : α → β} {program : Cl α}
    (ends : Ends after ((change <$> program).run state)) : Ends after (program.run state) := by
  rw [run_map] at ends
  generalize program.run state = result at ends
  cases result with
  | ok value between =>
      cases ends
      exact .returned value
  | error failure between =>
      cases ends
      exact .raised _

/-- What a recorded call passes was alive before it. -/
theorem Live.alive_of_recorded (live : Live after) {call : ClCall} {status : BitVec 32}
    (recorded : (.call call status .null :: state.log) <:+ after.log) {resource : Resource}
    (member : resource ∈ call.uses) : Alive lifetimes state.log resource := by
  rcases recorded with ⟨added, appended⟩
  have uses := live.uses
  rw [← appended] at uses
  exact (usesAlive_cons.mp (History.Throughout.of_append uses)).1 resource member

theorem block_recorded (sound : Sound state) (ends : Ends after ((block driver).run state)) :
    ∃ status, (.call (.flush state.clcommandQueue) status .null :: state.log) <:+ after.log := by
  let flushed := state.issued driver (.flush state.clcommandQueue)
  refine ⟨driver.status state.log.length, ?_⟩
  rw [run_block driver sound.toInBounds] at ends
  dsimp only at ends
  by_cases success : driver.status state.log.length = 0#32
  · rw [if_pos success] at ends
    unfold afterCall at ends
    by_cases finishes : driver.status flushed.log.length = 0#32
    · rw [if_pos finishes] at ends
      cases ends
      exact List.suffix_cons _ _
    · rw [if_neg finishes] at ends
      cases ends
      exact (List.suffix_cons _ _).trans
        (suffix_tornDown driver (flushed.issued driver (.finish state.clcommandQueue)))
  · rw [if_neg success] at ends
    cases ends
    exact suffix_tornDown driver flushed

theorem pushArg_recorded (sound : Sound state) {slot : Fin 32} {argSize : BitVec 64}
    {argValue : ArgValue} (ends : Ends after ((pushArg driver slot argSize argValue).run state)) :
    ∃ status, (.call (.setKernelArg (state.kernels slot).kernelId
      (state.kernels slot).argStackSize argSize argValue) status .null :: state.log) <:+
        after.log := by
  let pushed := state.issued driver (.setKernelArg (state.kernels slot).kernelId
    (state.kernels slot).argStackSize argSize argValue)
  refine ⟨driver.status state.log.length, ?_⟩
  rw [run_pushArg driver sound.toInBounds] at ends
  dsimp only at ends
  by_cases success : driver.status state.log.length = 0#32
  · rw [if_pos success] at ends
    cases ends
    exact List.suffix_rfl
  · rw [if_neg success] at ends
    cases ends
    exact suffix_tornDown driver pushed

theorem transfer_recorded (sound : Sound state) {slot : Fin 32} {size : BitVec 64}
    {tooMuch failed : String} {command : Handle → Handle → ClCall} {value : Unit}
    (ran : (transfer driver slot size tooMuch failed command).run state = .ok value after) :
    ∃ status, (.call (command state.clcommandQueue (state.allocations slot).handle) status .null ::
      state.log) <:+ after.log := by
  rw [run_transfer driver sound.toInBounds] at ran
  by_cases marked : state.initialized = true
  · rw [if_pos marked] at ran
    by_cases fits : size ≤ (state.allocations slot).size
    · rw [if_pos fits] at ran
      rw [(afterCall_ok driver ran).2]
      exact ⟨_, List.suffix_rfl⟩
    · rw [if_neg fits] at ran
      cases ran
  · rw [if_neg marked] at ran
    cases ran

theorem execute_recorded (sound : Sound state) {slot : Fin 32} {workDim : BitVec 32}
    {globalWorkSize : List (BitVec 64)} {localWorkSize : Option (List (BitVec 64))} {value : Unit}
    (ran : (execute driver slot workDim globalWorkSize localWorkSize).run state = .ok value after) :
    ∃ status, (.call (.enqueueNDRangeKernel state.clcommandQueue (state.kernels slot).kernelId
      workDim globalWorkSize localWorkSize) status .null :: state.log) <:+ after.log := by
  rw [(execute_returned driver sound.toInBounds ran).2]
  exact ⟨_, List.suffix_rfl⟩

end Recorded

section Sessions

variable {driver : Driver} {session next : Session} {op : Op}

theorem ends_of_step (stepped : session.step driver op = some next) :
    Ends next.context ((op.perform driver).run session.context) := by
  rcases Session.step_cases stepped with ⟨_, returned | raised⟩
  · rcases returned with ⟨value, context, ran, rfl⟩
    rw [ran, Session.returned_context]
    exact .returned value
  · rcases raised with ⟨msg, context, ran, rfl⟩
    rw [ran]
    exact .raised msg

/-- A failed check in a marked context leaves the mark and releases the queue. -/
theorem succeeds_of_live (regular : Regular session)
    (stepped : session.step driver op = some next) (live : Live next.context)
    (marked : session.context.initialized = true) : ¬ op.Fails driver session.context := by
  intro fails
  rcases fails with ⟨msg, after, ran⟩
  have provides := (Session.step_cases stepped).1
  have outcome : Outcome driver session.context _ := regular.toValid.outcome provides
  have ends := ends_of_step stepped
  have bounded := (regular.step stepped).owned.toBounded
  rw [ran] at outcome ends
  generalize next.context = reached at ends bounded live
  cases ends
  cases outcome with
  | raised _ failing path =>
      exact not_live_tornDown bounded ((extends_of_effects path).initialized marked) live
  | undefined _ _ noException => exact noException msg rfl

theorem returned_of_succeeds {after : State}
    (ends : Ends after ((op.perform driver).run session.context))
    (succeeds : ¬ op.Fails driver session.context) :
    ∃ value, (op.perform driver).run session.context = .ok value after := by
  generalize ran : (op.perform driver).run session.context = result at ends
  cases ends with
  | returned value => exact ⟨value, rfl⟩
  | raised msg => exact absurd ⟨msg, after, ran⟩ succeeds

/-- An operation that keeps a marked context live returns. -/
theorem returned_of_live (regular : Regular session) (stepped : session.step driver op = some next)
    (live : Live next.context) {α : Type} {change : α → Returned} {program : Cl α}
    (performs : op.perform driver = change <$> program)
    (marked : session.context.initialized = true) :
    ∃ value, program.run session.context = .ok value next.context := by
  obtain ⟨_, ran⟩ := returned_of_succeeds (ends_of_step stepped)
    (succeeds_of_live regular stepped live marked)
  rw [performs] at ran
  obtain ⟨result, returned, _⟩ := returned_of_map ran
  exact ⟨result, returned⟩

/-- A buffer that the record shows in use is not flagged as released. -/
theorem unreleased_of_alive (regular : Regular session) {buffer : Fin 32}
    (alive : Alive lifetimes session.context.log
      ⟨.buffer, (session.context.allocations buffer).handle⟩) :
    (session.context.allocations buffer).released = false := by
  apply Bool.eq_false_of_not_eq_true
  intro marked
  exact not_alive_of_given regular.owned.toBounded (regular.flagged.buffers buffer marked) alive

theorem initialized_of_alive (regular : Regular session) {kernel : Fin 32}
    (alive : Alive lifetimes session.context.log
      ⟨.kernel, (session.context.kernels kernel).kernelId⟩) :
    (session.context.kernels kernel).initialized = true := by
  apply Bool.eq_true_of_not_eq_false
  intro unmarked
  exact not_alive_of_given regular.owned.toBounded
    ((regular.flagged.kernels kernel).given unmarked) alive

theorem unreleased_of_transfer (regular : Regular session) (live : Live next.context)
    {slot : Fin 32} {size : BitVec 64} {tooMuch failed : String}
    {command : Handle → Handle → ClCall} {value : Unit}
    (ran : (transfer driver slot size tooMuch failed command).run session.context =
      .ok value next.context)
    (uses : ∀ queue buffer, ⟨.buffer, buffer⟩ ∈ (command queue buffer).uses) :
    (session.context.allocations slot).released = false := by
  obtain ⟨status, recorded⟩ := transfer_recorded regular.context ran
  exact unreleased_of_alive regular (live.alive_of_recorded recorded (uses _ _))

theorem unreleased_of_readBuffer (regular : Regular session) (live : Live next.context)
    {slot : Fin 32} {offset size : BitVec 64} {blocking : Bool} {value : Unit}
    (ran : (readBuffer driver slot offset size blocking).run session.context =
      .ok value next.context) : (session.context.allocations slot).released = false :=
  unreleased_of_transfer regular live ran fun _ _ => by simp [ClCall.uses]

theorem unreleased_of_writeBuffer (regular : Regular session) (live : Live next.context)
    {slot : Fin 32} {offset size : BitVec 64} {source : List (BitVec 8)} {blocking : Bool}
    {value : Unit}
    (ran : (writeBuffer driver slot offset size source blocking).run session.context =
      .ok value next.context) : (session.context.allocations slot).released = false :=
  unreleased_of_transfer regular live ran fun _ _ => by simp [ClCall.uses]

/-- A step that keeps a context live is safe. -/
theorem safe_of_live (regular : Regular session) (stepped : session.step driver op = some next)
    (live : Live next.context) : session.Safe driver op := by
  have sound := regular.context
  have ends := ends_of_step stepped
  refine ⟨?_, succeeds_of_live regular stepped live⟩
  cases op with
  | init | displayOpenclInfo | checkError | allocate | createKernel | release | cleanupKernel =>
      trivial
  | block =>
      apply Bool.eq_true_of_not_eq_false
      intro unmarked
      obtain ⟨status, recorded⟩ := block_recorded sound (ends_of_map ends)
      exact regular.flagged.not_alive_queue regular.owned.toBounded unmarked
        (live.alive_of_recorded recorded List.mem_cons_self)
  | readBuffer slot offset size blocking =>
      intro marked
      obtain ⟨_, ran⟩ := returned_of_live regular stepped live rfl marked
      exact unreleased_of_readBuffer regular live ran
  | readWhole slot blocking =>
      intro marked
      obtain ⟨_, ran⟩ := returned_of_live regular stepped live rfl marked
      rw [run_readWhole] at ran
      exact unreleased_of_readBuffer regular live ran
  | writeBuffer slot offset size source blocking =>
      intro marked
      obtain ⟨_, ran⟩ := returned_of_live regular stepped live rfl marked
      exact unreleased_of_writeBuffer regular live ran
  | writeWhole slot source blocking =>
      intro marked
      obtain ⟨_, ran⟩ := returned_of_live regular stepped live rfl marked
      rw [run_writeWhole] at ran
      exact unreleased_of_writeBuffer regular live ran
  | zerosFloat slot blocking =>
      intro marked
      obtain ⟨_, ran⟩ := returned_of_live regular stepped live rfl marked
      rw [run_zerosFloat] at ran
      exact unreleased_of_writeBuffer regular live ran
  | pushArg slot argSize value =>
      obtain ⟨status, recorded⟩ := pushArg_recorded sound (ends_of_map ends)
      exact initialized_of_alive regular (live.alive_of_recorded recorded List.mem_cons_self)
  | pushBuffer slot argument =>
      obtain ⟨status, recorded⟩ := pushArg_recorded sound (ends_of_map ends)
      constructor
      · exact initialized_of_alive regular (live.alive_of_recorded recorded List.mem_cons_self)
      · exact unreleased_of_alive regular
          (live.alive_of_recorded recorded (by simp [ClCall.uses]))
  | execute slot workDim globalWorkSize localWorkSize =>
      intro marked
      obtain ⟨_, ran⟩ := returned_of_live regular stepped live rfl marked
      obtain ⟨status, recorded⟩ := execute_recorded sound ran
      exact initialized_of_alive regular
        (live.alive_of_recorded recorded (by simp [ClCall.uses]))

end Sessions

/-! ### Runs -/

namespace Session

variable (driver : Driver)

/-- The run visits only sessions with the property. -/
def Visits (property : Session → Prop) (session : Session) : List Op → Prop
  | [] => property session
  | op :: rest => property session ∧
      ∀ next, session.step driver op = some next → next.Visits property rest

/-- The run makes only steps with the property. -/
def Performs (property : Session → Op → Prop) (session : Session) : List Op → Prop
  | [] => True
  | op :: rest => property session op ∧
      ∀ next, session.step driver op = some next → next.Performs property rest

instance decidablePerforms (property : Session → Op → Prop)
    [∀ session op, Decidable (property session op)] :
    (session : Session) → (ops : List Op) → Decidable (session.Performs driver property ops)
  | _, [] => isTrue trivial
  | session, op :: rest =>
      match stepped : session.step driver op with
      | none => decidable_of_iff (property session op)
          ⟨fun holds => ⟨holds, fun _ steps => nomatch stepped.symm.trans steps⟩, And.left⟩
      | some next =>
          have := decidablePerforms property next rest
          decidable_of_iff (property session op ∧ next.Performs driver property rest)
            (and_congr_right fun _ => by
              constructor
              · intro performs other steps
                cases Option.some.inj (stepped.symm.trans steps)
                exact performs
              · intro performs
                exact performs next stepped)

theorem Visits.first {driver : Driver} {property : Session → Prop} {session : Session}
    {ops : List Op} (visits : session.Visits driver property ops) : property session := by
  cases ops with
  | nil => exact visits
  | cons => exact visits.1

theorem Visits.last {driver : Driver} {property : Session → Prop} {session last : Session}
    {ops : List Op} (visits : session.Visits driver property ops)
    (ran : session.run driver ops = some last) : property last := by
  induction ops generalizing session with
  | nil =>
      cases ran
      exact visits
  | cons op rest inductionHypothesis =>
      rcases run_cases ran with ⟨next, stepped, ranRest⟩
      exact inductionHypothesis (visits.2 next stepped) ranRest

end Session

theorem visits_live_iff {driver : Driver} {session last : Session} {ops : List Op}
    (regular : Regular session) (live : Live session.context)
    (ran : session.run driver ops = some last) :
    session.Visits driver (fun session => Live session.context) ops ↔
      session.Performs driver (Session.Safe driver) ops := by
  induction ops generalizing session with
  | nil => exact ⟨fun _ => trivial, fun _ => live⟩
  | cons op rest inductionHypothesis =>
      rcases Session.run_cases ran with ⟨next, stepped, rest⟩
      have onlyNext {property : Session → Prop} (holds : property next) :
          ∀ other, session.step driver op = some other → property other := by
        intro other steps
        rw [stepped] at steps
        cases steps
        exact holds
      have nextRegular := regular.step stepped
      constructor
      · intro visits
        have nextVisits := visits.2 next stepped
        have nextLive := nextVisits.first
        exact ⟨safe_of_live regular stepped nextLive,
          onlyNext ((inductionHypothesis nextRegular nextLive rest).mp nextVisits)⟩
      · intro performs
        have nextLive := live_step regular live stepped performs.1
        have nextPerforms := performs.2 next stepped
        exact ⟨live,
          onlyNext ((inductionHypothesis nextRegular nextLive rest).mpr nextPerforms)⟩

/-- The operations of a run use only live objects, and its marked contexts are alive, exactly
when all its steps are safe. -/
theorem commands_use_live_objects_iff (driver : Driver) (garbage : Garbage) (ops : List Op)
    (last : Session) (ran : (Session.start garbage).run driver ops = some last) :
    (Session.start garbage).Visits driver (fun session => Live session.context) ops ↔
      (Session.start garbage).Performs driver (Session.Safe driver) ops :=
  visits_live_iff (regular_start garbage) (live_constructed garbage) ran

/-- After a failed allocation the context is still marked, and the next one passes the
released OpenCL context to `clCreateBuffer`. -/
theorem dead_context_used :
    ¬ ∀ (driver : Driver) (garbage : Garbage) (ops : List Op) (last : Session),
      (Session.start garbage).run driver ops = some last →
      (Session.start garbage).Visits driver (fun session => Live session.context) ops := by
  intro always
  have ran : ((Session.start (.filled 0)).run (.failingAt 15)
      [.init, .allocate 1#64 64#64, .allocate 1#64 64#64]).map (fun last =>
        last.context.log.head?.map fun event =>
          (event.uses, last.context.log.tail.filterMap Event.releases)) =
      some (some ([⟨.context, .object 0⟩], [⟨.context, .object 0⟩, ⟨.queue, .object 1⟩])) := by
    decide +kernel
  rcases Option.map_eq_some_iff.mp ran with ⟨last, ran, ends⟩
  have uses := ((always _ _ _ last ran).last ran).uses
  generalize last.context.log = log at ends uses
  cases log with
  | nil => cases ends
  | cons event older =>
      rcases Prod.mk.inj (Option.some.inj ends) with ⟨passed, released⟩
      have member : ⟨.context, .object 0⟩ ∈ event.uses := by simp [passed]
      have alive := (usesAlive_cons.mp uses).1 _ member
      apply alive.2
      apply List.mem_filterMap.mp
      show _ ∈ older.filterMap Event.releases
      have released : older.filterMap Event.releases = _ := released
      simp [released]

/-- A kernel runs on a buffer and nothing fails. -/
theorem commands_use_live_objects_in_order :
    (Session.start (.filled 0)).Visits (.failingAt 99) (fun session => Live session.context)
      [.init, .allocate 1#64 64#64, .createKernel "main.cl" none "main", .pushBuffer 0 0,
        .execute 0 1#32 [64#64] none, .readWhole 0 true, .block] := by
  have completes : ((Session.start (.filled 0)).run (.failingAt 99)
      [.init, .allocate 1#64 64#64, .createKernel "main.cl" none "main", .pushBuffer 0 0,
        .execute 0 1#32 [64#64] none, .readWhole 0 true, .block]).isSome = true := by
    decide +kernel
  rcases Option.isSome_iff_exists.mp completes with ⟨last, ran⟩
  apply (commands_use_live_objects_iff _ _ _ last ran).mpr
  decide +kernel

end OpenClHash.Wrapper
