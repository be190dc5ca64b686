import OpenClHash.Library.Rounds
import OpenClHash.Wrapper.Launches
import OpenClHash.Wrapper.Resources

/-!
Owns the arguments that a launch of a kernel finds: what the record says that OpenCL holds
for each parameter, and what a caller pushed since the launch before. The two agree in every
session in which no OpenCL call fails, for each kernel of the context by itself.
-/

namespace OpenClHash.Wrapper

open OpenClHash.Sizing OpenClHash.Library OpenClHash.Library.Fallible Relation

/-! ### What OpenCL holds -/

/-- The copy that `clSetKernelArg` makes of `size` bytes; for a buffer it is the handle. -/
def ArgValue.copied (size : BitVec 64) : ArgValue → ArgValue
  | .bytes value => .bytes (value.take size.toNat)
  | .memObject buffer => .memObject buffer

/-- What an entry of the record does to the arguments of a kernel; a call that fails sets none. -/
def Event.argument : Event → Option (Rounds.Entry Handle ArgValue)
  | .call (.setKernelArg kernel index size value) status _ =>
      if status = 0#32 then some (.set kernel index (value.copied size)) else none
  | .call (.enqueueNDRangeKernel _ kernel _ _ _) _ _ => some (.use kernel)
  | _ => none

/-- The arguments that were set and the launches that used them. -/
def settings (log : List Event) : List (Rounds.Entry Handle ArgValue) :=
  log.filterMap Event.argument

/-! ### What a caller pushed -/

/-- An argument as a caller pushes it. -/
inductive Pushed where
  | bytes (value : List (BitVec 8))
  | buffer (slot : Fin 32)
deriving DecidableEq, Repr

/-- What OpenCL is given for it. -/
def Pushed.value (state : State) : Pushed → ArgValue
  | .bytes value => .bytes value
  | .buffer slot => .memObject (state.allocations slot).handle

theorem copied_bytes (size : BitVec 64) (value : List (BitVec 8)) (state : State) :
    (ArgValue.bytes value).copied size = (Pushed.bytes (value.take size.toNat)).value state := rfl

theorem copied_buffer (size : BitVec 64) (slot : Fin 32) (state : State) :
    (ArgValue.memObject (state.allocations slot).handle).copied size =
      (Pushed.buffer slot).value state := rfl

/-- The arguments of a round of `kernel` after one more operation. -/
def Op.argue (kernel : Fin 32) (pending : List Pushed) : Op → List Pushed
  | .pushArg target argSize value =>
      if target = kernel then pending ++ [.bytes (value.take argSize.toNat)] else pending
  | .pushBuffer target buffer => if target = kernel then pending ++ [.buffer buffer] else pending
  | .execute target _ _ _ => if target = kernel then [] else pending
  | _ => pending

/-- What operations in this order pushed to `kernel` since its last launch. -/
def pending (kernel : Fin 32) (ops : List Op) : List Pushed := ops.foldl (Op.argue kernel) []

def Op.returns (driver : Driver) (state : State) (op : Op) : Bool :=
  match (op.perform driver).run state with
  | .ok _ _ => true
  | .error _ _ => false

/-- The operations of a session that returned. -/
def Session.returnedOps (driver : Driver) : Session → List Op → List Op
  | _, [] => []
  | session, op :: rest =>
      match session.step driver op with
      | none => []
      | some next =>
          if op.returns driver session.context then op :: next.returnedOps driver rest
          else next.returnedOps driver rest

/-- OpenCL answers every call with success. -/
def Driver.NeverFails (driver : Driver) : Prop := ∀ earlier, driver.status earlier = 0#32

/-! ### Operations that touch no argument -/

/-- The handle of a kernel and the position of its next argument. -/
def Kernel.stack (kernel : Kernel) : Handle × Nat := (kernel.kernelId, kernel.argStackSize)

/-- No argument is set, no kernel is launched, and the kernels keep their stacks. -/
structure Unargued (state next : State) : Prop where
  settings : settings next.log = settings state.log
  stack : ∀ slot, (next.kernels slot).stack = (state.kernels slot).stack
  objects : state.objects ≤ next.objects
  kernelCount : state.kernelCount ≤ next.kernelCount

section Unargued

variable {driver : Driver} {state next later : State}

theorem Unargued.refl (state : State) : Unargued state state :=
  ⟨rfl, fun _ => rfl, Nat.le_refl _, Nat.le_refl _⟩

theorem Unargued.trans (first : Unargued state next) (second : Unargued next later) :
    Unargued state later where
  settings := second.settings.trans first.settings
  stack := fun slot => (second.stack slot).trans (first.stack slot)
  objects := first.objects.trans second.objects
  kernelCount := first.kernelCount.trans second.kernelCount

theorem Unargued.kernelId (unargued : Unargued state next) (slot : Fin 32) :
    (next.kernels slot).kernelId = (state.kernels slot).kernelId :=
  congrArg Prod.fst (unargued.stack slot)

theorem unargued_released (driver : Driver) (slot : Fin 32) (state : State) :
    Unargued state (state.released driver slot) where
  settings := filterMap_released driver (fun _ _ => rfl) slot state
  stack := fun _ => rfl
  objects := Nat.le_refl _
  kernelCount := Nat.le_refl _

theorem unargued_cleaned (driver : Driver) (slot : Fin 32) (state : State) :
    Unargued state (state.cleaned driver slot) where
  settings := filterMap_cleaned driver (fun _ _ => rfl) (fun _ _ => rfl) slot state
  stack := by
    refine update_keeps Kernel.stack ?_
    rfl
  objects := Nat.le_refl _
  kernelCount := Nat.le_refl _

theorem unargued_handlesReleased (driver : Driver) (state : State) :
    Unargued state (state.handlesReleased driver) where
  settings := filterMap_handlesReleased driver rfl (fun _ _ => rfl) (fun _ _ => rfl) state
  stack := fun _ => rfl
  objects := Nat.le_refl _
  kernelCount := Nat.le_refl _

theorem unargued_tornDown (driver : Driver) (state : State) :
    Unargued state (state.tornDown driver) := by
  have kernels := visitSlots_preserves (State.cleaned driver) (Unargued state)
    (fun slot next before => before.trans (unargued_cleaned driver slot next)) state.kernelCount
    (.refl state)
  have buffers := visitSlots_preserves (State.released driver) (Unargued state)
    (fun slot next before => before.trans (unargued_released driver slot next))
    state.allocationCount kernels
  exact buffers.trans (unargued_handlesReleased driver _)

theorem unargued_record {event : Event} (none : event.argument = none) (state : State) :
    Unargued state (state.record event) where
  settings := List.filterMap_cons_none none
  stack := fun _ => rfl
  objects := Nat.le_refl _
  kernelCount := Nat.le_refl _

theorem unargued_of_quiet (path : ReflTransGen Quiet state next) : Unargued state next := by
  induction path with
  | refl => exact .refl state
  | tail _ quiet inductionHypothesis =>
      apply inductionHypothesis.trans
      cases quiet with
      | query call query status =>
          apply unargued_record
          cases call <;> first | rfl | exact query.elim
      | device info => exact ⟨rfl, fun _ => rfl, Nat.le_refl _, Nat.le_refl _⟩

/-! ### How they end -/

/-- The state at the end of a run. -/
def endState {α : Type} : EStateM.Result Failure State α → State
  | .ok _ after => after
  | .error _ after => after

theorem endState_map {α β : Type} (change : α → β) (program : Cl α) (state : State) :
    endState ((change <$> program).run state) = endState (program.run state) := by
  rw [run_map]
  cases program.run state <;> rfl

theorem unargued_afterCall (before : Unargued state next) {call : ClCall}
    (none : ∀ status, Event.argument (.call call status .null) = none) (failed : String) :
    Unargued state (endState (afterCall driver call failed next)) := by
  have issued : Unargued state (next.issued driver call) :=
    before.trans (unargued_record (none _) next)
  unfold afterCall
  split
  · exact issued
  · exact issued.trans (unargued_tornDown driver _)

theorem unargued_transfer (sound : Sound state) (slot : Fin 32) (size : BitVec 64)
    (tooMuch failed : String) {command : Handle → Handle → ClCall}
    (none : ∀ queue buffer status,
      Event.argument (.call (command queue buffer) status .null) = none) :
    Unargued state
      (endState ((transfer driver slot size tooMuch failed command).run state)) := by
  rw [run_transfer driver sound.toInBounds]
  split
  · split
    · exact unargued_afterCall (.refl state) (none _ _) failed
    · exact unargued_tornDown driver state
  · exact unargued_tornDown driver state

theorem unargued_readBuffer (sound : Sound state) (slot : Fin 32) (offset size : BitVec 64)
    (blocking : Bool) :
    Unargued state (endState ((readBuffer driver slot offset size blocking).run state)) :=
  unargued_transfer sound slot size _ _ fun _ _ _ => rfl

theorem unargued_writeBuffer (sound : Sound state) (slot : Fin 32) (offset size : BitVec 64)
    (source : List (BitVec 8)) (blocking : Bool) :
    Unargued state (endState ((writeBuffer driver slot offset size source blocking).run state)) :=
  unargued_transfer sound slot size _ _ fun _ _ _ => rfl

theorem unargued_block (sound : Sound state) :
    Unargued state (endState ((block driver).run state)) := by
  have flushed : Unargued state (state.issued driver (.flush state.clcommandQueue)) := by
    apply unargued_record
    rfl
  rw [run_block driver sound.toInBounds]
  dsimp only
  split
  · exact unargued_afterCall flushed (fun _ => rfl) _
  · exact flushed.trans (unargued_tornDown driver _)

theorem unargued_checkError (sound : Sound state) (errCode : BitVec 32) (msg : String) :
    Unargued state (endState ((checkError driver errCode msg).run state)) := by
  rw [run_checkError driver sound.toInBounds]
  split
  · exact .refl state
  · exact unargued_tornDown driver state

theorem unargued_of_onlyAsks {α : Type} {program : Cl α} (asks : OnlyAsks driver program)
    (sound : Sound state) : Unargued state (endState (program.run state)) := by
  rcases asks.cases sound.toInBounds with
    ⟨value, after, ran, path⟩ | ⟨msg, failing, ran, path⟩ | ⟨after, ran, path⟩
  · rw [ran]
    exact unargued_of_quiet path
  · rw [ran]
    exact (unargued_of_quiet path).trans (unargued_tornDown driver _)
  · rw [ran]
    exact unargued_of_quiet path

theorem unargued_createHandles (sound : Sound state) :
    Unargued state (endState ((createHandles driver).run state)) := by
  rcases createHandles_cases driver sound.toInBounds with
    ⟨status, msg, _, ran⟩ | ⟨status, msg, _, ran⟩ | ran
  · rw [ran]
    have assigned : Unargued state (state.contextAssigned status .null state.objects) :=
      ⟨rfl, fun _ => rfl, Nat.le_refl _, Nat.le_refl _⟩
    exact assigned.trans (unargued_tornDown driver _)
  · rw [ran]
    have assigned : Unargued state
        (state.contextCreated.queueAssigned status .null (state.objects + 1)) :=
      ⟨rfl, fun _ => rfl, Nat.le_succ _, Nat.le_refl _⟩
    exact assigned.trans (unargued_tornDown driver _)
  · rw [ran]
    exact ⟨rfl, fun _ => rfl, Nat.le_add_right _ 2, Nat.le_refl _⟩

theorem unargued_init (sound : Sound state) :
    Unargued state (endState ((init driver).run state)) := by
  unfold init
  rcases onlyAsks_selectDevice.cases sound.toInBounds with
    ⟨value, after, ran, path⟩ | ⟨msg, failing, ran, path⟩ | ⟨after, ran, path⟩
  · have selected := sound_of_effects (effects_of_quiet driver path) sound
    rw [run_bind_ok ran]
    exact (unargued_of_quiet path).trans (unargued_createHandles selected)
  · rw [run_bind_error ran]
    exact (unargued_of_quiet path).trans (unargued_tornDown driver _)
  · rw [run_bind_error ran]
    exact unargued_of_quiet path

theorem unargued_allocate (sound : Sound state) (flags size : BitVec 64) :
    Unargued state (endState ((allocate driver flags size).run state)) := by
  rcases allocate_cases driver sound.toInBounds flags size with
    ⟨ran, _⟩ | ⟨_, ⟨msg, ran⟩ | ⟨slot, next, status, result, objects, answer, ran⟩⟩
  · rw [ran]
    exact unargued_tornDown driver state
  · rw [ran]
    exact unargued_tornDown driver state
  · have allocated : Unargued state (state.allocated slot flags size status result objects) :=
      ⟨rfl, fun _ => rfl, answer.objects_le, Nat.le_refl _⟩
    rw [ran]
    dsimp only
    split
    · exact allocated
    · exact allocated.trans (unargued_tornDown driver _)

/-- The operations that push no argument, launch nothing and create no kernel. -/
def Op.IsPlain : Op → Prop
  | .pushArg _ _ _ | .pushBuffer _ _ | .execute _ _ _ _ | .createKernel _ _ _ => False
  | _ => True

theorem Unargued.map {α β : Type} (change : α → β) {program : Cl α}
    (unargued : Unargued state (endState (program.run state))) :
    Unargued state (endState ((change <$> program).run state)) := by
  rw [endState_map]
  exact unargued

theorem unargued_perform (sound : Sound state) {op : Op} (plain : op.IsPlain) :
    Unargued state (endState ((op.perform driver).run state)) := by
  cases op with
  | init => exact (unargued_init sound).map _
  | displayOpenclInfo => exact (unargued_of_onlyAsks onlyAsks_displayOpenclInfo sound).map _
  | block => exact (unargued_block sound).map _
  | checkError errCode msg => exact (unargued_checkError sound errCode msg).map _
  | allocate flags size => exact (unargued_allocate sound flags size).map _
  | readBuffer buffer offset size blocking =>
      exact (unargued_readBuffer sound buffer offset size blocking).map _
  | readWhole buffer blocking =>
      apply Unargued.map
      rw [run_readWhole]
      exact unargued_readBuffer sound buffer 0#64 _ blocking
  | writeBuffer buffer offset size source blocking =>
      exact (unargued_writeBuffer sound buffer offset size source blocking).map _
  | writeWhole buffer source blocking =>
      apply Unargued.map
      rw [run_writeWhole]
      exact unargued_writeBuffer sound buffer 0#64 _ source blocking
  | zerosFloat buffer blocking =>
      apply Unargued.map
      rw [run_zerosFloat]
      exact unargued_writeBuffer sound buffer 0#64 _ _ blocking
  | release buffer =>
      apply Unargued.map
      rw [run_release]
      exact unargued_released driver buffer state
  | cleanupKernel kernel =>
      apply Unargued.map
      rw [run_cleanupKernel]
      exact unargued_cleaned driver kernel state
  | pushArg | pushBuffer | execute | createKernel => exact plain.elim

end Unargued

/-! ### The arguments of a context -/

/-- The buffer of an argument is in a slot that `allocate` took. -/
def Pushed.Taken (state : State) : Pushed → Prop
  | .bytes _ => True
  | .buffer slot => slot.val < state.allocationCount

/-- What a slot of `_kernels` stands for: no kernel yet, or one for whose next launch
`pushed` was pushed. -/
inductive Stacked (state : State) (slot : Fin 32) (pushed : List Pushed) : Prop where
  | unfilled (null : (state.kernels slot).kernelId = .null) (nothing : pushed = [])
  | filled (id : Nat) (created : id < state.objects)
      (stack : (state.kernels slot).stack = (.object id, pushed.length))
      (round : Rounds.round (.object id) (settings state.log) = pushed.map (Pushed.value state))

/-- The arguments that OpenCL holds and the stacks of the kernels are those of what was pushed. -/
structure Argued (state : State) (pushed : Fin 32 → List Pushed) : Prop where
  positional : Rounds.Positional (settings state.log)
  known : ∀ entry ∈ settings state.log, ∃ id < state.objects, entry.key = .object id
  stacked : ∀ slot, Stacked state slot (pushed slot)
  distinct : ∀ slot other id, (state.kernels slot).kernelId = .object id →
    (state.kernels other).kernelId = .object id → slot = other
  fresh : ∀ slot : Fin 32, state.kernelCount ≤ slot.val → (state.kernels slot).kernelId = .null
  taken : ∀ slot, ∀ value ∈ pushed slot, value.Taken state

theorem argued_constructed (garbage : Garbage) :
    Argued (State.constructed garbage) fun _ => [] where
  positional := trivial
  known := nofun
  stacked := fun _ => .unfilled rfl rfl
  distinct := nofun
  fresh := fun _ _ => rfl
  taken := nofun

section Argued

variable {driver : Driver} {state next : State} {pushed : Fin 32 → List Pushed} {slot : Fin 32}

theorem Pushed.Taken.mono {value : Pushed} (taken : value.Taken state)
    (grown : Extends state next) : value.Taken next := by
  cases value with
  | bytes => trivial
  | buffer buffer => exact Nat.lt_of_lt_of_le taken grown.allocationCount

/-- The handle of an allocated buffer stays what it is. -/
theorem Pushed.Taken.value_eq {value : Pushed} (taken : value.Taken state)
    (grown : Extends state next) : value.value next = value.value state := by
  cases value with
  | bytes => rfl
  | buffer buffer => exact congrArg ArgValue.memObject (grown.handle buffer taken)

/-- A slot whose kernel neither got an argument nor was launched. -/
theorem Stacked.kept {values : List Pushed} (stacked : Stacked state slot values)
    (grown : Extends state next) (taken : ∀ value ∈ values, value.Taken state)
    (objects : state.objects ≤ next.objects)
    (stack : (next.kernels slot).stack = (state.kernels slot).stack)
    (round : ∀ id < state.objects, (state.kernels slot).kernelId = .object id →
      Rounds.round (.object id) (settings next.log) =
        Rounds.round (.object id) (settings state.log)) : Stacked next slot values := by
  cases stacked with
  | unfilled null nothing => exact .unfilled ((congrArg Prod.fst stack).trans null) nothing
  | filled id created same pushes =>
      refine .filled id (created.trans_le objects) (stack.trans same) ?_
      rw [round id created (congrArg Prod.fst same), pushes]
      exact List.map_congr_left fun value member => ((taken value member).value_eq grown).symm

theorem Argued.of_unargued (argued : Argued state pushed) (unargued : Unargued state next)
    (grown : Extends state next) : Argued next pushed where
  positional := unargued.settings ▸ argued.positional
  known := by
    intro entry member
    rw [unargued.settings] at member
    obtain ⟨id, below, same⟩ := argued.known entry member
    exact ⟨id, below.trans_le unargued.objects, same⟩
  stacked := by
    intro slot
    refine (argued.stacked slot).kept grown (argued.taken slot) unargued.objects
      (unargued.stack slot) ?_
    intro id _ _
    rw [unargued.settings]
  distinct := by
    intro slot other id here there
    rw [unargued.kernelId] at here there
    exact argued.distinct slot other id here there
  fresh := by
    intro slot unused
    rw [unargued.kernelId]
    exact argued.fresh slot (unargued.kernelCount.trans unused)
  taken := fun slot value member => (argued.taken slot value member).mono grown

/-- In a slot with a kernel, the stack and the round are those of what was pushed. -/
theorem Argued.filled (argued : Argued state pushed)
    (stored : (state.kernels slot).kernelId ≠ .null) :
    ∃ id < state.objects, (state.kernels slot).stack = (.object id, (pushed slot).length) ∧
      Rounds.round (.object id) (settings state.log) =
        (pushed slot).map (Pushed.value state) := by
  rcases argued.stacked slot with ⟨null, _⟩ | ⟨id, created, stack, round⟩
  · exact absurd null stored
  · exact ⟨id, created, stack, round⟩

theorem Argued.below (argued : Argued state pushed) {id : Nat}
    (named : (state.kernels slot).kernelId = .object id) : id < state.objects := by
  have stored : (state.kernels slot).kernelId ≠ .null := by
    rw [named]
    exact nofun
  obtain ⟨other, created, stack, _⟩ := argued.filled stored
  cases named.symm.trans (congrArg Prod.fst stack)
  exact created

/-- One more entry, for the kernel in `slot`, that leaves `values` for its next launch. -/
theorem Argued.entered (argued : Argued state pushed) (grown : Extends state next) {id : Nat}
    {entry : Rounds.Entry Handle ArgValue} {values : List Pushed}
    (named : (state.kernels slot).kernelId = .object id) (key : entry.key = .object id)
    (log : settings next.log = entry :: settings state.log)
    (positional : Rounds.Positional (entry :: settings state.log))
    (objects : next.objects = state.objects) (kernelCount : next.kernelCount = state.kernelCount)
    (stack : (next.kernels slot).stack = (.object id, values.length))
    (others : ∀ other, other ≠ slot → (next.kernels other).stack = (state.kernels other).stack)
    (round : Rounds.round (.object id) (settings next.log) = values.map (Pushed.value next))
    (taken : ∀ value ∈ values, value.Taken next) :
    Argued next (Function.update pushed slot values) := by
  have created := argued.below named
  have kernelId : ∀ other, (next.kernels other).kernelId = (state.kernels other).kernelId := by
    intro other
    by_cases atSlot : other = slot
    · rw [atSlot, named]
      exact congrArg Prod.fst stack
    · exact congrArg Prod.fst (others other atSlot)
  constructor
  · exact log ▸ positional
  · intro found member
    rw [objects]
    rw [log] at member
    rcases List.mem_cons.mp member with rfl | before
    · exact ⟨id, created, key⟩
    · exact argued.known found before
  · intro other
    by_cases atSlot : other = slot
    · rw [atSlot, Function.update_self]
      exact .filled id (objects ▸ created) stack round
    · rw [Function.update_of_ne atSlot]
      refine (argued.stacked other).kept grown (argued.taken other) (Nat.le_of_eq objects.symm)
        (others other atSlot) ?_
      -- the entry is for another object
      intro otherId _ otherNamed
      rw [log]
      apply Rounds.round_other
      rw [key]
      intro same
      cases same
      exact atSlot (argued.distinct other slot id otherNamed named)
  · intro left right
    rw [kernelId, kernelId]
    exact argued.distinct left right
  · intro other
    rw [kernelId, kernelCount]
    exact argued.fresh other
  · intro other value member
    by_cases atSlot : other = slot
    · rw [atSlot, Function.update_self] at member
      exact taken value member
    · rw [Function.update_of_ne atSlot] at member
      exact (argued.taken other value member).mono grown

/-- The state after a successful `push_arg`. -/
def State.argPushed (driver : Driver) (slot : Fin 32) (argSize : BitVec 64) (argValue : ArgValue)
    (state : State) : State :=
  (state.issued driver (.setKernelArg (state.kernels slot).kernelId
    (state.kernels slot).argStackSize argSize argValue)).setKernel slot
      { state.kernels slot with argStackSize := (state.kernels slot).argStackSize + 1 }

theorem Argued.argPushed (argued : Argued state pushed) (neverFails : driver.NeverFails)
    (stored : (state.kernels slot).kernelId ≠ .null) {argSize : BitVec 64} {argValue : ArgValue}
    (value : Pushed) (copied : argValue.copied argSize = value.value state)
    (taken : value.Taken state) :
    Argued (state.argPushed driver slot argSize argValue)
      (Function.update pushed slot (pushed slot ++ [value])) := by
  obtain ⟨id, created, stack, round⟩ := argued.filled stored
  have named : (state.kernels slot).kernelId = .object id := congrArg Prod.fst stack
  have position : (state.kernels slot).argStackSize = (pushed slot).length :=
    congrArg Prod.snd stack
  have length : (Rounds.round (.object id) (settings state.log)).length = (pushed slot).length := by
    rw [round, List.length_map]
  have log : settings (state.argPushed driver slot argSize argValue).log =
      .set (.object id) (pushed slot).length (value.value state) :: settings state.log := by
    refine List.filterMap_cons_some ?_
    rw [← named, ← position, ← copied]
    exact if_pos (neverFails _)
  have grown : Extends state (state.argPushed driver slot argSize argValue) :=
    ⟨Nat.le_refl _, Nat.le_refl _, List.suffix_cons _ _, fun marked => marked, fun _ _ => rfl,
      fun _ _ => rfl⟩
  have nextTaken : ∀ other ∈ pushed slot ++ [value], other.Taken state :=
    List.forall_mem_append.mpr ⟨argued.taken slot, List.forall_mem_singleton.mpr taken⟩
  refine argued.entered grown named rfl log ?_ rfl rfl ?_ ?_ ?_ ?_
  · rw [← length]
    exact argued.positional.set _ _
  · rw [List.length_append, List.length_singleton, ← position, ← named]
    show (Function.update state.kernels slot _ slot).stack = _
    rw [Function.update_self]
    rfl
  · intro other elsewhere
    exact congrArg Kernel.stack (Function.update_of_ne elsewhere ..)
  · have values := List.map_congr_left fun other member => (nextTaken other member).value_eq grown
    rw [log, Rounds.round_set, round, values, List.map_append]
    rfl
  · exact fun other member => (nextTaken other member).mono grown

theorem Argued.launched (argued : Argued state pushed)
    (stored : (state.kernels slot).kernelId ≠ .null) (workDim : BitVec 32)
    (globalWorkSize : List (BitVec 64)) (localWorkSize : Option (List (BitVec 64))) :
    Argued (state.launched driver slot workDim globalWorkSize localWorkSize)
      (Function.update pushed slot []) := by
  obtain ⟨id, created, stack, round⟩ := argued.filled stored
  have named : (state.kernels slot).kernelId = .object id := congrArg Prod.fst stack
  have log : settings (state.launched driver slot workDim globalWorkSize localWorkSize).log =
      .use (.object id) :: settings state.log := by
    refine List.filterMap_cons_some ?_
    rw [← named]
    rfl
  have grown : Extends state (state.launched driver slot workDim globalWorkSize localWorkSize) :=
    ⟨Nat.le_refl _, Nat.le_refl _, List.suffix_cons _ _, fun marked => marked, fun _ _ => rfl,
      fun _ _ => rfl⟩
  refine argued.entered grown named rfl log (argued.positional.use _) rfl rfl ?_ ?_ ?_ nofun
  · rw [← named]
    show (Function.update state.kernels slot _ slot).stack = _
    rw [Function.update_self]
    rfl
  · intro other elsewhere
    exact congrArg Kernel.stack (Function.update_of_ne elsewhere ..)
  · rw [log, Rounds.round_use]
    rfl

/-- The stack of a kernel that was just created is empty. -/
theorem Argued.kernelFilled (argued : Argued state pushed) (unused : slot.val = state.kernelCount)
    (source : List (BitVec 8)) (options : Option String) (name : String) (status : BitVec 32)
    (maxWorkGroupSize : BitVec 64) :
    Argued ((state.kernelSlotTaken slot).kernelFilled slot source options name status
      maxWorkGroupSize) pushed := by
  let next := (state.kernelSlotTaken slot).kernelFilled slot source options name status
    maxWorkGroupSize
  have grown : Extends state next :=
    ⟨Nat.le_refl _, Nat.le_succ _, (List.suffix_cons _ _).trans (List.suffix_append _ _),
      fun marked => marked, fun _ _ => rfl, fun _ _ => rfl⟩
  have null : (state.kernels slot).kernelId = .null := argued.fresh slot (Nat.le_of_eq unused.symm)
  have stack : (next.kernels slot).stack = (.object (state.objects + 1), 0) := by
    show (Function.update state.kernels slot _ slot).stack = _
    rw [Function.update_self]
    rfl
  have others : ∀ other, other ≠ slot → next.kernels other = state.kernels other :=
    fun other elsewhere => Function.update_of_ne elsewhere ..
  -- no other kernel has the name of the new one
  have named : ∀ other id, (next.kernels other).kernelId = .object id →
      other = slot ∧ id = state.objects + 1 ∨
        other ≠ slot ∧ (state.kernels other).kernelId = .object id ∧ id < state.objects := by
    intro other id same
    by_cases atSlot : other = slot
    · rw [atSlot] at same
      cases same.symm.trans (congrArg Prod.fst stack)
      exact .inl ⟨atSlot, rfl⟩
    · rw [others other atSlot] at same
      exact .inr ⟨atSlot, same, argued.below same⟩
  constructor
  · exact argued.positional
  · intro entry member
    obtain ⟨id, below, same⟩ := argued.known entry member
    exact ⟨id, Nat.lt_add_right 2 below, same⟩
  · intro other
    by_cases atSlot : other = slot
    · subst atSlot
      have nothing : pushed other = [] := by
        rcases argued.stacked other with ⟨_, nothing⟩ | ⟨id, _, stack, _⟩
        · exact nothing
        · cases null.symm.trans (congrArg Prod.fst stack)
      rw [nothing]
      refine .filled (state.objects + 1) (Nat.lt_succ_self _) stack ?_
      apply Rounds.round_of_unknown
      intro entry member same
      obtain ⟨id, below, known⟩ := argued.known entry member
      cases same.symm.trans known
      exact Nat.not_succ_lt_self below
    · refine (argued.stacked other).kept grown (argued.taken other) (Nat.le_add_right _ 2) ?_ ?_
      · rw [others other atSlot]
      · exact fun _ _ _ => rfl
  · intro left right id leftNamed rightNamed
    rcases named left id leftNamed with ⟨leftHere, new⟩ | ⟨_, leftNamed, leftBelow⟩
    · rcases named right id rightNamed with ⟨rightHere, _⟩ | ⟨_, _, rightBelow⟩
      · rw [leftHere, rightHere]
      · omega
    · rcases named right id rightNamed with ⟨_, new⟩ | ⟨_, rightNamed, _⟩
      · omega
      · exact argued.distinct left right id leftNamed rightNamed
  · intro other fresh
    have later : state.kernelCount < other.val := fresh
    rw [others other (by rintro rfl; omega)]
    exact argued.fresh other (Nat.le_of_lt later)
  · exact argued.taken

end Argued

/-! ### Steps -/

section Steps

variable {driver : Driver} {state after : State} {session next : Session} {op : Op}
  {pushed : Fin 32 → List Pushed}

/-- Without failures of OpenCL, `create_kernel` raises only before it has a source. -/
theorem unargued_createKernel (sound : Sound state) (neverFails : driver.NeverFails)
    {filePath : String} {cmpOpt : Option String} {mainF msg : String}
    (raised : (createKernel driver filePath cmpOpt mainF).run state =
      .error (.runtimeError msg) after) : Unargued state after := by
  rcases createKernel_ends driver sound filePath cmpOpt mainF with
    ⟨_, ⟨_, refused⟩, _⟩ | ⟨_, slot, next, ends⟩
  · rw [refused] at raised
    cases raised
    exact unargued_tornDown driver state
  · have taken : Unargued state (state.kernelSlotTaken slot) :=
      ⟨rfl, fun _ => rfl, Nat.le_refl _, Nat.le_succ _⟩
    rw [raised] at ends
    generalize result : (EStateM.Result.error (.runtimeError msg) after :
      EStateM.Result Failure State (Fin 32)) = ended at ends
    cases ends with
    | unread missing failing balanced =>
        cases result
        rcases balanced with rfl | rfl
        · exact taken.trans (unargued_tornDown driver _)
        · have freed : Unargued (state.kernelSlotTaken slot)
              (((state.kernelSlotTaken slot).record .malloc).record .free) :=
            (unargued_record rfl _).trans (unargued_record rfl _)
          exact (taken.trans freed).trans (unargued_tornDown driver _)
    | programFailed source loaded failed => exact absurd (neverFails _) failed
    | programLeft source loaded created failed =>
        rcases failed with failed | failed
        · exact absurd (neverFails _) failed
        · exact absurd (neverFails _) failed
    | filled => cases result

theorem unargued_execute (sound : Sound state) (neverFails : driver.NeverFails) {slot : Fin 32}
    {workDim : BitVec 32} {globalWorkSize : List (BitVec 64)}
    {localWorkSize : Option (List (BitVec 64))} {msg : String}
    (raised : (execute driver slot workDim globalWorkSize localWorkSize).run state =
      .error (.runtimeError msg) after) : Unargued state after := by
  rw [run_execute driver sound.toInBounds] at raised
  by_cases marked : state.initialized = true
  · rw [if_pos marked] at raised
    cases checked : checkWorkParameters state.device (state.kernels slot).maxWorkGroupSize workDim
      globalWorkSize localWorkSize with
    | ok accepted =>
        cases accepted
        simp only [checked, afterCall, if_pos (neverFails _)] at raised
        cases raised
    | error failure =>
        rw [checked] at raised
        cases failure with
        | runtimeError other =>
            cases raised
            exact unargued_tornDown driver state
        | outOfBounds | slotOutOfBounds | typeOutOfBounds | divisionByZero | signedOverflow
        | undefinedShift =>
            cases raised
  · rw [if_neg marked] at raised
    cases raised
    exact unargued_tornDown driver state

theorem run_pushArg_ok (sound : Sound state) (neverFails : driver.NeverFails) (slot : Fin 32)
    (argSize : BitVec 64) (argValue : ArgValue) :
    (pushArg driver slot argSize argValue).run state =
      .ok () (state.argPushed driver slot argSize argValue) := by
  rw [run_pushArg driver sound.toInBounds]
  exact if_pos (neverFails _)

theorem run_pushBuffer_ok (sound : Sound state) (neverFails : driver.NeverFails)
    (slot buffer : Fin 32) :
    (pushBuffer driver slot buffer).run state =
      .ok () (state.argPushed driver slot 8#64
        (.memObject (state.allocations buffer).handle)) := by
  unfold pushBuffer
  rw [run_get_bind, run_pushArg_ok sound neverFails]

/-- Without failures of OpenCL, an operation that raises touches no argument. -/
theorem unargued_of_raised (sound : Sound state) (neverFails : driver.NeverFails) {msg : String}
    (raised : (op.perform driver).run state = .error (.runtimeError msg) after) :
    Unargued state after := by
  by_cases plain : op.IsPlain
  · have unargued : Unargued state (endState ((op.perform driver).run state)) :=
      unargued_perform sound plain
    rwa [raised] at unargued
  · cases op with
    | pushArg slot argSize value =>
        rw [Op.perform, run_map, run_pushArg_ok sound neverFails] at raised
        cases raised
    | pushBuffer slot buffer =>
        rw [Op.perform, run_map, run_pushBuffer_ok sound neverFails] at raised
        cases raised
    | execute slot workDim globalWorkSize localWorkSize =>
        exact unargued_execute sound neverFails (raised_of_map raised)
    | createKernel filePath cmpOpt mainF =>
        exact unargued_createKernel sound neverFails (raised_of_map raised)
    | init | displayOpenclInfo | block | checkError | allocate | readBuffer | readWhole
    | writeBuffer | writeWhole | zerosFloat | release | cleanupKernel =>
        exact absurd trivial plain

theorem Argued.of_update {slot : Fin 32} (change : List Pushed → List Pushed)
    (argued : Argued state (Function.update pushed slot (change (pushed slot)))) :
    Argued state fun kernel => if slot = kernel then change (pushed kernel) else pushed kernel := by
  refine Eq.mp (congrArg (Argued state) ?_) argued
  funext kernel
  by_cases same : slot = kernel
  · rw [if_pos same, same, Function.update_self]
  · rw [if_neg same, Function.update_of_ne (Ne.symm same)]

/-- Without failures of OpenCL, an operation that returns leaves the arguments as it changes
what was pushed. -/
theorem argued_of_returned (sound : Sound state) (neverFails : driver.NeverFails)
    (argued : Argued state pushed)
    (buffers : ∀ buffer ∈ op.buffers, buffer.val < state.allocationCount)
    (kernels : ∀ kernel ∈ op.kernels, (state.kernels kernel).kernelId ≠ .null)
    (grown : Extends state after) {value : Returned}
    (ran : (op.perform driver).run state = .ok value after) :
    Argued after fun kernel => op.argue kernel (pushed kernel) := by
  by_cases plain : op.IsPlain
  · have unargued : Unargued state (endState ((op.perform driver).run state)) :=
      unargued_perform sound plain
    rw [ran] at unargued
    have kept := argued.of_unargued unargued grown
    cases op with
    | pushArg | pushBuffer | execute | createKernel => exact plain.elim
    | init | displayOpenclInfo | block | checkError | allocate | readBuffer | readWhole
    | writeBuffer | writeWhole | zerosFloat | release | cleanupKernel => exact kept
  · cases op with
    | pushArg slot argSize bytes =>
        obtain ⟨_, ran, _⟩ := returned_of_map ran
        rw [run_pushArg_ok sound neverFails] at ran
        cases ran
        have entered := argued.argPushed neverFails (kernels slot List.mem_cons_self)
          (.bytes (bytes.take argSize.toNat)) (copied_bytes argSize bytes state) trivial
        exact entered.of_update fun values => values ++ [.bytes (bytes.take argSize.toNat)]
    | pushBuffer slot buffer =>
        obtain ⟨_, ran, _⟩ := returned_of_map ran
        rw [run_pushBuffer_ok sound neverFails] at ran
        cases ran
        have entered := argued.argPushed neverFails (kernels slot List.mem_cons_self)
          (.buffer buffer) (copied_buffer 8#64 buffer state) (buffers buffer List.mem_cons_self)
        exact entered.of_update fun values => values ++ [.buffer buffer]
    | execute slot workDim globalWorkSize localWorkSize =>
        obtain ⟨⟨⟩, ran, _⟩ := returned_of_map ran
        obtain ⟨_, rfl⟩ := execute_returned driver sound.toInBounds ran
        have entered : Argued (state.launched driver slot workDim globalWorkSize localWorkSize) _ :=
          argued.launched (kernels slot List.mem_cons_self) workDim globalWorkSize localWorkSize
        exact entered.of_update fun _ => []
    | createKernel filePath cmpOpt mainF =>
        obtain ⟨_, ran, _⟩ := returned_of_map ran
        obtain ⟨next, source, status, size, rfl⟩ := createKernel_returned driver sound ran
        exact argued.kernelFilled next source cmpOpt mainF status size
    | init | displayOpenclInfo | block | checkError | allocate | readBuffer | readWhole
    | writeBuffer | writeWhole | zerosFloat | release | cleanupKernel =>
        exact absurd trivial plain

/-! ### Runs -/

/-- The kernels of a session were created, and its context holds what was pushed to them. -/
structure Tracked (session : Session) (pushed : Fin 32 → List Pushed) : Prop
    extends session.Valid where
  stored : ∀ kernel ∈ session.kernels, (session.context.kernels kernel).kernelId ≠ .null
  argued : Argued session.context pushed

theorem tracked_start (garbage : Garbage) : Tracked (Session.start garbage) fun _ => [] where
  toValid := Session.valid_start garbage
  stored := nofun
  argued := argued_constructed garbage

/-- A kernel stays the one that was created in its slot. -/
theorem stored_of_effects {slot : Fin 32} (path : ReflTransGen (Effect driver) state after)
    (stored : (state.kernels slot).kernelId ≠ .null) :
    (after.kernels slot).kernelId ≠ .null := by
  induction path with
  | refl => exact stored
  | tail _ effect inductionHypothesis =>
      rcases effect.kernel_handles slot with kept | ⟨filled, _⟩
      · exact fun null => inductionHypothesis ((congrArg Prod.fst kept).symm.trans null)
      · intro null
        cases null.symm.trans (congrArg Prod.fst filled)

theorem perform_stored (sound : Sound state) {slot : Fin 32}
    (ran : (op.perform driver).run state = .ok (.kernel slot) after) :
    (after.kernels slot).kernelId ≠ .null := by
  obtain ⟨filePath, cmpOpt, mainF, ran⟩ := perform_from ran
  obtain ⟨_, source, status, size, rfl⟩ := createKernel_returned driver sound ran
  show (Function.update state.kernels slot _ slot).kernelId ≠ .null
  rw [Function.update_self]
  exact nofun

theorem Tracked.step (tracked : Tracked session pushed) (neverFails : driver.NeverFails)
    (stepped : session.step driver op = some next) :
    Tracked next fun kernel =>
      if op.returns driver session.context then op.argue kernel (pushed kernel)
      else pushed kernel := by
  have effects := Session.step_effects tracked.toValid stepped
  have grown := extends_of_effects effects
  have stored : ∀ kernel ∈ session.kernels, (next.context.kernels kernel).kernelId ≠ .null :=
    fun kernel member => stored_of_effects effects (tracked.stored kernel member)
  have valid := Session.step_valid tracked.toValid stepped
  obtain ⟨provides, returned | raised⟩ := Session.step_cases stepped
  · obtain ⟨value, context, ran, rfl⟩ := returned
    have returns : op.returns driver session.context = true := by
      rw [Op.returns, ran]
    have taken : ∀ buffer ∈ op.buffers, buffer.val < session.context.allocationCount :=
      fun buffer given => (tracked.buffers buffer (provides.1 buffer given)).1
    have created : ∀ kernel ∈ op.kernels, (session.context.kernels kernel).kernelId ≠ .null :=
      fun kernel given => tracked.stored kernel (provides.2 kernel given)
    simp only [returns, if_true]
    rw [Session.returned_context] at stored grown
    have argued := argued_of_returned tracked.context neverFails tracked.argued taken created grown
      ran
    refine ⟨valid, ?_, (Session.returned_context value context).symm ▸ argued⟩
    cases value with
    | nothing | buffer => exact stored
    | kernel slot => exact List.forall_mem_cons.mpr ⟨perform_stored tracked.context ran, stored⟩
  · obtain ⟨msg, context, ran, rfl⟩ := raised
    have unargued := unargued_of_raised tracked.context neverFails ran
    have raises : op.returns driver session.context = false := by
      rw [Op.returns, ran]
    simp only [raises]
    exact ⟨valid, stored, tracked.argued.of_unargued unargued grown⟩

theorem Op.exists_of_returns (returns : op.returns driver state = true) :
    ∃ value after, (op.perform driver).run state = .ok value after := by
  unfold Op.returns at returns
  generalize (op.perform driver).run state = result at returns
  cases result with
  | ok value after => exact ⟨value, after, rfl⟩
  | error failure after => cases returns

theorem returnedOps_cons (session : Session) (op : Op) (rest : List Op) :
    session.returnedOps driver (op :: rest) =
      match session.step driver op with
      | none => []
      | some next =>
          if op.returns driver session.context then op :: next.returnedOps driver rest
          else next.returnedOps driver rest := by
  rfl

theorem returnedOps_sublist (driver : Driver) (session : Session) (ops : List Op) :
    (session.returnedOps driver ops).Sublist ops := by
  induction ops generalizing session with
  | nil => exact List.nil_sublist _
  | cons op rest inductionHypothesis =>
      rw [returnedOps_cons]
      cases session.step driver op with
      | none => exact List.nil_sublist _
      | some next =>
          dsimp only
          split
          · exact (inductionHypothesis next).cons_cons op
          · exact (inductionHypothesis next).cons op

/-- What a run pushed is what its operations that returned pushed. -/
theorem Tracked.run (tracked : Tracked session pushed) (neverFails : driver.NeverFails)
    {ops : List Op} (ran : session.run driver ops = some next) :
    Tracked next fun kernel =>
      (session.returnedOps driver ops).foldl (Op.argue kernel) (pushed kernel) := by
  induction ops generalizing session pushed with
  | nil =>
      cases ran
      exact tracked
  | cons op rest inductionHypothesis =>
      obtain ⟨between, stepped, ranRest⟩ := Session.run_cases ran
      have last := inductionHypothesis (tracked.step neverFails stepped) ranRest
      rw [returnedOps_cons, stepped]
      by_cases returns : op.returns driver session.context = true
      · simpa only [returns, if_true, List.foldl_cons] using last
      · simpa only [returns, if_false, Bool.false_eq_true] using last

end Steps

/-! ### Launches -/

section Launches

variable (kernel : Fin 32) (workDim : BitVec 32) (globalWorkSize : List (BitVec 64))
  (localWorkSize : Option (List (BitVec 64)))

/-- Between the two states the kernel is launched once, and OpenCL holds these arguments for
its first parameters. -/
structure RunsWith (before after : State) (arguments : List ArgValue) : Prop where
  enqueued : after.log = .call (.enqueueNDRangeKernel before.clcommandQueue
    (before.kernels kernel).kernelId workDim globalWorkSize localWorkSize) 0#32 .null :: before.log
  held : (List.range arguments.length).map (fun index =>
      Rounds.held (before.kernels kernel).kernelId index (settings before.log)) =
    arguments.map some

variable {kernel workDim globalWorkSize localWorkSize} {driver : Driver} {garbage : Garbage}
  {ops : List Op} {session : Session} {after : State}

/-- A launch runs with the arguments of its round, in the order in which they were pushed. -/
theorem runsWith_pending (neverFails : driver.NeverFails)
    (ran : (Session.start garbage).run driver ops = some session) (given : kernel ∈ session.kernels)
    (launched : (execute driver kernel workDim globalWorkSize localWorkSize).run session.context =
      .ok () after) :
    RunsWith kernel workDim globalWorkSize localWorkSize session.context after
      ((pending kernel ((Session.start garbage).returnedOps driver ops)).map
        (Pushed.value session.context)) := by
  have tracked := (tracked_start garbage).run neverFails ran
  obtain ⟨id, _, stack, round⟩ := tracked.argued.filled (tracked.stored kernel given)
  have named : (session.context.kernels kernel).kernelId = .object id := congrArg Prod.fst stack
  constructor
  · rw [(execute_returned driver tracked.context.toInBounds launched).2]
    show Event.call _ (driver.status _) _ :: _ = _
    rw [neverFails]
    rfl
  · have held := tracked.argued.positional.held_round (.object id)
    rw [round] at held
    rw [named]
    exact held

end Launches

end OpenClHash.Wrapper
