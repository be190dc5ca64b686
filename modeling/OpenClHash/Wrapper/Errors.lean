import OpenClHash.Library.Reporting
import OpenClHash.Wrapper.Session

/-!
Owns what becomes of the status of a call. Seven calls are made without a look at their status:
the queries of the build log and of the work-group size, and the releases. Every other failure
surfaces: an operation returns only if all its other calls succeeded, and raises only if one of
them failed or before it made any. The lookup of a device's type past its table is the end of a
run that has no meaning.
-/

namespace OpenClHash.Wrapper

open OpenClHash.Sizing OpenClHash.Library.Fallible OpenClHash.Library.Reporting

/-! ### Looking at a status -/

/-- The status is looked at. -/
def ClCall.checked : ClCall → Bool
  | .getProgramBuildInfo _ | .getKernelWorkGroupInfo _ | .releaseMemObject _ | .releaseKernel _
  | .releaseProgram _ | .releaseCommandQueue _ | .releaseContext _ => false
  | _ => true

def Event.Checked : Event → Prop
  | .call request _ _ => request.checked = true
  | _ => False

def Event.Failed : Event → Prop
  | .call request status _ => request.checked = true ∧ status ≠ 0#32
  | _ => False

theorem Event.Failed.checked {event : Event} (failed : event.Failed) : event.Checked := by
  cases event with
  | call request status result => exact failed.1
  | malloc => exact failed
  | free => exact failed
  | allocationTaken slot => exact failed
  | kernelTaken slot => exact failed
  | kernelInit slot kernel program => exact failed
  | cleanup => exact failed

theorem Event.not_failed_of_unchecked {event : Event} (unchecked : ¬ event.Checked) :
    ¬ event.Failed := fun failed => unchecked failed.checked

/-! ### Programs without such a call -/

/-- The failure is not the lookup of a device's type past its table. -/
abbrev InTable (failure : Failure) : Prop := failure ≠ .typeOutOfBounds

/-- The program makes no call whose status is looked at. -/
abbrev Unchecked {α : Type} (program : Cl α) : Prop :=
  Makes State.log (fun event => ¬ event.Checked) program

section Unchecked

variable {driver : Driver} {α β : Type}

theorem Unchecked.bind {program : Cl α} {next : α → Cl β} (first : Unchecked program)
    (second : ∀ value, Unchecked (next value)) : Unchecked (program >>= next) :=
  Moves.bind (adds_composable _) first second

theorem unchecked_pure (value : α) : Unchecked (pure value : Cl α) :=
  moves_pure (adds_composable _) value

theorem unchecked_get : Unchecked (get : Cl State) := moves_get (adds_composable _)

theorem unchecked_modify {change : State → State} (same : ∀ state, (change state).log = state.log) :
    Unchecked (modify change) := fun state => adds_nothing _ (same state)

theorem unchecked_note (event : Event) (unchecked : ¬ event.Checked) : Unchecked (note event) :=
  fun _ => ⟨[event], rfl, List.forall_mem_singleton.mpr unchecked⟩

theorem unchecked_throw (failure : Failure) : Unchecked (throw failure : Cl α) :=
  fun _ => adds_nothing _ rfl

theorem unchecked_slotAt (index : Nat) : Unchecked (slotAt index) := by
  unfold slotAt
  split
  · exact unchecked_pure _
  · exact unchecked_throw _

theorem unchecked_issue {call : ClCall} (unchecked : call.checked = false) :
    Unchecked (issue driver call) := by
  intro state
  refine ⟨[.call call (driver.status state.log.length) .null], rfl, ?_⟩
  rw [List.forall_mem_singleton]
  intro checked
  exact Bool.false_ne_true (unchecked.symm.trans checked)

theorem unchecked_releaseHandle {call : Handle → ClCall}
    (unchecked : ∀ handle, (call handle).checked = false) (handle : Handle) :
    Unchecked (releaseHandle driver call handle) := by
  unfold releaseHandle
  split
  · exact unchecked_pure _
  · exact (unchecked_issue (unchecked handle)).bind fun _ => unchecked_pure _

theorem unchecked_release (slot : Fin 32) : Unchecked (release driver slot) := by
  apply unchecked_get.bind
  intro state
  dsimp only
  split
  · exact unchecked_modify fun _ => rfl
  · apply (unchecked_releaseHandle (fun _ => rfl) _).bind
    exact fun _ => unchecked_modify fun _ => rfl

theorem unchecked_cleanupKernel (slot : Fin 32) : Unchecked (cleanupKernel driver slot) := by
  apply unchecked_get.bind
  intro state
  dsimp only
  split
  · refine Unchecked.bind (unchecked_modify fun _ => rfl) fun _ => ?_
    apply (unchecked_releaseHandle (fun _ => rfl) _).bind
    exact fun _ => unchecked_releaseHandle (fun _ => rfl) _
  · exact unchecked_pure _

theorem unchecked_releaseHandles : Unchecked (releaseHandles driver) := by
  apply (unchecked_note .cleanup not_false).bind
  intro _
  apply unchecked_get.bind
  intro _
  apply (unchecked_releaseHandle (fun _ => rfl) _).bind
  intro _
  exact unchecked_get.bind fun _ => unchecked_releaseHandle (fun _ => rfl) _

theorem unchecked_cleanup : Unchecked (cleanup driver) := by
  apply unchecked_get.bind
  intro state
  apply Unchecked.bind
  · apply moves_forM (adds_composable _)
    exact fun i _ => (unchecked_slotAt i).bind unchecked_cleanupKernel
  intro _
  apply Unchecked.bind
  · apply moves_forM (adds_composable _)
    exact fun i _ => (unchecked_slotAt i).bind unchecked_release
  intro _
  exact unchecked_releaseHandles

theorem unchecked_checkError (errCode : BitVec 32) (msg : String) :
    Unchecked (checkError driver errCode msg) := by
  unfold checkError
  split
  · exact unchecked_cleanup.bind fun _ => unchecked_throw _
  · exact unchecked_pure _

theorem unchecked_check (condition : Bool) (msg : String) :
    Unchecked (check driver condition msg) := unchecked_checkError _ _

theorem unchecked_checkWork (slot : Fin 32) (workDim : BitVec 32)
    (globalWorkSize : List (BitVec 64)) (localWorkSize : Option (List (BitVec 64))) :
    Unchecked (checkWork driver slot workDim globalWorkSize localWorkSize) := by
  apply unchecked_get.bind
  intro state
  split
  · exact unchecked_pure _
  · exact unchecked_check _ _
  · exact unchecked_throw _

theorem unchecked_loadFile (path : String) : Unchecked (loadFile driver path) := by
  apply unchecked_get.bind
  intro state
  split
  · exact unchecked_pure _
  · apply (unchecked_note .malloc not_false).bind
    intro _
    apply unchecked_get.bind
    intro _
    split
    · exact (unchecked_note .free not_false).bind fun _ => unchecked_pure _
    · exact unchecked_pure _

theorem unchecked_kernelInit (slot : Fin 32) (kernelId programId : Handle)
    (maxWorkGroupSize : BitVec 64) :
    Unchecked (kernelInit driver slot kernelId programId maxWorkGroupSize) := by
  apply unchecked_get.bind
  intro state
  dsimp only
  split
  · apply (unchecked_cleanupKernel slot).bind
    intro _
    apply (unchecked_note (.kernelInit slot kernelId programId) not_false).bind
    exact fun _ => unchecked_modify fun _ => rfl
  · apply (unchecked_note (.kernelInit slot kernelId programId) not_false).bind
    exact fun _ => unchecked_modify fun _ => rfl

end Unchecked

/-! ### Programs that look at every other status -/

/-- What the program knows of the failures before it, and of those up to its end. -/
abbrev Minds {α : Type} (sound : Prop) (good : α → Prop) (program : Cl α) : Prop :=
  Tracks State.log Event.Failed InTable sound good program

section Minds

variable {driver : Driver} {α β : Type} {sound : Prop}

theorem minds_of_returns {program : Cl α} (unchecked : Unchecked program)
    (returns : ∀ before, ∃ value after, program.run before = .ok value after) :
    Minds sound (fun _ => sound) program :=
  tracks_of_returns (fun _ => Event.not_failed_of_unchecked) unchecked returns

theorem minds_get : Minds sound (fun _ => sound) (get : Cl State) :=
  minds_of_returns unchecked_get fun state => ⟨state, state, rfl⟩

theorem minds_modify {change : State → State} (same : ∀ state, (change state).log = state.log) :
    Minds sound (fun _ => sound) (modify change) :=
  minds_of_returns (unchecked_modify same) fun state => ⟨(), change state, rfl⟩

theorem minds_note (event : Event) (unchecked : ¬ event.Checked) :
    Minds sound (fun _ => sound) (note event) :=
  minds_of_returns (unchecked_note event unchecked) fun state => ⟨(), _, run_note event state⟩

/-- A call whose status is not looked at. -/
theorem minds_ignored {call : ClCall} (unchecked : call.checked = false) :
    Minds sound (fun _ => sound) (issue driver call) :=
  minds_of_returns (unchecked_issue unchecked) fun state => ⟨_, _, run_issue driver call state⟩

theorem minds_kernelInit (slot : Fin 32) (kernelId programId : Handle)
    (maxWorkGroupSize : BitVec 64) :
    Minds sound (fun _ => sound)
      (kernelInit driver slot kernelId programId maxWorkGroupSize) := by
  apply minds_of_returns (unchecked_kernelInit slot kernelId programId maxWorkGroupSize)
  intro state
  unfold kernelInit
  rw [run_get_bind]
  split
  · rw [run_bind_ok (run_cleanupKernel driver slot state)]
    exact ⟨(), _, rfl⟩
  · exact ⟨(), _, rfl⟩

/-- A call that was made, by its status. -/
theorem accounts_call {call : ClCall} (checked : call.checked = true) {before after : State}
    {status : BitVec 32} {result : Handle}
    (grown : after.log = .call call status result :: before.log) :
    Accounts State.log Event.Failed sound (sound ∧ status = 0#32) before after := by
  refine ⟨[.call call status result], grown, ?_⟩
  rw [List.forall_mem_singleton]
  show _ ↔ sound ∧ ¬ (call.checked = true ∧ status ≠ 0#32)
  rw [not_and, not_not, forall_prop_of_true checked]

theorem minds_issue {call : ClCall} (checked : call.checked = true) :
    Minds sound (fun status => sound ∧ status = 0#32) (issue driver call) :=
  fun _ => accounts_call checked rfl

theorem minds_create {call : ClCall} (checked : call.checked = true) :
    Minds sound (fun answer => sound ∧ answer.2 = 0#32) (create driver call) :=
  fun _ => accounts_call checked rfl

/-- `check_error` raises exactly the failures it is given. -/
theorem minds_checkError (errCode : BitVec 32) (msg : String) :
    Minds (sound ∧ errCode = 0#32) (fun _ => sound) (checkError driver errCode msg) := by
  unfold checkError
  by_cases success : errCode = 0#32
  · rw [if_neg (not_not_intro success)]
    exact tracks_pure (and_iff_left success).symm
  · rw [if_pos success]
    apply (tracks_of_unsound (fun good => success good.2) unchecked_cleanup).bind
    exact fun _ => tracks_throw not_false

theorem minds_call {call : ClCall} (checked : call.checked = true) (msg : String)
    {later : β → Prop} {next : Cl β} (rest : Minds sound later next) :
    Minds sound later
      (issue driver call >>= fun status => checkError driver status msg >>= fun _ => next) := by
  apply (minds_issue checked).bind
  intro status
  apply (minds_checkError status msg).bind
  exact fun _ => rest

theorem minds_lastCall {call : ClCall} (checked : call.checked = true) (msg : String) :
    Minds sound (fun _ => sound)
      (issue driver call >>= fun status => checkError driver status msg) :=
  (minds_issue checked).bind fun status => minds_checkError status msg

/-- The or of the statuses is zero only if each is. -/
theorem minds_issueAll {calls : List ClCall} (checked : ∀ call ∈ calls, call.checked = true) :
    Minds sound (fun status => sound ∧ status = 0#32) (issueAll driver calls) := by
  induction calls generalizing sound with
  | nil => exact tracks_pure (and_iff_left rfl)
  | cons call rest inductionHypothesis =>
      apply (minds_issue (checked call List.mem_cons_self)).bind
      intro status
      apply (inductionHypothesis fun other member =>
        checked other (List.mem_cons_of_mem _ member)).bind
      intro others
      apply tracks_pure
      rw [BitVec.or_eq_zero_iff, and_assoc]

theorem minds_deviceInfo {store : DeviceInfo → State → State}
    (same : ∀ info state, (store info state).log = state.log) :
    Minds sound (fun _ => sound) (deviceInfo driver store) := by
  apply minds_get.bind
  intro state
  apply (minds_issueAll (by decide)).bind
  intro status
  apply (minds_modify (same _)).bind
  intro _
  apply (minds_checkError status _).bind
  exact fun _ => tracks_pure Iff.rfl

theorem minds_platformInfo (devices : Bool) :
    Minds True (fun _ => True) (platformInfo driver devices) := by
  apply (minds_issueAll (by decide)).bind
  intro status
  apply (minds_checkError status _).bind
  intro _
  cases devices with
  | false => exact tracks_pure Iff.rfl
  | true =>
      apply minds_get.bind
      intro state
      apply minds_call rfl
      apply minds_call rfl
      apply tracks_mapM
      exact fun _ _ => minds_deviceInfo fun _ _ => rfl

theorem minds_printDevice (device : DeviceInfo) :
    Minds True (fun _ => True) (printDevice device) := by
  unfold printDevice
  split
  · exact tracks_pure Iff.rfl
  · exact fun _ raised => absurd rfl raised

theorem minds_displayOpenclInfo : Minds True (fun _ => True) (displayOpenclInfo driver) := by
  apply minds_get.bind
  intro state
  apply minds_call rfl
  apply minds_call rfl
  apply tracks_forM
  intro _ _
  apply (minds_platformInfo true).bind
  intro devices
  exact tracks_forM fun device _ => minds_printDevice device

theorem minds_selectDevice : Minds True (fun _ => True) (selectDevice driver) := by
  apply minds_call rfl
  apply (minds_platformInfo false).bind
  intro _
  apply minds_call rfl
  refine Tracks.bind (minds_deviceInfo fun _ _ => rfl) fun device => ?_
  exact minds_printDevice device

theorem minds_createInto {store : Handle → State → State}
    (same : ∀ handle state, (store handle state).log = state.log) {call : ClCall}
    (checked : call.checked = true) (failed : String) :
    Minds sound (fun _ => sound) (createInto driver store call failed) := by
  apply (minds_create checked).bind
  rintro ⟨handle, status⟩
  apply (minds_modify (same handle)).bind
  exact fun _ => minds_checkError status failed

theorem minds_init : Minds True (fun _ => True) (init driver) := by
  apply minds_selectDevice.bind
  intro _
  apply (minds_createInto ?contextStored rfl _).bind
  case contextStored => exact fun _ _ => rfl
  intro _
  apply minds_get.bind
  intro state
  apply (minds_createInto ?queueStored rfl _).bind
  case queueStored => exact fun _ _ => rfl
  exact fun _ => minds_modify fun _ => rfl

theorem minds_block : Minds sound (fun _ => sound) (block driver) := by
  apply minds_get.bind
  intro state
  apply minds_call rfl
  exact minds_get.bind fun _ => minds_lastCall rfl _

theorem minds_buildProgram (kernelSource : List (BitVec 8)) (cmpOpt : Option String) :
    Minds sound (fun _ => sound) (buildProgram driver kernelSource cmpOpt) := by
  apply minds_get.bind
  intro state
  apply (minds_create rfl).bind
  rintro ⟨programId, created⟩
  apply (minds_checkError created _).bind
  intro _
  apply (minds_note .free not_false).bind
  intro _
  apply (minds_issue rfl).bind
  intro built
  -- the build log is fetched before the status of the build is looked at
  have checked : Minds (sound ∧ built = 0#32) (fun _ => sound) (do
      checkError driver built "Error in clBuildProgram"
      return programId) := (minds_checkError built _).bind fun _ => tracks_pure Iff.rfl
  dsimp only
  split
  · exact (minds_ignored rfl).bind fun _ => checked
  · exact checked

theorem minds_pushArg (slot : Fin 32) (argSize : BitVec 64) (argValue : ArgValue) :
    Minds sound (fun _ => sound) (pushArg driver slot argSize argValue) := by
  apply minds_get.bind
  intro state
  apply minds_call rfl
  exact minds_modify fun _ => rfl

end Minds

/-! ### Operations -/

/-- The program returns only if no call of it failed whose status is looked at, and raises only
if one did or it made none. -/
abbrev Surfaces {α : Type} (program : Cl α) : Prop :=
  Answers State.log Event.Checked Event.Failed InTable program

section Operations

variable {driver : Driver} {α β : Type}

theorem Unchecked.surfaces {program : Cl α} (unchecked : Unchecked program) : Surfaces program :=
  Makes.answers (fun _ => Event.not_failed_of_unchecked) unchecked

theorem Unchecked.guards {program : Cl α} {next : α → Cl β} (guard : Unchecked program)
    (rest : ∀ value, Surfaces (next value)) : Surfaces (program >>= next) :=
  Answers.of_guard (fun _ => Event.not_failed_of_unchecked) guard rest

/-- A check of the context before anything is asked of OpenCL. -/
theorem surfaces_check {condition : State → Bool} {msg : String} {next : Cl α}
    (rest : Surfaces next) :
    Surfaces (get >>= fun state => check driver (condition state) msg >>= fun _ => next) := by
  apply unchecked_get.guards
  intro state
  apply (unchecked_check (condition state) msg).guards
  exact fun _ => rest

theorem surfaces_init : Surfaces (init driver) := minds_init.answers

theorem surfaces_allocate (flags size : BitVec 64) : Surfaces (allocate driver flags size) := by
  apply surfaces_check
  apply surfaces_check
  apply unchecked_get.guards
  intro _
  apply (unchecked_slotAt _).guards
  intro slot
  refine Unchecked.guards (unchecked_modify fun _ => rfl) fun _ => ?_
  apply (unchecked_note (.allocationTaken slot) not_false).guards
  intro _
  apply unchecked_get.guards
  intro _
  apply Tracks.answers
  apply (minds_createInto ?stored rfl _).bind
  case stored => exact fun _ _ => rfl
  exact fun _ => tracks_pure Iff.rfl

theorem surfaces_fillKernel (slot : Fin 32) (filePath : String) (cmpOpt : Option String)
    (mainF : String) : Surfaces (fillKernel driver slot filePath cmpOpt mainF) := by
  apply (unchecked_loadFile filePath).guards
  intro kernelSource
  apply (unchecked_check _ _).guards
  intro _
  apply Tracks.answers
  apply (minds_buildProgram _ _).bind
  intro programId
  apply (minds_create rfl).bind
  rintro ⟨kernelId, created⟩
  apply (minds_checkError created _).bind
  intro _
  apply minds_get.bind
  intro state
  apply (minds_ignored rfl).bind
  intro _
  exact (minds_kernelInit _ _ _ _).bind fun _ => tracks_pure Iff.rfl

theorem surfaces_createKernel (filePath : String) (cmpOpt : Option String) (mainF : String) :
    Surfaces (createKernel driver filePath cmpOpt mainF) := by
  apply surfaces_check
  apply surfaces_check
  apply unchecked_get.guards
  intro _
  apply (unchecked_slotAt _).guards
  intro slot
  refine Unchecked.guards (unchecked_modify fun _ => rfl) fun _ => ?_
  apply (unchecked_note (.kernelTaken slot) not_false).guards
  exact fun _ => surfaces_fillKernel slot filePath cmpOpt mainF

theorem surfaces_transfer (slot : Fin 32) (size : BitVec 64) (tooMuch failed : String)
    {command : Handle → Handle → ClCall}
    (checked : ∀ queue buffer, (command queue buffer).checked = true) :
    Surfaces (transfer driver slot size tooMuch failed command) := by
  apply surfaces_check
  apply surfaces_check
  apply unchecked_get.guards
  exact fun _ => (minds_lastCall (checked _ _) failed).answers

theorem surfaces_readWhole (slot : Fin 32) (blocking : Bool) :
    Surfaces (readWhole driver slot blocking) :=
  unchecked_get.guards fun _ => surfaces_transfer _ _ _ _ fun _ _ => rfl

theorem surfaces_writeWhole (slot : Fin 32) (source : List (BitVec 8)) (blocking : Bool) :
    Surfaces (writeWhole driver slot source blocking) :=
  unchecked_get.guards fun _ => surfaces_transfer _ _ _ _ fun _ _ => rfl

theorem surfaces_pushArg (slot : Fin 32) (argSize : BitVec 64) (argValue : ArgValue) :
    Surfaces (pushArg driver slot argSize argValue) := (minds_pushArg slot argSize argValue).answers

theorem surfaces_pushBuffer (slot buffer : Fin 32) : Surfaces (pushBuffer driver slot buffer) :=
  unchecked_get.guards fun _ => surfaces_pushArg slot _ _

theorem surfaces_execute (slot : Fin 32) (workDim : BitVec 32) (globalWorkSize : List (BitVec 64))
    (localWorkSize : Option (List (BitVec 64))) :
    Surfaces (execute driver slot workDim globalWorkSize localWorkSize) := by
  apply surfaces_check
  apply (unchecked_checkWork slot workDim globalWorkSize localWorkSize).guards
  intro _
  refine Unchecked.guards (unchecked_modify fun _ => rfl) fun _ => ?_
  apply unchecked_get.guards
  exact fun _ => (minds_lastCall rfl _).answers

/-- No operation returns over a failure, and none raises for a call that succeeded. -/
theorem failures_surface (driver : Driver) (op : Op) : Surfaces (op.perform driver) := by
  cases op with
  | init => exact surfaces_init.map
  | displayOpenclInfo => exact minds_displayOpenclInfo.answers.map
  | block => exact minds_block.answers.map
  | checkError errCode msg => exact (unchecked_checkError errCode msg).surfaces.map
  | allocate flags size => exact (surfaces_allocate flags size).map
  | createKernel filePath cmpOpt mainF => exact (surfaces_createKernel filePath cmpOpt mainF).map
  | readBuffer buffer offset size blocking =>
      exact (surfaces_transfer buffer size _ _ fun _ _ => rfl).map
  | readWhole buffer blocking => exact (surfaces_readWhole buffer blocking).map
  | writeBuffer buffer offset size source blocking =>
      exact (surfaces_transfer buffer size _ _ fun _ _ => rfl).map
  | writeWhole buffer source blocking => exact (surfaces_writeWhole buffer source blocking).map
  | zerosFloat buffer blocking =>
      exact (unchecked_get.guards fun _ => surfaces_writeWhole buffer _ blocking).map
  | release buffer => exact (unchecked_release buffer).surfaces.map
  | pushArg kernel argSize value => exact (surfaces_pushArg kernel argSize _).map
  | pushBuffer kernel buffer => exact (surfaces_pushBuffer kernel buffer).map
  | execute kernel workDim globalWorkSize localWorkSize =>
      exact (surfaces_execute kernel workDim globalWorkSize localWorkSize).map
  | cleanupKernel kernel => exact (unchecked_cleanupKernel kernel).surfaces.map

end Operations

end OpenClHash.Wrapper
