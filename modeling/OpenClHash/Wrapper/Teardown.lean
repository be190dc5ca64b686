import OpenClHash.Library.Fallible
import OpenClHash.Wrapper.Source

/-!
Owns the runs of the small steps: calls, slots, the two ways to release, and `_cleanup`
as a function on states. A failed check runs `_cleanup` and raises; no slot index leaves
its array in it as long as both counts are in bounds.
-/

namespace OpenClHash.Wrapper

open OpenClHash.Sizing OpenClHash.Library.Fallible

section Runs

variable (driver : Driver)

/-! ### Runs of the small steps -/

/-- A state after a call that creates no object. -/
def State.issued (call : ClCall) (state : State) : State :=
  state.record (.call call (driver.status state.log.length) .null)

theorem run_issue (call : ClCall) (state : State) : (issue driver call).run state =
    .ok (driver.status state.log.length) (state.issued driver call) := rfl

theorem run_note (event : Event) (state : State) :
    (note event).run state = .ok () (state.record event) := rfl

/-- What a creation call may answer: status, handle and the objects created afterwards. -/
inductive Answer (objects : Nat) : BitVec 32 → Handle → Nat → Prop where
  | created : Answer objects 0#32 (.object objects) (objects + 1)
  | failed (status : BitVec 32) (nonzero : status ≠ 0#32) : Answer objects status .null objects

theorem Answer.objects_le {objects later : Nat} {status : BitVec 32} {result : Handle}
    (answer : Answer objects status result later) : objects ≤ later := by
  cases answer with
  | created => exact Nat.le_succ objects
  | failed => exact Nat.le_refl objects

/-- A state after a creation call. -/
def State.answered (call : ClCall) (status : BitVec 32) (result : Handle) (objects : Nat)
    (state : State) : State :=
  { state.record (.call call status result) with objects := objects }

theorem run_create_created {call : ClCall} {state : State}
    (success : driver.status state.log.length = 0#32) :
    (create driver call).run state = .ok (.object state.objects, 0#32)
      (state.answered call 0#32 (.object state.objects) (state.objects + 1)) := by
  show EStateM.Result.ok _ _ = _
  simp only [success, if_true]
  rfl

theorem run_create_failed {call : ClCall} {state : State}
    (failed : driver.status state.log.length ≠ 0#32) :
    (create driver call).run state = .ok (.null, driver.status state.log.length)
      (state.answered call (driver.status state.log.length) .null state.objects) := by
  show EStateM.Result.ok _ _ = _
  simp only [failed, if_false]
  rfl

theorem run_create (call : ClCall) (state : State) :
    ∃ status result objects, Answer state.objects status result objects ∧
      (create driver call).run state =
        .ok (result, status) (state.answered call status result objects) := by
  by_cases success : driver.status state.log.length = 0#32
  · exact ⟨0#32, .object state.objects, state.objects + 1, .created,
      run_create_created driver success⟩
  · exact ⟨driver.status state.log.length, .null, state.objects, .failed _ success,
      run_create_failed driver success⟩

theorem run_slotAt {index : Nat} (inside : index < 32) (state : State) :
    (slotAt index).run state = .ok ⟨index, inside⟩ state := by
  rw [slotAt, dif_pos inside]
  rfl

/-! ### Releasing as functions -/

/-- The record after `if (handle) call(handle)`. -/
def releaseEvents (call : Handle → ClCall) (handle : Handle) (log : List Event) : List Event :=
  if handle.isNull then log else .call (call handle) (driver.status log.length) .null :: log

/-- A release leaves what the record says about anything else. -/
theorem filterMap_releaseEvents {α : Type} {view : Event → Option α} {call : Handle → ClCall}
    (other : ∀ handle status, view (.call (call handle) status .null) = none) (handle : Handle)
    (log : List Event) :
    (releaseEvents driver call handle log).filterMap view = log.filterMap view := by
  unfold releaseEvents
  by_cases null : handle.isNull
  · rw [if_pos null]
  · rw [if_neg null, List.filterMap_cons_none (other _ _)]

namespace State

/-- The state after `MemoryHandler::release`. -/
def released (slot : Fin 32) (state : State) : State :=
  { state with
    allocations := Function.update state.allocations slot
      { state.allocations slot with released := true }
    log := if (state.allocations slot).released then state.log else
      releaseEvents driver .releaseMemObject (state.allocations slot).handle state.log }

/-- The state after `Kernel::cleanup`. -/
def cleaned (slot : Fin 32) (state : State) : State :=
  { state with
    kernels := Function.update state.kernels slot
      { state.kernels slot with initialized := false }
    log := if (state.kernels slot).initialized then
      releaseEvents driver .releaseProgram (state.kernels slot).programId
        (releaseEvents driver .releaseKernel (state.kernels slot).kernelId state.log)
      else state.log }

/-- The state after the last part of `_cleanup`. -/
def handlesReleased (state : State) : State :=
  { state with
    log := releaseEvents driver .releaseContext state.clcontext
      (releaseEvents driver .releaseCommandQueue state.clcommandQueue (.cleanup :: state.log)) }

/-- The slots below `count` visited in order. -/
def visitSlots (visit : Fin 32 → State → State) (count : Nat) (state : State) : State :=
  (List.range count).foldl
    (fun state i => if inside : i < 32 then visit ⟨i, inside⟩ state else state) state

/-- The state after `_cleanup`. -/
def tornDown (state : State) : State :=
  ((state.visitSlots (cleaned driver) state.kernelCount).visitSlots (released driver)
    state.allocationCount).handlesReleased driver

theorem visitSlots_succ (visit : Fin 32 → State → State) {count : Nat} (inside : count < 32)
    (state : State) :
    state.visitSlots visit (count + 1) = visit ⟨count, inside⟩ (state.visitSlots visit count) := by
  simp [visitSlots, List.range_succ, inside]

/-- Both counts stay within the arrays. -/
structure InBounds (state : State) : Prop where
  kernels : state.kernelCount ≤ 32
  allocations : state.allocationCount ≤ 32

end State

section Views

variable {α : Type} {view : Event → Option α}

theorem filterMap_released
    (other : ∀ handle status, view (.call (.releaseMemObject handle) status .null) = none)
    (slot : Fin 32) (state : State) :
    (state.released driver slot).log.filterMap view = state.log.filterMap view := by
  unfold State.released
  by_cases already : (state.allocations slot).released
  · rw [if_pos already]
  · rw [if_neg already]
    exact filterMap_releaseEvents driver other _ _

theorem filterMap_cleaned
    (kernel : ∀ handle status, view (.call (.releaseKernel handle) status .null) = none)
    (program : ∀ handle status, view (.call (.releaseProgram handle) status .null) = none)
    (slot : Fin 32) (state : State) :
    (state.cleaned driver slot).log.filterMap view = state.log.filterMap view := by
  unfold State.cleaned
  by_cases initialized : (state.kernels slot).initialized
  · rw [if_pos initialized]
    exact (filterMap_releaseEvents driver program _ _).trans
      (filterMap_releaseEvents driver kernel _ _)
  · rw [if_neg initialized]

theorem filterMap_handlesReleased (cleanup : view .cleanup = none)
    (queue : ∀ handle status, view (.call (.releaseCommandQueue handle) status .null) = none)
    (context : ∀ handle status, view (.call (.releaseContext handle) status .null) = none)
    (state : State) :
    (state.handlesReleased driver).log.filterMap view = state.log.filterMap view := by
  unfold State.handlesReleased
  apply (filterMap_releaseEvents driver context _ _).trans
  apply (filterMap_releaseEvents driver queue _ _).trans
  exact List.filterMap_cons_none cleanup

end Views

theorem run_releaseHandle (call : Handle → ClCall) (handle : Handle) (state : State) :
    (releaseHandle driver call handle).run state =
      .ok () { state with log := releaseEvents driver call handle state.log } := by
  unfold releaseHandle releaseEvents
  cases handle.isNull <;> rfl

theorem run_release (slot : Fin 32) (state : State) :
    (release driver slot).run state = .ok () (state.released driver slot) := by
  unfold release State.released
  rw [run_get_bind]
  dsimp only
  by_cases already : (state.allocations slot).released
  · rw [if_pos already, if_pos already]
    rfl
  · rw [if_neg already, if_neg already, run_bind_ok (run_releaseHandle driver _ _ state)]
    rfl

theorem run_cleanupKernel (slot : Fin 32) (state : State) :
    (cleanupKernel driver slot).run state = .ok () (state.cleaned driver slot) := by
  unfold cleanupKernel State.cleaned
  rw [run_get_bind]
  dsimp only
  by_cases initialized : (state.kernels slot).initialized
  · rw [if_pos initialized, if_pos initialized, run_modify_bind,
      run_bind_ok (run_releaseHandle driver _ _ _), run_releaseHandle]
    rfl
  · have unchanged : { state.kernels slot with initialized := false } = state.kernels slot := by
      rw [← Bool.eq_false_of_not_eq_true initialized]
    rw [if_neg initialized, if_neg initialized, unchanged, Function.update_eq_self]
    rfl

theorem run_releaseHandles (state : State) :
    (releaseHandles driver).run state = .ok () (state.handlesReleased driver) := by
  unfold releaseHandles State.handlesReleased
  rw [run_bind_ok (run_note .cleanup state), run_get_bind,
    run_bind_ok (run_releaseHandle driver _ _ _), run_get_bind, run_releaseHandle]
  rfl

/-- A loop over slots that stay inside the array. -/
theorem run_visitSlots {body : Fin 32 → Cl Unit} {visit : Fin 32 → State → State}
    (run_body : ∀ slot state, (body slot).run state = .ok () (visit slot state)) {count : Nat}
    (inside : count ≤ 32) (state : State) :
    ((List.range count).forM fun i => slotAt i >>= body).run state =
      .ok () (state.visitSlots visit count) := by
  unfold State.visitSlots
  have below : ∀ i ∈ List.range count, i < 32 :=
    fun i member => Nat.lt_of_lt_of_le (List.mem_range.mp member) inside
  generalize List.range count = indices at below
  induction indices generalizing state with
  | nil => rfl
  | cons i rest inductionHypothesis =>
      have iBelow : i < 32 := below i List.mem_cons_self
      show EStateM.run ((slotAt i >>= body) >>= fun _ => rest.forM fun i => slotAt i >>= body) state
        = _
      have first : (slotAt i >>= body).run state = .ok () (visit ⟨i, iBelow⟩ state) := by
        rw [run_bind_ok (run_slotAt iBelow state), run_body]
      rw [run_bind_ok first, List.foldl_cons, dif_pos iBelow]
      exact inductionHypothesis _ fun other member => below other (List.mem_cons_of_mem _ member)

theorem run_cleanup {state : State} (inBounds : state.InBounds) :
    (cleanup driver).run state = .ok () (state.tornDown driver) := by
  unfold cleanup State.tornDown
  rw [run_get_bind, run_bind_ok (run_visitSlots (run_cleanupKernel driver) inBounds.kernels state),
    run_bind_ok (run_visitSlots (run_release driver) inBounds.allocations _)]
  exact run_releaseHandles driver _

theorem run_checkError_failed {state : State} (inBounds : state.InBounds) {errCode : BitVec 32}
    (failed : errCode ≠ 0#32) (msg : String) :
    (checkError driver errCode msg).run state =
      .error (.runtimeError msg) (state.tornDown driver) := by
  unfold checkError
  rw [if_pos failed, run_bind_ok (run_cleanup driver inBounds)]
  rfl

theorem run_checkError_ok (msg : String) (state : State) :
    (checkError driver 0#32 msg).run state = .ok () state := rfl

theorem run_check_failed {state : State} (inBounds : state.InBounds) (msg : String) :
    (check driver false msg).run state = .error (.runtimeError msg) (state.tornDown driver) :=
  run_checkError_failed driver inBounds (by decide) msg

theorem run_check_ok (msg : String) (state : State) :
    (check driver true msg).run state = .ok () state := rfl

end Runs

end OpenClHash.Wrapper
