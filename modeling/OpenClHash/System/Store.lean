import OpenClHash.System.Program
import OpenClHash.Wrapper.Ownership

/-!
Owns the buffers of a context as a store: a buffer that is never an argument of a kernel
holds, until it is released, what the writes to it left, if they find what they copy, and
whatever happens to other buffers and kernels.
-/

namespace OpenClHash.System

open OpenClHash.Host OpenClHash.Wrapper
open OpenClHash.Library OpenClHash.Library.Regions OpenClHash.Library.Fallible Relation

/-! ### Entries of a record that leave a buffer alone -/

/-- A parameter of a kernel is set to the buffer. -/
def Event.Binds (buffer : Handle) : Event → Prop
  | .call (.setKernelArg _ _ _ value) status _ => status = 0#32 ∧ value = .memObject buffer
  | _ => False

/-- The buffer is neither created, written, released nor bound to a parameter. -/
def Event.Spares (buffer : Handle) : Event → Prop
  | .call (.createBuffer _ _ _) _ result => result ≠ buffer
  | .call (.enqueueWriteBuffer _ target _ _ _ _) _ _ => target ≠ buffer
  | .call (.releaseMemObject target) _ _ => target ≠ buffer
  | .call (.setKernelArg _ _ _ value) _ _ => value ≠ .memObject buffer
  | _ => True

/-- A write to the buffer copies from a source that is long enough and still there. -/
def Event.Steady (platform : Platform) (buffer : Handle) (event : Event) (older : List Event) :
    Prop :=
  match event with
  | .call (.enqueueWriteBuffer _ target blocking _ size source) status _ =>
      target = buffer → status = 0#32 →
        platform.lives older.length blocking = true ∧ size.toNat ≤ source.length
  | _ => True

instance (platform : Platform) (buffer : Handle) (event : Event) (older : List Event) :
    Decidable (Event.Steady platform buffer event older) := by
  unfold Event.Steady
  split <;> infer_instance

section Records

variable {platform : Platform} {older newer : List Event} {event : Event} {objects next : Objects}
  {buffer : Handle}

theorem spares_not_binds (spares : Event.Spares buffer event) : ¬ Event.Binds buffer event := by
  cases event with
  | call call status result =>
      cases call with
      | setKernelArg => exact fun binds => spares binds.2
      | _ => exact id
  | _ => exact id

/-- OpenCL holds no buffer for a parameter that was never bound to it. -/
theorem held_unbound (unbound : ∀ event ∈ older, ¬ Event.Binds buffer event) {kernel : Handle}
    {index : Nat} : Rounds.held kernel index (settings older) ≠ some (.memObject buffer) := by
  intro holds
  obtain ⟨event, member, argument⟩ := List.mem_filterMap.mp (Rounds.mem_of_held holds)
  refine unbound event member ?_
  cases event with
  | call call status result =>
      cases call with
      | setKernelArg target position size value =>
          simp only [Event.argument] at argument
          split at argument
          · cases value <;> cases argument
            exact ⟨‹_›, rfl⟩
          · cases argument
      | enqueueNDRangeKernel => cases argument
      | _ => cases argument
  | _ => cases argument

/-- The arguments of a launch are values that OpenCL holds. -/
theorem mem_heldArguments {kernel : Handle} {log : List Event} {arguments : List ArgValue}
    (held : heldArguments kernel log = some arguments) {value : ArgValue}
    (member : value ∈ arguments) :
    ∃ index, Rounds.held kernel index (settings log) = some value := by
  unfold heldArguments at held
  generalize List.range 6 = indices at held
  induction indices generalizing arguments with
  | nil =>
      cases held
      cases member
  | cons index rest inductionHypothesis =>
      rw [List.mapM_cons] at held
      obtain ⟨first, found, later⟩ := Option.bind_eq_some_iff.mp held
      obtain ⟨others, read, same⟩ := Option.bind_eq_some_iff.mp later
      cases same
      rcases List.mem_cons.mp member with rfl | behind
      · exact ⟨index, found⟩
      · exact inductionHypothesis behind read

/-- A launch writes the two buffers of its arguments and no others. -/
theorem launch_writes {letterCount workItems : Nat} {parameters : Parameters}
    {schedule : List Nat}
    (launched : objects.launch letterCount parameters workItems schedule = some next) :
    ∃ target foundFlag written raised, objects.buffers parameters.target = some target ∧
      objects.buffers parameters.foundFlag = some foundFlag ∧
      next.buffers = Function.update
        (Function.update objects.buffers parameters.target (some written))
        parameters.foundFlag (some raised) := by
  unfold Objects.launch at launched
  obtain ⟨launch, _, started⟩ := Option.bind_eq_some_iff.mp launched
  split at started
  · cases started
  obtain ⟨memory, _, ran⟩ := Option.bind_eq_some_iff.mp started
  obtain ⟨after, _, ended⟩ := Option.bind_eq_some_iff.mp ran
  obtain ⟨shared, shares, same⟩ := Option.bind_eq_some_iff.mp ended
  cases same
  unfold Objects.share at shares
  obtain ⟨target, targetStored, rest⟩ := Option.bind_eq_some_iff.mp shares
  obtain ⟨foundFlag, flagStored, rest⟩ := Option.bind_eq_some_iff.mp rest
  obtain ⟨written, _, rest⟩ := Option.bind_eq_some_iff.mp rest
  obtain ⟨raised, _, same⟩ := Option.bind_eq_some_iff.mp rest
  cases same
  exact ⟨target, foundFlag, written, raised, targetStored, flagStored, rfl⟩

theorem read_parameters {arguments : List ArgValue} {parameters : Parameters}
    (read : Parameters.read arguments = some parameters) :
    .memObject parameters.target ∈ arguments ∧ .memObject parameters.foundFlag ∈ arguments := by
  unfold Parameters.read at read
  split at read
  · cases read
    simp
  · cases read

/-- What an entry of a record does to the buffers. -/
inductive BufferStep (older : List Event) (event : Event) (objects next : Objects) : Prop where
  | kept (same : next.buffers = objects.buffers)
  | created (context : Handle) (flags size : BitVec 64) (result : Handle) (buffer : Buffer)
      (isCall : event = .call (.createBuffer context flags size) 0#32 result)
      (buffers : next.buffers = Function.update objects.buffers result (some buffer))
  | written (queue target : Handle) (blocking : Bool) (offset size : BitVec 64)
      (source : List (BitVec 8)) (result : Handle) (old new : Buffer)
      (isCall : event = .call (.enqueueWriteBuffer queue target blocking offset size source) 0#32
        result)
      (stored : objects.buffers target = some old)
      (buffers : next.buffers = Function.update objects.buffers target (some new))
  | released (target result : Handle)
      (isCall : event = .call (.releaseMemObject target) 0#32 result)
      (buffers : next.buffers = Function.update objects.buffers target none)
  | launched (kernel : Handle) (arguments : List ArgValue) (parameters : Parameters)
      (target foundFlag written raised : Buffer)
      (held : heldArguments kernel older = some arguments)
      (read : Parameters.read arguments = some parameters)
      (targetStored : objects.buffers parameters.target = some target)
      (flagStored : objects.buffers parameters.foundFlag = some foundFlag)
      (buffers : next.buffers = Function.update
        (Function.update objects.buffers parameters.target (some written))
        parameters.foundFlag (some raised))

theorem happen_step (happens : platform.happen older event objects = some next) :
    BufferStep older event objects next := by
  cases event with
  | call call status result =>
      unfold Platform.happen at happens
      dsimp only at happens
      split at happens
      · rename_i success
        subst success
        cases call with
        | createBuffer context flags size =>
            cases happens
            exact .created context flags size result _ rfl rfl
        | enqueueWriteBuffer queue target blocking offset size source =>
            obtain ⟨old, stored, wrote⟩ := Option.bind_eq_some_iff.mp happens
            obtain ⟨new, _, same⟩ := Option.bind_eq_some_iff.mp wrote
            cases same
            exact .written queue target blocking offset size source result old new rfl stored rfl
        | enqueueReadBuffer queue target blocking offset size =>
            obtain ⟨stored, _, read⟩ := Option.bind_eq_some_iff.mp happens
            obtain ⟨_, _, same⟩ := Option.bind_eq_some_iff.mp read
            cases same
            exact .kept rfl
        | releaseMemObject target =>
            cases happens
            exact .released target result rfl rfl
        | createKernel program name =>
            obtain ⟨source, _, rest⟩ := Option.bind_eq_some_iff.mp happens
            obtain ⟨options, _, same⟩ := Option.bind_eq_some_iff.mp rest
            cases same
            exact .kept rfl
        | enqueueNDRangeKernel queue kernel workDim globalWorkSize localWorkSize =>
            rcases globalWorkSize with _ | ⟨workItems, _ | ⟨_, _⟩⟩
            · cases happens
            · obtain ⟨letterCount, _, rest⟩ := Option.bind_eq_some_iff.mp happens
              obtain ⟨arguments, held, rest⟩ := Option.bind_eq_some_iff.mp rest
              obtain ⟨parameters, read, launched⟩ := Option.bind_eq_some_iff.mp rest
              obtain ⟨target, foundFlag, written, raised, targetStored, flagStored, buffers⟩ :=
                launch_writes launched
              exact .launched kernel arguments parameters target foundFlag written raised held read
                targetStored flagStored buffers
            · cases happens
        | setKernelArg kernel index size value =>
            cases value with
            | bytes value =>
                cases happens
                exact .kept rfl
            | memObject argument =>
                obtain ⟨_, _, same⟩ := Option.bind_eq_some_iff.mp happens
                cases same
                exact .kept rfl
        | _ =>
            cases happens
            exact .kept rfl
      · cases happens
        exact .kept rfl
  | _ =>
      cases happens
      exact .kept rfl

/-- An entry that spares a buffer leaves its bytes. -/
theorem BufferStep.spares (step : BufferStep older event objects next)
    (spares : Event.Spares buffer event) (unbound : ∀ event ∈ older, ¬ Event.Binds buffer event) :
    next.buffers buffer = objects.buffers buffer := by
  cases step with
  | kept same => rw [same]
  | created context flags size result stored isCall buffers =>
      subst isCall
      rw [buffers, Function.update_of_ne (Ne.symm spares)]
  | written queue target blocking offset size source result old new isCall stored buffers =>
      subst isCall
      rw [buffers, Function.update_of_ne (Ne.symm spares)]
  | released target result isCall buffers =>
      subst isCall
      rw [buffers, Function.update_of_ne (Ne.symm spares)]
  | launched kernel arguments parameters _ _ _ _ held read _ _ buffers =>
      obtain ⟨target, foundFlag⟩ := read_parameters read
      rw [buffers, Function.update_of_ne, Function.update_of_ne]
      · rintro rfl
        exact (mem_heldArguments held target).elim fun _ => held_unbound unbound
      · rintro rfl
        exact (mem_heldArguments held foundFlag).elim fun _ => held_unbound unbound

theorem after_cons_cases (known : platform.after (event :: older) = some next) :
    ∃ objects, platform.after older = some objects ∧
      platform.happen older event objects = some next :=
  Option.bind_eq_some_iff.mp known

theorem unbound_append (spares : ∀ event ∈ newer, Event.Spares buffer event)
    (unbound : ∀ event ∈ older, ¬ Event.Binds buffer event) :
    ∀ event ∈ newer ++ older, ¬ Event.Binds buffer event :=
  List.forall_mem_append.mpr
    ⟨fun event member => spares_not_binds (spares event member), unbound⟩

/-- Entries that spare a buffer leave its bytes. -/
theorem after_spares (known : platform.after (newer ++ older) = some next)
    (spares : ∀ event ∈ newer, Event.Spares buffer event)
    (unbound : ∀ event ∈ older, ¬ Event.Binds buffer event) :
    ∃ objects, platform.after older = some objects ∧
      next.buffers buffer = objects.buffers buffer := by
  induction newer generalizing next with
  | nil => exact ⟨next, known, rfl⟩
  | cons event newer inductionHypothesis =>
      rw [List.forall_mem_cons] at spares
      obtain ⟨between, before, happens⟩ := after_cons_cases known
      obtain ⟨objects, start, same⟩ := inductionHypothesis before spares.2
      exact ⟨objects, start,
        ((happen_step happens).spares spares.1 (unbound_append spares.2 unbound)).trans same⟩

/-- What was known after a record was known after its older part. -/
theorem after_append (known : platform.after (newer ++ older) = some next) :
    ∃ objects, platform.after older = some objects := by
  induction newer generalizing next with
  | nil => exact ⟨next, known⟩
  | cons event newer inductionHypothesis =>
      obtain ⟨between, before, _⟩ := after_cons_cases known
      exact inductionHypothesis before

/-! ### Only created buffers are bound -/

theorem isSome_of_update {stored : Handle → Option Buffer} {target : Handle} {value : Option Buffer}
    (present : (Function.update stored target value buffer).isSome) :
    buffer = target ∧ value.isSome ∨ (stored buffer).isSome := by
  by_cases here : buffer = target
  · subst here
    rw [Function.update_self] at present
    exact .inl ⟨rfl, present⟩
  · rw [Function.update_of_ne here] at present
    exact .inr present

/-- A buffer exists only from the call that created it. -/
theorem BufferStep.exists_before (step : BufferStep older event objects next)
    (present : (next.buffers buffer).isSome) :
    (objects.buffers buffer).isSome ∨
      ∃ context flags size, event = .call (.createBuffer context flags size) 0#32 buffer := by
  cases step with
  | kept same =>
      rw [same] at present
      exact .inl present
  | created context flags size result stored isCall buffers =>
      rw [buffers] at present
      rcases isSome_of_update present with ⟨rfl, _⟩ | before
      · exact .inr ⟨context, flags, size, isCall⟩
      · exact .inl before
  | written _ target _ _ _ _ _ old _ _ stored buffers =>
      rw [buffers] at present
      rcases isSome_of_update present with ⟨rfl, _⟩ | before
      · exact .inl (Option.isSome_of_eq_some stored)
      · exact .inl before
  | released target result isCall buffers =>
      rw [buffers] at present
      rcases isSome_of_update present with ⟨_, gone⟩ | before
      · cases gone
      · exact .inl before
  | launched _ _ parameters _ _ _ _ _ _ targetStored flagStored buffers =>
      rw [buffers] at present
      rcases isSome_of_update present with ⟨rfl, _⟩ | before
      · exact .inl (Option.isSome_of_eq_some flagStored)
      · rcases isSome_of_update before with ⟨rfl, _⟩ | before
        · exact .inl (Option.isSome_of_eq_some targetStored)
        · exact .inl before

theorem buffers_created (known : platform.after older = some objects) {id : Nat}
    (present : (objects.buffers (.object id)).isSome) :
    Lifetime.Created lifetimes older ⟨.buffer, .object id⟩ := by
  induction older generalizing objects with
  | nil =>
      cases known
      cases present
  | cons event older inductionHypothesis =>
      obtain ⟨before, start, happens⟩ := after_cons_cases known
      rcases (happen_step happens).exists_before present with earlier | ⟨context, flags, size, rfl⟩
      · obtain ⟨creation, member, creates⟩ := inductionHypothesis start earlier
        exact ⟨creation, List.mem_cons_of_mem _ member, creates⟩
      · exact ⟨_, List.mem_cons_self, rfl⟩

theorem bound_exists (happens : platform.happen older event objects = some next)
    (binds : Event.Binds buffer event) : (objects.buffers buffer).isSome := by
  cases event with
  | call call status result =>
      cases call with
      | setKernelArg kernel index size value =>
          obtain ⟨rfl, rfl⟩ := binds
          obtain ⟨stored, present, _⟩ := Option.bind_eq_some_iff.mp happens
          exact Option.isSome_of_eq_some present
      | _ => exact binds.elim
  | _ => exact binds.elim

/-- Only buffers that were created are bound to parameters. -/
theorem bound_created (known : platform.after older = some objects) {id : Nat}
    (binds : ∃ event ∈ older, Event.Binds (.object id) event) :
    Lifetime.Created lifetimes older ⟨.buffer, .object id⟩ := by
  induction older generalizing objects with
  | nil => exact absurd binds nofun
  | cons event older inductionHypothesis =>
      obtain ⟨before, start, happens⟩ := after_cons_cases known
      have created : Lifetime.Created lifetimes older ⟨.buffer, .object id⟩ := by
        obtain ⟨binding, member, binds⟩ := binds
        rcases List.mem_cons.mp member with rfl | earlier
        · exact buffers_created start (bound_exists happens binds)
        · exact inductionHypothesis start ⟨binding, earlier, binds⟩
      obtain ⟨creation, member, creates⟩ := created
      exact ⟨creation, List.mem_cons_of_mem _ member, creates⟩

end Records

/-! ### What an operation adds to the record -/

namespace Op

/-- The buffer that an operation writes. -/
def written : Op → Option (Fin 32)
  | .writeBuffer slot _ _ _ _ | .writeWhole slot _ _ | .zerosFloat slot _ => some slot
  | _ => none

/-- What a returned operation may do to buffers by one entry of the record. -/
def Emits (state : Wrapper.State) (op : Op) : Event → Prop
  | .call (.createBuffer _ _ _) _ result => result = .object state.objects
  | .call (.enqueueWriteBuffer _ buffer _ _ _ _) _ _ =>
      ∃ slot, written op = some slot ∧ buffer = (state.allocations slot).handle
  | .call (.releaseMemObject buffer) _ _ =>
      ∃ slot, op = .release slot ∧ buffer = (state.allocations slot).handle
  | .call (.setKernelArg _ _ _ (.memObject buffer)) _ _ =>
      ∃ kernel slot, op = .pushBuffer kernel slot ∧ buffer = (state.allocations slot).handle
  | _ => True

end Op

/-- The record grew by entries of an operation. -/
def Grows (op : Op) (state after : Wrapper.State) : Prop :=
  ∃ newer, after.log = newer ++ state.log ∧ ∀ event ∈ newer, Op.Emits state op event

section Operations

variable {driver : Driver} {state after : Wrapper.State} {op : Op}

theorem grows_refl : Grows op state state := ⟨[], rfl, nofun⟩

theorem grows_one {event : Event} (log : after.log = event :: state.log)
    (emits : Op.Emits state op event) : Grows op state after :=
  ⟨[event], log, List.forall_mem_singleton.mpr emits⟩

theorem grows_quiet (path : ReflTransGen Quiet state after) : Grows op state after := by
  induction path with
  | refl => exact grows_refl
  | tail _ quiet inductionHypothesis =>
      obtain ⟨newer, grown, emits⟩ := inductionHypothesis
      cases quiet with
      | query call query status =>
          refine ⟨.call call status .null :: newer, congrArg _ grown, ?_⟩
          refine List.forall_mem_cons.mpr ⟨?_, emits⟩
          cases call <;> first | exact query.elim | trivial
      | device info => exact ⟨newer, grown, emits⟩

theorem grows_transfer (sound : Sound state) {slot : Fin 32} {size : BitVec 64}
    {tooMuch failed : String} {command : Handle → Handle → ClCall} {value : Unit}
    (ran : (transfer driver slot size tooMuch failed command).run state = .ok value after)
    (emits : ∀ queue status, Op.Emits state op
      (.call (command queue (state.allocations slot).handle) status .null)) :
    Grows op state after := by
  obtain ⟨_, _, rfl⟩ := transfer_returned _ sound.toInBounds ran
  exact grows_one rfl (emits _ _)

theorem grows_pushArg (sound : Sound state) {slot : Fin 32} {argSize : BitVec 64}
    {argValue : ArgValue} {value : Unit}
    (ran : (Wrapper.pushArg driver slot argSize argValue).run state = .ok value after)
    (emits : ∀ kernel index status, Op.Emits state op
      (.call (.setKernelArg kernel index argSize argValue) status .null)) :
    Grows op state after := by
  rw [run_pushArg driver sound.toInBounds] at ran
  dsimp only at ran
  split at ran
  · cases ran
    exact grows_one rfl (emits _ _ _)
  · cases ran

theorem grows_onlyAsks {α : Type} {program : Cl α} (asks : OnlyAsks driver program)
    (sound : Sound state) {value : α} (ran : program.run state = .ok value after) :
    Grows op state after := by
  rcases asks.cases sound.toInBounds with
    ⟨_, _, returned, path⟩ | ⟨_, _, raised, _⟩ | ⟨_, raised, _⟩
  · cases returned.symm.trans ran
    exact grows_quiet path
  · cases raised.symm.trans ran
  · cases raised.symm.trans ran

theorem grows_init (sound : Sound state) {value : Unit}
    (ran : (init driver).run state = .ok value after) : Grows op state after := by
  unfold init at ran
  rcases onlyAsks_selectDevice.cases sound.toInBounds with
    ⟨_, asked, selected, path⟩ | ⟨_, _, raised, _⟩ | ⟨_, raised, _⟩
  · rw [run_bind_ok selected] at ran
    obtain ⟨newer, grown, emits⟩ : Grows op state asked := grows_quiet path
    rcases createHandles_cases driver
        (sound_of_effects (effects_of_quiet driver path) sound).toInBounds with
      ⟨_, _, _, raised⟩ | ⟨_, _, _, raised⟩ | created
    · cases raised.symm.trans ran
    · cases raised.symm.trans ran
    · cases created.symm.trans ran
      refine ⟨.call (.createCommandQueue _) _ _ :: .call .createContext _ _ :: newer,
        congrArg (fun log => _ :: _ :: log) grown, ?_⟩
      exact List.forall_mem_cons.mpr ⟨trivial, List.forall_mem_cons.mpr ⟨trivial, emits⟩⟩
  · cases (run_bind_error raised).symm.trans ran
  · cases (run_bind_error raised).symm.trans ran

theorem grows_releaseEvents {call : Handle → ClCall} {handle : Handle} {log : List Event}
    (emits : ∀ status, Op.Emits state op (.call (call handle) status .null))
    (grown : ∃ newer, log = newer ++ state.log ∧ ∀ event ∈ newer, Op.Emits state op event) :
    ∃ newer, releaseEvents driver call handle log = newer ++ state.log ∧
      ∀ event ∈ newer, Op.Emits state op event := by
  obtain ⟨newer, rfl, all⟩ := grown
  unfold releaseEvents
  split
  · exact ⟨newer, rfl, all⟩
  · exact ⟨_ :: newer, rfl, List.forall_mem_cons.mpr ⟨emits _, all⟩⟩

/-- An operation that returns adds only entries of its own. -/
theorem perform_grows (sound : Sound state) {value : Returned}
    (ran : (op.perform driver).run state = .ok value after) : Grows op state after := by
  cases op with
  | init =>
      obtain ⟨_, ran, _⟩ := returned_of_map ran
      exact grows_init sound ran
  | displayOpenclInfo =>
      obtain ⟨_, ran, _⟩ := returned_of_map ran
      exact grows_onlyAsks onlyAsks_displayOpenclInfo sound ran
  | block =>
      obtain ⟨_, ran, _⟩ := returned_of_map ran
      rw [run_block driver sound.toInBounds] at ran
      dsimp only at ran
      split at ran
      · obtain ⟨_, rfl⟩ := afterCall_ok driver ran
        refine ⟨[.call (.finish _) _ _, .call (.flush _) _ _], rfl, ?_⟩
        exact List.forall_mem_cons.mpr ⟨trivial, List.forall_mem_singleton.mpr trivial⟩
      · cases ran
  | checkError errCode msg =>
      obtain ⟨_, ran, _⟩ := returned_of_map ran
      rw [run_checkError driver sound.toInBounds] at ran
      split at ran
      · cases ran
        exact grows_refl
      · cases ran
  | allocate flags size =>
      obtain ⟨slot, ran, _⟩ := returned_of_map ran
      obtain ⟨_, _, rfl⟩ := allocate_returned driver sound.toInBounds ran
      refine ⟨[.call (.createBuffer _ _ _) _ _, .allocationTaken slot], rfl, ?_⟩
      exact List.forall_mem_cons.mpr ⟨rfl, List.forall_mem_singleton.mpr trivial⟩
  | createKernel filePath cmpOpt mainF =>
      obtain ⟨slot, ran, _⟩ := returned_of_map ran
      obtain ⟨_, source, status, size, rfl⟩ := createKernel_returned driver sound ran
      refine ⟨kernelEvents slot state.clcontext state.objects (state.objects + 1) source cmpOpt
        mainF status ++ [.kernelTaken slot], rfl, ?_⟩
      simp [kernelEvents, Op.Emits]
  | readBuffer buffer offset size blocking =>
      obtain ⟨_, ran, _⟩ := returned_of_map ran
      exact grows_transfer sound ran fun _ _ => trivial
  | readWhole buffer blocking =>
      obtain ⟨_, ran, _⟩ := returned_of_map ran
      rw [run_readWhole] at ran
      exact grows_transfer sound ran fun _ _ => trivial
  | writeBuffer buffer offset size source blocking =>
      obtain ⟨_, ran, _⟩ := returned_of_map ran
      exact grows_transfer sound ran fun _ _ => ⟨buffer, rfl, rfl⟩
  | writeWhole buffer source blocking =>
      obtain ⟨_, ran, _⟩ := returned_of_map ran
      rw [run_writeWhole] at ran
      exact grows_transfer sound ran fun _ _ => ⟨buffer, rfl, rfl⟩
  | zerosFloat buffer blocking =>
      obtain ⟨_, ran, _⟩ := returned_of_map ran
      rw [run_zerosFloat] at ran
      exact grows_transfer sound ran fun _ _ => ⟨buffer, rfl, rfl⟩
  | release buffer =>
      obtain ⟨_, ran, _⟩ := returned_of_map ran
      rw [run_release] at ran
      cases ran
      unfold Grows State.released
      dsimp only
      split
      · exact ⟨[], rfl, List.forall_mem_nil _⟩
      · exact grows_releaseEvents (fun _ => ⟨buffer, rfl, rfl⟩) ⟨[], rfl, List.forall_mem_nil _⟩
  | pushArg kernel argSize value =>
      obtain ⟨_, ran, _⟩ := returned_of_map ran
      exact grows_pushArg sound ran fun _ _ _ => trivial
  | pushBuffer kernel buffer =>
      obtain ⟨_, ran, _⟩ := returned_of_map ran
      exact grows_pushArg sound ran fun _ _ _ => ⟨kernel, buffer, rfl, rfl⟩
  | execute kernel workDim globalWorkSize localWorkSize =>
      obtain ⟨_, ran, _⟩ := returned_of_map ran
      obtain ⟨_, rfl⟩ := execute_returned driver sound.toInBounds ran
      exact grows_one rfl trivial
  | cleanupKernel kernel =>
      obtain ⟨_, ran, _⟩ := returned_of_map ran
      rw [run_cleanupKernel] at ran
      cases ran
      unfold Grows State.cleaned
      dsimp only
      split
      · exact grows_releaseEvents (fun _ => trivial)
          (grows_releaseEvents (fun _ => trivial) ⟨[], rfl, List.forall_mem_nil _⟩)
      · exact ⟨[], rfl, List.forall_mem_nil _⟩

end Operations

/-! ### The name of a buffer -/

/-- A taken slot is the only one that stores this object. -/
structure Named (slot : Fin 32) (id : Nat) (state : Wrapper.State) : Prop where
  taken : slot.val < state.allocationCount
  handle : (state.allocations slot).handle = .object id
  below : id < state.objects
  only : ∀ other, (state.allocations other).handle = .object id → other = slot

namespace Op

/-- The operation neither writes the buffer, nor releases it, nor pushes it to a kernel. -/
def Spares (slot : Fin 32) (op : Op) : Prop :=
  written op ≠ some slot ∧ op ≠ .release slot ∧ ∀ kernel, op ≠ .pushBuffer kernel slot

/-- What the buffer holds after an operation on it. -/
def write (slot : Fin 32) (bytes : List (BitVec 8)) : Op → List (BitVec 8)
  | .writeBuffer target offset size source _ =>
      if target = slot then splice bytes offset.toNat (source.take size.toNat) else bytes
  | .writeWhole target source _ => if target = slot then source.take bytes.length else bytes
  | .zerosFloat target _ => if target = slot then List.replicate bytes.length 0#8 else bytes
  | _ => bytes

end Op

section Named

variable {driver : Driver} {slot : Fin 32} {id : Nat} {state after : Wrapper.State} {op : Op}

theorem Named.effect (named : Named slot id state) (effect : Effect driver state after) :
    Named slot id after where
  taken := named.taken.trans_le effect.extends.allocationCount
  handle := (effect.extends.handle slot named.taken).trans named.handle
  below := named.below.trans_le effect.objects_le
  only := by
    intro other same
    rcases effect.buffer_handle other with kept | null | ⟨new, created, first, _⟩
    · exact named.only other (kept.symm.trans same)
    · cases null.symm.trans same
    · cases created.symm.trans same
      exact absurd named.below (Nat.not_lt.mpr first)

theorem Named.effects (named : Named slot id state)
    (path : ReflTransGen (Effect driver) state after) : Named slot id after := by
  induction path with
  | refl => exact named
  | tail _ effect inductionHypothesis => exact inductionHypothesis.effect effect

/-- The entries of an operation that spares a buffer spare its object. -/
theorem Named.spares (named : Named slot id state) (spares : Op.Spares slot op) {event : Event}
    (emits : Op.Emits state op event) : Event.Spares (.object id) event := by
  obtain ⟨unwritten, unreleased, unpushed⟩ := spares
  cases event with
  | call call status result =>
      cases call with
      | createBuffer context flags size =>
          rintro same
          cases (show result = _ from emits).symm.trans same
          exact absurd named.below (Nat.lt_irrefl _)
      | enqueueWriteBuffer queue target blocking offset size source =>
          obtain ⟨other, writes, rfl⟩ := emits
          intro same
          exact unwritten (named.only other same ▸ writes)
      | releaseMemObject target =>
          obtain ⟨other, releases, rfl⟩ := emits
          intro same
          exact unreleased (named.only other same ▸ releases)
      | setKernelArg kernel index size value =>
          intro same
          cases same
          obtain ⟨target, other, pushes, same⟩ := emits
          exact unpushed target (named.only other same.symm ▸ pushes)
      | _ => trivial
  | _ => trivial

end Named

/-! ### The bytes of a buffer over a run -/

/-- What is known of a buffer that holds `bytes`. -/
structure Keeps (platform : Platform) (slot : Fin 32) (id : Nat) (bytes : List (BitVec 8))
    (state : Wrapper.State) : Prop extends Named slot id state where
  unbound : ∀ event ∈ state.log, ¬ Event.Binds (.object id) event
  known : ∀ objects, platform.after state.log = some objects →
    History.Throughout (Event.Steady platform (.object id)) state.log → ∃ buffer,
      objects.buffers (.object id) = some buffer ∧ buffer.contents = bytes ∧
        buffer.size = (state.allocations slot).size.toNat

section Keeps

variable {driver : Driver} {platform : Platform} {slot : Fin 32} {id : Nat}
  {bytes : List (BitVec 8)} {state after : Wrapper.State} {op : Op}

theorem Keeps.spared (keeps : Keeps platform slot id bytes state) (spares : Op.Spares slot op)
    (path : ReflTransGen (Effect driver) state after) (grows : Grows op state after) :
    Keeps platform slot id bytes after := by
  obtain ⟨newer, grown, emits⟩ := grows
  have allSpare : ∀ event ∈ newer, Event.Spares (.object id) event :=
    fun event member => keeps.toNamed.spares spares (emits event member)
  refine ⟨keeps.toNamed.effects path, ?_, ?_⟩
  · rw [grown]
    exact unbound_append allSpare keeps.unbound
  · intro objects known steady
    rw [grown] at known steady
    obtain ⟨before, start, same⟩ := after_spares known allSpare keeps.unbound
    rw [same, (extends_of_effects path).size slot keeps.taken]
    exact keeps.known before start steady.of_append

/-- A write that OpenCL accepted was inside the buffer and splices its bytes. -/
theorem Keeps.splice (keeps : Keeps platform slot id bytes state) {queue : Handle}
    {blocking : Bool} {offset size : BitVec 64} {source : List (BitVec 8)} {objects : Objects}
    (known : platform.after (.call (.enqueueWriteBuffer queue (.object id) blocking offset size
      source) 0#32 .null :: state.log) = some objects)
    (steady : History.Throughout (Event.Steady platform (.object id)) state.log)
    (lives : platform.lives state.log.length blocking = true)
    (within : size.toNat ≤ source.length) :
    ∃ buffer, objects.buffers (.object id) = some buffer ∧
      buffer.contents = Regions.splice bytes offset.toNat (source.take size.toNat) ∧
      buffer.size = (state.allocations slot).size.toNat := by
  obtain ⟨between, before, happens⟩ := after_cons_cases known
  obtain ⟨stored, present, contents, length⟩ := keeps.known between before steady
  obtain ⟨found, present', wrote⟩ := Option.bind_eq_some_iff.mp happens
  cases present.symm.trans present'
  obtain ⟨written, stores, same⟩ := Option.bind_eq_some_iff.mp wrote
  rw [copied_eq lives within] at stores
  unfold Buffer.write at stores
  split at stores
  · rename_i inside
    obtain rfl := Option.some.inj stores
    cases same
    refine ⟨_, Function.update_self .., ?_, length⟩
    rw [← contents]
    exact load_apply_inside stored.bytes inside
  · cases stores

theorem Keeps.stores (keeps : Keeps platform slot id bytes state) (sound : Sound state)
    {offset size : BitVec 64} {source result : List (BitVec 8)} {blocking : Bool} {value : Unit}
    (path : ReflTransGen (Effect driver) state after)
    (ran : (writeBuffer driver slot offset size source blocking).run state = .ok value after)
    (holds : size.toNat ≤ source.length →
      (state.allocations slot).size.toNat = bytes.length →
      Regions.splice bytes offset.toNat (source.take size.toNat) = result) :
    Keeps platform slot id result after := by
  have named := keeps.toNamed.effects path
  obtain ⟨success, _, rfl⟩ := transfer_returned _ sound.toInBounds ran
  refine ⟨named, List.forall_mem_cons.mpr ⟨not_false, keeps.unbound⟩, ?_⟩
  intro objects known steady
  unfold State.issued at known steady
  rw [success, keeps.handle] at known steady
  obtain ⟨between, before, _⟩ := after_cons_cases known
  obtain ⟨old, _, contents, length⟩ := keeps.known between before steady.2
  obtain ⟨lives, within⟩ := steady.1 rfl rfl
  obtain ⟨buffer, present, spliced, size⟩ := keeps.splice known steady.2 lives within
  refine ⟨buffer, present, spliced.trans (holds within ?_), size⟩
  rw [← length, ← contents, contents_length]

/-- One operation that returns and does not release the buffer or push it to a kernel. -/
theorem Keeps.step (keeps : Keeps platform slot id bytes state) (sound : Sound state)
    (unreleased : op ≠ .release slot) (unpushed : ∀ kernel, op ≠ .pushBuffer kernel slot)
    (path : ReflTransGen (Effect driver) state after) {value : Returned}
    (ran : (op.perform driver).run state = .ok value after) :
    Keeps platform slot id (Op.write slot bytes op) after := by
  by_cases writes : Op.written op = some slot
  · cases op with
    | writeBuffer target offset size source blocking =>
        obtain rfl := Option.some.inj writes
        obtain ⟨_, ran, _⟩ := returned_of_map ran
        rw [Op.write, if_pos rfl]
        exact keeps.stores sound path ran fun _ _ => rfl
    | writeWhole target source blocking =>
        obtain rfl := Option.some.inj writes
        obtain ⟨_, ran, _⟩ := returned_of_map ran
        rw [run_writeWhole] at ran
        rw [Op.write, if_pos rfl]
        refine keeps.stores sound path ran fun within whole => ?_
        rw [whole] at within ⊢
        exact splice_all (List.length_take_of_le within)
    | zerosFloat target blocking =>
        obtain rfl := Option.some.inj writes
        obtain ⟨_, ran, _⟩ := returned_of_map ran
        rw [run_zerosFloat] at ran
        rw [Op.write, if_pos rfl]
        refine keeps.stores sound path ran fun within whole => ?_
        rw [whole] at within ⊢
        rw [List.length_replicate] at within
        rw [List.take_replicate, Nat.min_eq_left within]
        exact splice_all List.length_replicate
    | _ => cases writes
  · have same : Op.write slot bytes op = bytes := by
      cases op with
      | writeBuffer | writeWhole | zerosFloat =>
          exact if_neg fun here => writes (congrArg some here)
      | _ => rfl
    rw [same]
    exact keeps.spared ⟨writes, unreleased, unpushed⟩ path (perform_grows sound ran)

end Keeps

/-! ### Runs -/

section Runs

variable {driver : Driver} {platform : Platform} {slot : Fin 32} {state after : Wrapper.State}

/-- A slot that was released stays so. -/
theorem effect_released (effect : Effect driver state after)
    (taken : slot.val < state.allocationCount)
    (released : (state.allocations slot).released = true) :
    (after.allocations slot).released = true := by
  cases effect with
  | allocated other flags size next answer =>
      have different : slot ≠ other := by
        rintro rfl
        omega
      show (Function.update state.allocations other _ slot).released = true
      rwa [Function.update_of_ne different]
  | released other taken =>
      show (Function.update state.allocations other _ slot).released = true
      by_cases same : slot = other
      · rw [same, Function.update_self]
      · rwa [Function.update_of_ne same]
  | _ => exact released

theorem tornDown_released (sound : Sound state) {id : Nat}
    (handle : (state.allocations slot).handle = .object id)
    (taken : slot.val < state.allocationCount) :
    ((state.tornDown driver).allocations slot).released = true := by
  have emptied := tornDown_allocations driver sound slot
  unfold MemoryHandler.holds at emptied
  rw [(extends_of_effects (tornDown_effects driver sound)).handle slot taken, handle] at emptied
  cases released : ((state.tornDown driver).allocations slot).released with
  | true => rfl
  | false =>
      rw [released, stored_object] at emptied
      cases emptied

/-- A buffer that `allocate` just returned. -/
theorem keeps_allocated (sound : Sound state) (bounded : Bounded state) {flags size : BitVec 64}
    (ran : (allocate driver flags size).run state = .ok slot after) {objects : Objects}
    (known : platform.after state.log = some objects) :
    Keeps platform slot state.objects
      ((List.range size.toNat).map (platform.fresh (state.log.length + 1))) after := by
  obtain ⟨_, next, rfl⟩ := allocate_returned driver sound.toInBounds ran
  have stored : (Function.update state.allocations slot { state.allocations slot with
      handle := .object state.objects, size := size } slot).handle = .object state.objects := by
    rw [Function.update_self]
  refine ⟨⟨?_, stored, Nat.lt_succ_self _, ?_⟩, ?_, ?_⟩
  · exact Nat.lt_succ_of_le (Nat.le_of_eq next)
  · intro other same
    by_contra different
    rw [show (state.allocated slot flags size 0#32 _ _).allocations other =
      state.allocations other from Function.update_of_ne different ..] at same
    exact Nat.lt_irrefl _ (bounded.stored _ (.buffer other) _ same)
  · have unbound : ∀ event ∈ state.log, ¬ Event.Binds (.object state.objects) event := by
      intro event member binds
      obtain ⟨id, below, same⟩ := bounded.created _ (bound_created known ⟨event, member, binds⟩)
      cases same
      exact Nat.lt_irrefl _ below
    exact List.forall_mem_cons.mpr ⟨not_false, List.forall_mem_cons.mpr ⟨not_false, unbound⟩⟩
  · intro later knownLater _
    have created : platform.after (state.allocated slot flags size 0#32 (.object state.objects)
        (state.objects + 1)).log = some { objects with
          buffers := Function.update objects.buffers (.object state.objects)
            (some ⟨size.toNat, platform.fresh (state.log.length + 1)⟩) } :=
      after_succeeded (after_cons known rfl) rfl
    cases created.symm.trans knownLater
    refine ⟨_, Function.update_self .., ?_, ?_⟩
    · simp [Buffer.contents, load]
    · show size.toNat = (Function.update state.allocations slot _ slot).size.toNat
      rw [Function.update_self]

variable {session last : Session} {rest : List Op} {id : Nat} {bytes : List (BitVec 8)}

theorem run_released (valid : session.Valid) (ran : session.run driver rest = some last)
    (taken : slot.val < session.context.allocationCount)
    (released : (session.context.allocations slot).released = true) :
    (last.context.allocations slot).released = true := by
  have keeps : ∀ before after, Sound before → slot.val < before.allocationCount ∧
      (before.allocations slot).released = true → Effect driver before after →
      slot.val < after.allocationCount ∧ (after.allocations slot).released = true := by
    rintro before after _ ⟨taken, released⟩ effect
    exact ⟨taken.trans_le effect.extends.allocationCount, effect_released effect taken released⟩
  exact (Session.run_preserves keeps valid ⟨taken, released⟩ ran).2

/-- While the buffer is not released, every operation returned, and it holds what they wrote. -/
theorem Keeps.run (keeps : Keeps platform slot id bytes session.context) (valid : session.Valid)
    (ran : session.run driver rest = some last)
    (unreleased : (last.context.allocations slot).released = false)
    (unpushed : ∀ op ∈ rest, ∀ kernel, op ≠ .pushBuffer kernel slot) :
    Keeps platform slot id (rest.foldl (Op.write slot) bytes) last.context := by
  induction rest generalizing session bytes with
  | nil =>
      cases ran
      exact keeps
  | cons op rest inductionHypothesis =>
      rw [List.forall_mem_cons] at unpushed
      obtain ⟨next, stepped, ranRest⟩ := Session.run_cases ran
      have validNext := Session.step_valid valid stepped
      have path := Session.step_effects valid stepped
      have taken := keeps.taken.trans_le (extends_of_effects path).allocationCount
      have alive : (next.context.allocations slot).released ≠ true := by
        intro released
        rw [run_released validNext ranRest taken released] at unreleased
        cases unreleased
      refine inductionHypothesis ?_ validNext ranRest unpushed.2
      obtain ⟨provides, ⟨value, context, returned, rfl⟩ | ⟨msg, context, raised, rfl⟩⟩ :=
        Session.step_cases stepped
      · rw [Session.returned_context] at path alive ⊢
        refine keeps.step valid.context ?_ unpushed.1 path returned
        rintro rfl
        apply alive
        obtain ⟨_, ran, _⟩ := returned_of_map returned
        rw [run_release] at ran
        cases ran
        show (Function.update session.context.allocations slot _ slot).released = true
        rw [Function.update_self]
      · have outcome : Wrapper.Outcome driver session.context _ := valid.outcome provides
        rw [raised] at outcome
        cases outcome with
        | raised _ failing before =>
            have named := keeps.toNamed.effects before
            exact absurd (tornDown_released (sound_of_effects before valid.context) named.handle
              named.taken) alive
        | undefined _ _ noException => exact absurd rfl (noException msg)

/-- A buffer that is never pushed to a kernel holds what the writes to it left, if they found what
they copy, whatever else the session does; and a blocking read that returns delivers that. -/
theorem buffer_holds_writes {garbage : Garbage} {ops rest : List Op} {before last : Session}
    {flags size : BitVec 64} {slot : Fin 32} {after : Wrapper.State} {objects : Objects}
    (ran : (Session.start garbage).run driver ops = some before)
    (allocated : (allocate driver flags size).run before.context = .ok slot after)
    (ranRest : (before.returned (.buffer slot) after).run driver rest = some last)
    (unreleased : (last.context.allocations slot).released = false)
    (unpushed : ∀ op ∈ rest, ∀ kernel, op ≠ .pushBuffer kernel slot)
    (steady : History.Throughout
      (Event.Steady platform (last.context.allocations slot).handle) last.context.log)
    (known : platform.after last.context.log = some objects) :
    ∃ fresh, fresh.length = size.toNat ∧
      Ensures (fun read _ => read = some (rest.foldl (Op.write slot) fresh)) (fun _ _ => True)
        (readBack driver platform slot) last.context := by
  have valid := Session.run_valid (Session.valid_start garbage) ran
  have stepped : before.step driver (.allocate flags size) =
      some (before.returned (.buffer slot) after) := by
    have performed : ((Op.allocate flags size).perform driver).run before.context =
        .ok (.buffer slot) after := by
      show (Returned.buffer <$> allocate driver flags size).run before.context = _
      rw [run_map, allocated]
    unfold Session.step
    rw [if_pos ⟨nofun, nofun⟩, performed]
  have validAfter := Session.step_valid valid stepped
  obtain ⟨start, knownBefore⟩ : ∃ start, platform.after before.context.log = some start := by
    have keeps : ∀ older newer, Sound older → before.context.log <:+ older.log →
        Effect driver older newer → before.context.log <:+ newer.log :=
      fun _ _ _ suffix effect => suffix.trans effect.extends.log
    have first := (extends_of_effects (Session.step_effects valid stepped)).log
    obtain ⟨newer, log⟩ := Session.run_preserves keeps validAfter first ranRest
    rw [← log] at known
    exact after_append known
  have keeps : Keeps platform slot before.context.objects _
      (before.returned (.buffer slot) after).context :=
    keeps_allocated valid.context (bounded_of_run ran) allocated knownBefore
  have kept := keeps.run validAfter ranRest unreleased unpushed
  rw [kept.handle] at steady
  obtain ⟨buffer, present, contents, whole⟩ := kept.known objects known steady
  refine ⟨(List.range size.toNat).map (platform.fresh (before.context.log.length + 1)), by simp, ?_⟩
  cases ended : (readBack driver platform slot).run last.context with
  | ok read next =>
      have validLast := Session.run_valid validAfter ranRest
      rw [← kept.handle] at present
      obtain ⟨_, delivered, _⟩ := readBack_returned validLast.context.toInBounds known present
        whole.symm ended
      exact ensures_of_ok ended (delivered.trans (congrArg some contents))
  | error failure next => exact ensures_of_error ended trivial

end Runs

/-- Two writes that overlap, with a kernel and another buffer between them that is cleared from
nine bytes of which the vector has eight. -/
theorem buffer_holds_writes_overlapping :
    ∃ (platform : Platform) (last : Session),
      Ensures (fun read _ => read = some [1#8, 2#8, 9#8, 8#8]) (fun _ _ => True)
        (readBack (.succeeding (Sizing.squareDevice 1024#64)) platform 0) last.context := by
  let driver : Driver := .succeeding (Sizing.squareDevice 1024#64)
  let platform : Platform :=
    ⟨fun _ _ => 7#8, fun _ _ _ => some 9, fun _ => [], fun _ => true, fun _ _ => 5#8⟩
  let rest : List Op := [.writeWhole 0 [1#8, 2#8, 3#8, 4#8, 5#8] true,
    .createKernel "main.cl" none "main", .allocate 1#64 9#64, .pushBuffer 0 1,
    .zerosFloat 1 true, .writeBuffer 0 2#64 2#64 [9#8, 8#8] false, .release 1]
  have evaluated : ((Session.start (.filled 0)).run driver [.init]).bind (fun before =>
      match (allocate driver 1#64 4#64).run before.context with
      | .ok slot after =>
          if slot = 0 then
            ((before.returned (.buffer 0) after).run driver rest).map fun last =>
              ((platform.after last.context.log).isSome, (last.context.allocations 0).released,
                decide (History.Throughout (Event.Steady platform
                  (last.context.allocations 0).handle) last.context.log))
          else none
      | .error _ _ => none) = some (true, false, true) := by
    decide +kernel
  obtain ⟨before, ran, evaluated⟩ := Option.bind_eq_some_iff.mp evaluated
  cases allocated : (allocate driver 1#64 4#64).run before.context with
  | error failure after =>
      rw [allocated] at evaluated
      cases evaluated
  | ok slot after =>
      rw [allocated] at evaluated
      dsimp only at evaluated
      split at evaluated
      · rename_i first
        subst first
        obtain ⟨last, ranRest, ends⟩ := Option.map_eq_some_iff.mp evaluated
        rw [Prod.mk.injEq, Prod.mk.injEq, decide_eq_true_eq] at ends
        obtain ⟨answered, unreleased, steady⟩ := ends
        obtain ⟨objects, known⟩ := Option.isSome_iff_exists.mp answered
        obtain ⟨fresh, length, reads⟩ := buffer_holds_writes ran allocated ranRest unreleased
          (by simp [rest]) steady known
        match fresh, length with
        | [_, _, _, _], _ => exact ⟨platform, last, reads⟩
      · cases evaluated

end OpenClHash.System
