import OpenClHash.Wrapper.Flags

/-!
Owns the liveness of what commands use: in which runs every handle that an operation
passes to OpenCL is alive, and a context marked by `init` has a live context and queue.
-/

namespace OpenClHash.Wrapper

open OpenClHash.Library OpenClHash.Library.Fallible OpenClHash.Library.Lifetime
open OpenClHash.Sizing Relation

/-! ### Live states -/

/-- Every call so far passed live handles, and a marked context is alive. -/
structure Live (state : State) : Prop where
  uses : UsesAlive lifetimes state.log
  context : state.initialized = true → Alive lifetimes state.log ⟨.context, state.clcontext⟩
  queue : state.initialized = true → Alive lifetimes state.log ⟨.queue, state.clcommandQueue⟩

theorem live_constructed (garbage : Garbage) : Live (State.constructed garbage) :=
  ⟨trivial, nofun, nofun⟩

section States

variable {driver : Driver} {state : State} {resource : Resource}

/-- An entry that releases nothing keeps everything alive. -/
theorem alive_event {log : List Event} {event : Event} (keeps : event.releases = none)
    (alive : Alive lifetimes log resource) : Alive lifetimes (event :: log) resource := by
  apply alive.cons
  show event.releases ≠ some resource
  rw [keeps]
  exact nofun

theorem unreleased_event {log : List Event} {event : Event} (keeps : event.releases = none)
    (unreleased : ¬ Released lifetimes log resource) :
    ¬ Released lifetimes (event :: log) resource := by
  rw [released_cons]
  show ¬ (event.releases = some resource ∨ _)
  rw [keeps]
  rintro (releases | released)
  · cases releases
  · exact unreleased released

/-- An entry that creates an object with an unused name. -/
theorem alive_created {log : List Event} {event : Event} (creates : event.creates = some resource)
    (keeps : event.releases = none) (unreleased : ¬ Released lifetimes log resource) :
    Alive lifetimes (event :: log) resource := by
  refine alive_of_creates creates ?_ unreleased
  show event.releases ≠ some resource
  rw [keeps]
  exact nofun

theorem usesAlive_event {log : List Event} {event : Event} (nothing : event.uses = [])
    (uses : UsesAlive lifetimes log) : UsesAlive lifetimes (event :: log) := by
  refine usesAlive_cons.mpr ⟨?_, uses⟩
  show ∀ resource ∈ event.uses, _
  rw [nothing]
  exact nofun

theorem usesAlive_event_of_alive {log : List Event} {event : Event}
    (only : event.uses = [resource]) (alive : Alive lifetimes log resource)
    (uses : UsesAlive lifetimes log) : UsesAlive lifetimes (event :: log) := by
  refine usesAlive_cons.mpr ⟨?_, uses⟩
  show ∀ used ∈ event.uses, _
  rw [only]
  exact List.forall_mem_singleton.mpr alive

/-- An unmarked context promises nothing. -/
theorem live_of_unmarked (uses : UsesAlive lifetimes state.log)
    (unmarked : state.initialized = false) : Live state where
  uses := uses
  context := fun marked => nomatch unmarked.symm.trans marked
  queue := fun marked => nomatch unmarked.symm.trans marked

/-- A call that passes live handles. -/
theorem Live.call (live : Live state) {call : ClCall} (inert : call.Inert) (status : BitVec 32)
    (alive : ∀ resource ∈ call.uses, Alive lifetimes state.log resource) :
    Live (state.record (.call call status .null)) where
  uses := usesAlive_cons.mpr ⟨alive, live.uses⟩
  context := fun marked => alive_event inert.releases (live.context marked)
  queue := fun marked => alive_event inert.releases (live.queue marked)

theorem live_of_quiet {next : State} (path : ReflTransGen Quiet state next) (live : Live state) :
    Live next := by
  induction path with
  | refl => exact live
  | tail _ quiet inductionHypothesis =>
      cases quiet with
      | query call query status =>
          have nothing : call.uses = [] := by cases call <;> first | exact query.elim | rfl
          apply inductionHypothesis.call query.inert status
          rw [nothing]
          exact nofun
      | device info => exact ⟨inductionHypothesis.1, inductionHypothesis.2, inductionHypothesis.3⟩

/-! ### Teardowns -/

theorem usesAlive_releaseEvents {call : Handle → ClCall}
    (nothing : ∀ handle, (call handle).uses = []) {handle : Handle} {log : List Event}
    (uses : UsesAlive lifetimes log) :
    UsesAlive lifetimes (releaseEvents driver call handle log) := by
  unfold releaseEvents
  by_cases null : handle.isNull
  · rw [if_pos null]
    exact uses
  · rw [if_neg null]
    exact usesAlive_event (nothing handle) uses

theorem usesAlive_released (slot : Fin 32) (uses : UsesAlive lifetimes state.log) :
    UsesAlive lifetimes (state.released driver slot).log := by
  unfold State.released
  by_cases already : (state.allocations slot).released
  · rw [if_pos already]
    exact uses
  · rw [if_neg already]
    exact usesAlive_releaseEvents (fun _ => rfl) uses

theorem usesAlive_cleaned (slot : Fin 32) (uses : UsesAlive lifetimes state.log) :
    UsesAlive lifetimes (state.cleaned driver slot).log := by
  unfold State.cleaned
  by_cases initialized : (state.kernels slot).initialized
  · rw [if_pos initialized]
    exact usesAlive_releaseEvents (fun _ => rfl) (usesAlive_releaseEvents (fun _ => rfl) uses)
  · rw [if_neg initialized]
    exact uses

theorem usesAlive_tornDown (uses : UsesAlive lifetimes state.log) :
    UsesAlive lifetimes (state.tornDown driver).log := by
  have kernels := visitSlots_preserves (State.cleaned driver)
    (fun state => UsesAlive lifetimes state.log) (fun slot _ => usesAlive_cleaned slot)
    state.kernelCount uses
  have buffers := visitSlots_preserves (State.released driver)
    (fun state => UsesAlive lifetimes state.log) (fun slot _ => usesAlive_released slot)
    state.allocationCount kernels
  refine usesAlive_releaseEvents (fun _ => rfl) (usesAlive_releaseEvents (fun _ => rfl) ?_)
  exact usesAlive_cons.mpr ⟨nofun, buffers⟩

/-- A teardown keeps what is neither in a slot nor a stored handle. -/
theorem tornDown_initialized (driver : Driver) (state : State) :
    (state.tornDown driver).initialized = state.initialized :=
  (visitSlots_keeps (State.released driver) State.initialized (fun _ _ => rfl) _ _).trans
    (visitSlots_keeps (State.cleaned driver) State.initialized (fun _ _ => rfl) _ _)

/-- A teardown leaves an unmarked context live. -/
theorem Live.tornDown (live : Live state) (unmarked : state.initialized = false) :
    Live (state.tornDown driver) := by
  apply live_of_unmarked (usesAlive_tornDown live.uses)
  rw [tornDown_initialized]
  exact unmarked

theorem given_handlesReleased (driver : Driver) (state : State) :
    state.clcommandQueue.isNull = true ∨
      Released lifetimes (state.handlesReleased driver).log ⟨.queue, state.clcommandQueue⟩ := by
  have queue : state.clcommandQueue.isNull = true ∨ Released lifetimes
      (releaseEvents driver .releaseCommandQueue state.clcommandQueue (.cleanup :: state.log))
      ⟨.queue, state.clcommandQueue⟩ := released_of_releaseEvents rfl _
  exact queue.imp_right (Released.of_suffix (suffix_releaseEvents driver _ _ _))

/-- A teardown leaves a marked context without a live queue. -/
theorem not_live_tornDown (bounded : Bounded (state.tornDown driver))
    (marked : state.initialized = true) : ¬ Live (state.tornDown driver) := by
  intro live
  rw [← tornDown_initialized driver] at marked
  exact not_alive_of_given bounded (given_handlesReleased driver _) (live.queue marked)

/-! ### Creating a queue, buffers and kernels -/

theorem live_handlesCreated (bounded : Bounded state) (uses : UsesAlive lifetimes state.log) :
    Live state.handlesCreated := by
  have context : Alive lifetimes state.contextCreated.log ⟨.context, .object state.objects⟩ :=
    alive_created rfl rfl (bounded.fresh (Nat.le_refl _))
  have unreleased : ¬ Released lifetimes state.contextCreated.log
      ⟨.queue, .object (state.objects + 1)⟩ :=
    unreleased_event rfl (bounded.fresh (Nat.le_succ _))
  constructor
  · exact usesAlive_event_of_alive rfl context (usesAlive_event rfl uses)
  · exact fun _ => alive_event rfl context
  · exact fun _ => alive_created rfl rfl unreleased

theorem Live.allocated (live : Live state) (marked : state.initialized = true) (slot : Fin 32)
    (flags size : BitVec 64) (status : BitVec 32) (result : Handle) (objects : Nat) :
    Live (state.allocated slot flags size status result objects) := by
  have taken {resource : Resource} (alive : Alive lifetimes state.log resource) :
      Alive lifetimes (.allocationTaken slot :: state.log) resource := alive_event rfl alive
  constructor
  · exact usesAlive_event_of_alive rfl (taken (live.context marked)) (usesAlive_event rfl live.uses)
  · exact fun _ => alive_event rfl (taken (live.context marked))
  · exact fun _ => alive_event rfl (taken (live.queue marked))

theorem Live.kernelFilled (live : Live state) (bounded : Bounded state)
    (marked : state.initialized = true) (slot : Fin 32) (source : List (BitVec 8))
    (options : Option String) (name : String) (status : BitVec 32) (maxWorkGroupSize : BitVec 64) :
    Live ((state.kernelSlotTaken slot).kernelFilled slot source options name status
      maxWorkGroupSize) := by
  let loaded : List Event := .malloc :: .kernelTaken slot :: state.log
  let built : List Event := .free ::
    .call (.createProgramWithSource state.clcontext source) 0#32 (.object state.objects) :: loaded
  let made : List Event := .call (.createKernel (.object state.objects) name) 0#32
    (.object (state.objects + 1)) ::
    .call (.buildProgram (.object state.objects) options) 0#32 .null :: built
  have unreleased (kind : Kind) {id : Nat} (unused : state.objects ≤ id) :
      ¬ Released lifetimes loaded ⟨kind, .object id⟩ :=
    unreleased_event rfl (unreleased_event rfl (bounded.fresh unused))
  have keptLoaded {resource : Resource} (alive : Alive lifetimes state.log resource) :
      Alive lifetimes loaded resource := alive_event rfl (alive_event rfl alive)
  have keptBuilt {resource : Resource} (alive : Alive lifetimes loaded resource) :
      Alive lifetimes built resource := alive_event rfl (alive_event rfl alive)
  have keptMade {resource : Resource} (alive : Alive lifetimes built resource) :
      Alive lifetimes made resource := alive_event rfl (alive_event rfl alive)
  have program : Alive lifetimes built ⟨.program, .object state.objects⟩ :=
    alive_event rfl (alive_created rfl rfl (unreleased .program (Nat.le_refl _)))
  have kernel : Alive lifetimes made ⟨.kernel, .object (state.objects + 1)⟩ := by
    apply alive_created rfl rfl
    refine unreleased_event rfl (unreleased_event rfl (unreleased_event rfl ?_))
    exact unreleased .kernel (Nat.le_succ _)
  have usesLoaded : UsesAlive lifetimes loaded :=
    usesAlive_event rfl (usesAlive_event rfl live.uses)
  have usesBuilt : UsesAlive lifetimes built := by
    apply usesAlive_event rfl
    exact usesAlive_event_of_alive rfl (keptLoaded (live.context marked)) usesLoaded
  have usesMade : UsesAlive lifetimes made := by
    apply usesAlive_event_of_alive rfl (alive_event rfl program)
    exact usesAlive_event_of_alive rfl program usesBuilt
  have kept {resource : Resource} (alive : Alive lifetimes state.log resource) :
      Alive lifetimes ((state.kernelSlotTaken slot).kernelFilled slot source options name status
        maxWorkGroupSize).log resource :=
    alive_event rfl (alive_event rfl (keptMade (keptBuilt (keptLoaded alive))))
  constructor
  · exact usesAlive_event rfl (usesAlive_event_of_alive rfl kernel usesMade)
  · exact fun _ => kept (live.context marked)
  · exact fun _ => kept (live.queue marked)

/-! ### Early releases -/

theorem alive_releaseEvents {call : Handle → ClCall} {handle : Handle} {log : List Event}
    (other : (call handle).releases ≠ some resource) (alive : Alive lifetimes log resource) :
    Alive lifetimes (releaseEvents driver call handle log) resource := by
  unfold releaseEvents
  by_cases null : handle.isNull
  · rw [if_pos null]
    exact alive
  · rw [if_neg null]
    exact alive.cons other

theorem alive_released (slot : Fin 32) (other : resource.kind ≠ .buffer)
    (alive : Alive lifetimes state.log resource) :
    Alive lifetimes (state.released driver slot).log resource := by
  unfold State.released
  by_cases already : (state.allocations slot).released
  · rw [if_pos already]
    exact alive
  · rw [if_neg already]
    apply alive_releaseEvents _ alive
    intro same
    cases same
    exact other rfl

theorem alive_cleaned (slot : Fin 32) (otherKernel : resource.kind ≠ .kernel)
    (otherProgram : resource.kind ≠ .program) (alive : Alive lifetimes state.log resource) :
    Alive lifetimes (state.cleaned driver slot).log resource := by
  unfold State.cleaned
  by_cases initialized : (state.kernels slot).initialized
  · rw [if_pos initialized]
    apply alive_releaseEvents _ (alive_releaseEvents _ alive)
    · intro same
      cases same
      exact otherProgram rfl
    · intro same
      cases same
      exact otherKernel rfl
  · rw [if_neg initialized]
    exact alive

theorem Live.released (live : Live state) (slot : Fin 32) : Live (state.released driver slot) where
  uses := usesAlive_released slot live.uses
  context := fun marked => alive_released slot nofun (live.context marked)
  queue := fun marked => alive_released slot nofun (live.queue marked)

theorem Live.cleaned (live : Live state) (slot : Fin 32) : Live (state.cleaned driver slot) where
  uses := usesAlive_cleaned slot live.uses
  context := fun marked => alive_cleaned slot nofun nofun (live.context marked)
  queue := fun marked => alive_cleaned slot nofun nofun (live.queue marked)

end States

end OpenClHash.Wrapper
