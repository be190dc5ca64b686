import OpenClHash.Library.Lifetime
import OpenClHash.Wrapper.Session

/-!
Owns the OpenCL objects as resources with a lifetime in the record: what each call
creates, releases and uses. Objects are named in the order of their creation, so a name
that OpenCL has not given yet occurs nowhere.
-/

namespace OpenClHash.Wrapper

open OpenClHash.Library.Lifetime Relation

/-! ### Resources -/

inductive Kind where
  | context
  | queue
  | buffer
  | program
  | kernel
deriving DecidableEq, Repr

/-- A handle under its OpenCL type. -/
structure Resource where
  kind : Kind
  handle : Handle
deriving DecidableEq, Repr

/-- A stored handle, unless it is null or was given back. -/
def stored (given : Bool) (kind : Kind) (handle : Handle) : Option Resource :=
  if given || handle.isNull then none else some ⟨kind, handle⟩

theorem stored_object (kind : Kind) (id : Nat) :
    stored false kind (.object id) = some ⟨kind, .object id⟩ := rfl

theorem stored_null (given : Bool) (kind : Kind) : stored given kind .null = none := by
  cases given <;> rfl

theorem stored_given (kind : Kind) (handle : Handle) : stored true kind handle = none := rfl

/-- The resource is one of the first `objects` that OpenCL created. -/
def Resource.Known (objects : Nat) (resource : Resource) : Prop :=
  ∃ id < objects, resource.handle = .object id

theorem Resource.Known.mono {resource : Resource} {objects later : Nat}
    (known : resource.Known objects) (grown : objects ≤ later) : resource.Known later := by
  rcases known with ⟨id, below, same⟩
  exact ⟨id, below.trans_le grown, same⟩

/-! ### Lifetimes -/

namespace ClCall

/-- What a call creates when it answers `result`. -/
def creates (result : Handle) : ClCall → Option Resource
  | .createContext => stored false .context result
  | .createCommandQueue _ => stored false .queue result
  | .createBuffer _ _ _ => stored false .buffer result
  | .createProgramWithSource _ _ => stored false .program result
  | .createKernel _ _ => stored false .kernel result
  | _ => none

def releases : ClCall → Option Resource
  | .releaseContext context => some ⟨.context, context⟩
  | .releaseCommandQueue queue => some ⟨.queue, queue⟩
  | .releaseMemObject buffer => some ⟨.buffer, buffer⟩
  | .releaseProgram program => some ⟨.program, program⟩
  | .releaseKernel kernel => some ⟨.kernel, kernel⟩
  | _ => none

/-- The handles that a call passes and does not release. -/
def uses : ClCall → List Resource
  | .createCommandQueue context | .createBuffer context _ _ | .createProgramWithSource context _ =>
      [⟨.context, context⟩]
  | .buildProgram program _ | .getProgramBuildInfo program | .createKernel program _ =>
      [⟨.program, program⟩]
  | .getKernelWorkGroupInfo kernel | .setKernelArg kernel _ _ (.bytes _) => [⟨.kernel, kernel⟩]
  | .setKernelArg kernel _ _ (.memObject buffer) => [⟨.kernel, kernel⟩, ⟨.buffer, buffer⟩]
  | .enqueueNDRangeKernel queue kernel _ _ _ => [⟨.queue, queue⟩, ⟨.kernel, kernel⟩]
  | .enqueueReadBuffer queue buffer _ _ _ | .enqueueWriteBuffer queue buffer _ _ _ _ =>
      [⟨.queue, queue⟩, ⟨.buffer, buffer⟩]
  | .flush queue | .finish queue => [⟨.queue, queue⟩]
  | _ => []

end ClCall

namespace Event

def creates : Event → Option Resource
  | .call clCall _ result => clCall.creates result
  | _ => none

def releases : Event → Option Resource
  | .call clCall _ _ => clCall.releases
  | _ => none

def uses : Event → List Resource
  | .call clCall _ _ => clCall.uses
  | _ => []

end Event

def lifetimes : Vocabulary Event Resource where
  creates := Event.creates
  releases := Event.releases
  uses := Event.uses

/-! ### Names of objects -/

/-- A handle that is stored in a member of the context, of a buffer or of a kernel. -/
inductive State.Stores (state : State) : Handle → Prop where
  | context : Stores state state.clcontext
  | queue : Stores state state.clcommandQueue
  | buffer (slot : Fin 32) : Stores state (state.allocations slot).handle
  | kernel (slot : Fin 32) : Stores state (state.kernels slot).kernelId
  | program (slot : Fin 32) : Stores state (state.kernels slot).programId

/-- An object that is created between two states. -/
def NewObject (state next : State) (handle : Handle) : Prop :=
  ∃ id, handle = .object id ∧ state.objects ≤ id ∧ id < next.objects

section Effects

variable {driver : Driver} {state next : State} {resource : Resource} {handle : Handle}

theorem Effect.objects_le (effect : Effect driver state next) : state.objects ≤ next.objects := by
  cases effect with
  | malloc | free | issued | device | argStack | queueFailed | kernelTaken | released | cleaned
  | handlesReleased => exact Nat.le_refl _
  | contextAssigned answer | answered _ _ answer | allocated _ _ _ _ answer =>
      exact answer.objects_le
  | queueCreated => exact Nat.le_succ _
  | kernelCreated => exact Nat.le_add_right _ 2

theorem ClCall.creates_null (call : ClCall) : call.creates .null = none := by
  cases call <;> rfl

theorem ClCall.Inert.releases {call : ClCall} (inert : call.Inert) : call.releases = none := by
  cases call <;> first | exact inert.elim | rfl

theorem answer_new {status : BitVec 32} {result : Handle} {objects : Nat}
    (answer : Answer state.objects status result objects) (same : next.objects = objects)
    {call : ClCall} (creates : lifetimes.creates (.call call status result) = some resource) :
    NewObject state next resource.handle := by
  have creates : call.creates result = some resource := creates
  cases answer with
  | created =>
      refine ⟨state.objects, ?_, Nat.le_refl _, same ▸ Nat.lt_succ_self _⟩
      cases call <;> cases creates <;> rfl
  | failed =>
      rw [call.creates_null] at creates
      cases creates

/-- Releases create nothing. -/
theorem created_of_filterMap {log later : List Event}
    (same : later.filterMap Event.creates = log.filterMap Event.creates)
    (created : Created lifetimes later resource) : Created lifetimes log resource := by
  have member : resource ∈ later.filterMap Event.creates := List.mem_filterMap.mpr created
  rw [same] at member
  exact List.mem_filterMap.mp member

/-- What an effect adds to the created objects is new. -/
theorem Effect.creates_new (effect : Effect driver state next)
    (created : Created lifetimes next.log resource) :
    Created lifetimes state.log resource ∨ NewObject state next resource.handle := by
  cases effect with
  | malloc | free | kernelTaken => exact .inl (created.older rfl)
  | device | argStack => exact .inl created
  | issued call inert status => exact .inl (created.older call.creates_null)
  | contextAssigned answer | answered call inert answer =>
      rcases created_cons.mp created with now | before
      · exact .inr (answer_new answer rfl now)
      · exact .inl before
  | allocated slot flags size next answer =>
      rcases created_cons.mp created with now | before
      · exact .inr (answer_new answer rfl now)
      · exact .inl (before.older rfl)
  | queueFailed status nonzero =>
      rcases created_cons.mp created with now | before
      · exact .inr (answer_new (.failed status nonzero) rfl now)
      · exact .inl before
  | queueCreated =>
      rcases created_cons.mp created with now | before
      · exact .inr (answer_new .created rfl now)
      · exact .inl before
  | kernelCreated slot source options name status maxWorkGroupSize next =>
      simp only [State.kernelFilled, State.kernelSlotTaken, State.record, kernelEvents,
        List.cons_append, List.nil_append, created_cons] at created
      simp only [lifetimes, Event.creates, ClCall.creates, stored_object, reduceCtorEq, false_or,
        Option.some.injEq] at created
      rcases created with rfl | rfl | before
      · exact .inr ⟨state.objects + 1, rfl, Nat.le_succ _, Nat.lt_succ_self _⟩
      · exact .inr ⟨state.objects, rfl, Nat.le_refl _, Nat.lt_add_of_pos_right (by decide)⟩
      · exact .inl before
  | released slot taken =>
      exact .inl (created_of_filterMap
        (filterMap_released driver (fun _ _ => rfl) slot state) created)
  | cleaned slot taken =>
      exact .inl (created_of_filterMap
        (filterMap_cleaned driver (fun _ _ => rfl) (fun _ _ => rfl) slot state) created)
  | handlesReleased =>
      exact .inl (created_of_filterMap
        (filterMap_handlesReleased driver rfl (fun _ _ => rfl) (fun _ _ => rfl) state) created)

theorem released_releaseEvents {call : Handle → ClCall} {log : List Event}
    (released : Released lifetimes (releaseEvents driver call handle log) resource) :
    Released lifetimes log resource ∨ (call handle).releases = some resource := by
  unfold releaseEvents at released
  by_cases null : handle.isNull
  · rw [if_pos null] at released
    exact .inl released
  · rw [if_neg null] at released
    exact (released_cons.mp released).symm

/-- What an effect adds to the released objects was stored. -/
theorem Effect.releases_stored (effect : Effect driver state next)
    (released : Released lifetimes next.log resource) :
    Released lifetimes state.log resource ∨ state.Stores resource.handle := by
  cases effect with
  | malloc | free | kernelTaken | contextAssigned | queueFailed | queueCreated =>
      exact .inl (released.older rfl)
  | device | argStack => exact .inl released
  | issued call inert | answered call inert => exact .inl (released.older inert.releases)
  | allocated => exact .inl ((released.older rfl).older rfl)
  | kernelCreated slot source options name status maxWorkGroupSize next =>
      simp only [State.kernelFilled, State.kernelSlotTaken, State.record, kernelEvents,
        List.cons_append, List.nil_append, released_cons] at released
      simp only [lifetimes, Event.releases, ClCall.releases, reduceCtorEq, false_or] at released
      exact .inl released
  | released slot taken =>
      unfold State.released at released
      by_cases already : (state.allocations slot).released
      · rw [if_pos already] at released
        exact .inl released
      · rw [if_neg already] at released
        rcases released_releaseEvents released with before | now
        · exact .inl before
        · cases now
          exact .inr (.buffer slot)
  | cleaned slot taken =>
      unfold State.cleaned at released
      by_cases initialized : (state.kernels slot).initialized
      · rw [if_pos initialized] at released
        rcases released_releaseEvents released with kernelReleased | now
        · rcases released_releaseEvents kernelReleased with before | now
          · exact .inl before
          · cases now
            exact .inr (.kernel slot)
        · cases now
          exact .inr (.program slot)
      · rw [if_neg initialized] at released
        exact .inl released
  | handlesReleased =>
      rcases released_releaseEvents released with queueReleased | now
      · rcases released_releaseEvents queueReleased with cleanup | now
        · exact .inl (cleanup.older rfl)
        · cases now
          exact .inr .queue
      · cases now
        exact .inr .context

theorem Answer.newObject {status : BitVec 32} {result : Handle} {objects : Nat}
    (answer : Answer state.objects status result objects) (same : next.objects = objects) :
    result = .null ∨ NewObject state next result := by
  cases answer with
  | created => exact .inr ⟨state.objects, rfl, Nat.le_refl _, same ▸ Nat.lt_succ_self _⟩
  | failed => exact .inl rfl

theorem Effect.buffer_handle (effect : Effect driver state next) (other : Fin 32) :
    (next.allocations other).handle = (state.allocations other).handle ∨
      (next.allocations other).handle = .null ∨
      NewObject state next (next.allocations other).handle := by
  cases effect with
  | @allocated slot flags size status result objects free answer =>
      let after := state.allocated slot flags size status result objects
      by_cases same : other = slot
      · have now : (after.allocations other).handle = result := by
          show (Function.update state.allocations slot _ other).handle = result
          rw [same, Function.update_self]
        rw [now]
        exact .inr (answer.newObject rfl)
      · have kept : after.allocations other = state.allocations other :=
          Function.update_of_ne same _ _
        rw [kept]
        exact .inl rfl
  | released slot taken =>
      left
      refine update_keeps MemoryHandler.handle ?_ other
      rfl
  | malloc | free | issued | device | argStack | contextAssigned | queueFailed | queueCreated
  | kernelTaken | answered | kernelCreated | cleaned | handlesReleased => exact .inl rfl

/-- The two handles of a kernel. -/
def Kernel.handles (kernel : Kernel) : Handle × Handle := (kernel.kernelId, kernel.programId)

/-- The handles of a slot change only when it is filled, with the two objects created then. -/
theorem Effect.kernel_handles (effect : Effect driver state next) (other : Fin 32) :
    (next.kernels other).handles = (state.kernels other).handles ∨
      (next.kernels other).handles = (.object (state.objects + 1), .object state.objects) ∧
        next.objects = state.objects + 2 := by
  cases effect with
  | argStack slot size =>
      left
      refine update_keeps Kernel.handles ?_ other
      rfl
  | kernelCreated slot source options name status maxWorkGroupSize free =>
      let after := (state.kernelSlotTaken slot).kernelFilled slot source options name status
        maxWorkGroupSize
      by_cases same : other = slot
      · right
        refine ⟨?_, rfl⟩
        show (Function.update state.kernels slot _ other).handles = _
        rw [same, Function.update_self]
        rfl
      · left
        have kept : after.kernels other = state.kernels other := Function.update_of_ne same _ _
        rw [kept]
  | cleaned slot taken =>
      left
      refine update_keeps Kernel.handles ?_ other
      rfl
  | malloc | free | issued | device | contextAssigned | queueFailed | queueCreated
  | kernelTaken | answered | allocated | released | handlesReleased => exact .inl rfl

/-- What an effect stores was stored before, is null or is new. -/
theorem Effect.stores_new (effect : Effect driver state next) (stores : next.Stores handle) :
    state.Stores handle ∨ handle = .null ∨ NewObject state next handle := by
  cases stores with
  | context =>
      cases effect with
      | contextAssigned answer => exact .inr (answer.newObject rfl)
      | malloc | free | issued | device | argStack | queueFailed | queueCreated | kernelTaken
      | answered | allocated | kernelCreated | released | cleaned | handlesReleased =>
          exact .inl .context
  | queue =>
      cases effect with
      | queueFailed => exact .inr (.inl rfl)
      | queueCreated => exact .inr (Answer.created.newObject rfl)
      | malloc | free | issued | device | argStack | contextAssigned | kernelTaken
      | answered | allocated | kernelCreated | released | cleaned | handlesReleased =>
          exact .inl .queue
  | buffer other =>
      rcases effect.buffer_handle other with kept | new
      · rw [kept]
        exact .inl (.buffer other)
      · exact .inr new
  | kernel other =>
      rcases effect.kernel_handles other with kept | ⟨filled, created⟩
      · have same : (next.kernels other).kernelId = (state.kernels other).kernelId :=
          congrArg Prod.fst kept
        rw [same]
        exact .inl (.kernel other)
      · have now : (next.kernels other).kernelId = .object (state.objects + 1) :=
          congrArg Prod.fst filled
        rw [now]
        exact .inr (.inr ⟨state.objects + 1, rfl, by omega, by omega⟩)
  | program other =>
      rcases effect.kernel_handles other with kept | ⟨filled, created⟩
      · have same : (next.kernels other).programId = (state.kernels other).programId :=
          congrArg Prod.snd kept
        rw [same]
        exact .inl (.program other)
      · have now : (next.kernels other).programId = .object state.objects :=
          congrArg Prod.snd filled
        rw [now]
        exact .inr (.inr ⟨state.objects, rfl, by omega, by omega⟩)

/-! ### Names that OpenCL has not given -/

/-- The handle is no object that is yet to be created. -/
def Handle.Below (objects : Nat) (handle : Handle) : Prop :=
  ∀ id, handle = .object id → id < objects

/-- Nothing in the state or the record names an object that is yet to be created, and only
objects were created. -/
structure Bounded (state : State) : Prop where
  stored : ∀ handle, state.Stores handle → handle.Below state.objects
  released : ∀ resource, Released lifetimes state.log resource →
    resource.handle.Below state.objects
  created : ∀ resource, Created lifetimes state.log resource → resource.Known state.objects

theorem bounded_constructed (garbage : Garbage) : Bounded (State.constructed garbage) where
  stored := by
    intro handle stores id same
    cases stores <;> cases same
  released := fun _ released => (not_released_nil released).elim
  created := fun _ created => (not_created_nil created).elim

theorem Effect.bounded (effect : Effect driver state next) (bounded : Bounded state) :
    Bounded next where
  stored := by
    intro handle stores id same
    rcases effect.stores_new stores with before | rfl | ⟨new, named, _, below⟩
    · exact (bounded.stored handle before id same).trans_le effect.objects_le
    · cases same
    · rw [named] at same
      cases same
      exact below
  released := by
    intro resource released id same
    rcases effect.releases_stored released with before | stores
    · exact (bounded.released resource before id same).trans_le effect.objects_le
    · exact (bounded.stored resource.handle stores id same).trans_le effect.objects_le
  created := by
    intro resource created
    rcases effect.creates_new created with before | ⟨new, named, _, below⟩
    · exact (bounded.created resource before).mono effect.objects_le
    · exact ⟨new, below, named⟩

/-- A name that OpenCL has not given yet was not released. -/
theorem Bounded.fresh (bounded : Bounded state) {kind : Kind} {id : Nat}
    (unused : state.objects ≤ id) : ¬ Released lifetimes state.log ⟨kind, .object id⟩ :=
  fun released => Nat.not_lt.mpr unused (bounded.released _ released id rfl)

theorem bounded_of_run {garbage : Garbage} {ops : List Op} {session : Session}
    (ran : (Session.start garbage).run driver ops = some session) : Bounded session.context :=
  Session.run_preserves (fun _ _ _ bounded effect => effect.bounded bounded)
    (Session.valid_start garbage) (bounded_constructed garbage) ran

/-! ### Teardowns only release -/

theorem filterMap_tornDown {α : Type} {view : Event → Option α} (cleanup : view .cleanup = none)
    (releases : ∀ call status, call.releases ≠ none → view (.call call status .null) = none)
    (driver : Driver) (state : State) :
    (state.tornDown driver).log.filterMap view = state.log.filterMap view := by
  apply tornDown_keeps driver fun state => state.log.filterMap view
  · exact filterMap_cleaned driver (fun _ _ => releases _ _ nofun) fun _ _ => releases _ _ nofun
  · exact filterMap_released driver fun _ _ => releases _ _ nofun
  · exact filterMap_handlesReleased driver cleanup (fun _ _ => releases _ _ nofun)
      fun _ _ => releases _ _ nofun

end Effects

end OpenClHash.Wrapper
