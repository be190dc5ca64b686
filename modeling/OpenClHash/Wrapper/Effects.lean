import Mathlib.Logic.Relation
import OpenClHash.Wrapper.Teardown

/-!
Owns what the operations can do to a `Context`, as a list of effects: every run of an
operation is a sequence of them, ended by a teardown if it raises.
-/

namespace OpenClHash.Wrapper

open OpenClHash.Sizing OpenClHash.Library.Fallible Relation

/-- A call that neither fills a member of the `Context` nor releases anything. -/
def ClCall.Inert : ClCall → Prop
  | .createContext | .createCommandQueue _ | .createBuffer _ _ _ | .releaseMemObject _
  | .releaseKernel _ | .releaseProgram _ | .releaseCommandQueue _ | .releaseContext _ => False
  | _ => True

/-- A call that passes no handle. -/
def ClCall.IsQuery : ClCall → Prop
  | .getPlatformIDs | .getPlatformInfo _ | .getDeviceIDs | .getDeviceInfo _ => True
  | _ => False

theorem ClCall.IsQuery.inert {call : ClCall} (query : call.IsQuery) : call.Inert := by
  cases call <;> trivial

/-- The state after `create_kernel` took a slot. -/
def State.kernelSlotTaken (slot : Fin 32) (state : State) : State :=
  { state.record (.kernelTaken slot) with kernelCount := state.kernelCount + 1 }

/-- The entries of the record for filling a kernel slot, newest first. -/
def kernelEvents (slot : Fin 32) (context : Handle) (program kernel : Nat)
    (source : List (BitVec 8)) (options : Option String) (name : String)
    (status : BitVec 32) : List Event :=
  [.kernelInit slot (.object kernel) (.object program),
    .call (.getKernelWorkGroupInfo (.object kernel)) status .null,
    .call (.createKernel (.object program) name) 0#32 (.object kernel),
    .call (.buildProgram (.object program) options) 0#32 .null,
    .free,
    .call (.createProgramWithSource context source) 0#32 (.object program),
    .malloc]

/-- The state after `create_kernel` filled its slot. -/
def State.kernelFilled (slot : Fin 32) (source : List (BitVec 8)) (options : Option String)
    (name : String) (status : BitVec 32) (maxWorkGroupSize : BitVec 64) (state : State) : State :=
  { state with
    kernels := Function.update state.kernels slot {
      kernelId := .object (state.objects + 1)
      programId := .object state.objects
      maxWorkGroupSize := maxWorkGroupSize
      argStackSize := 0
      initialized := true }
    objects := state.objects + 2
    log := kernelEvents slot state.clcontext state.objects (state.objects + 1) source options name
      status ++ state.log }

/-- The state after `allocate` took a slot and stored what `clCreateBuffer` answered. -/
def State.allocated (slot : Fin 32) (flags size : BitVec 64) (status : BitVec 32) (result : Handle)
    (objects : Nat) (state : State) : State :=
  { state with
    allocations := Function.update state.allocations slot
      { state.allocations slot with handle := result, size := size }
    allocationCount := state.allocationCount + 1
    objects := objects
    log := .call (.createBuffer state.clcontext flags size) status result ::
      .allocationTaken slot :: state.log }

/-- The state after `init` stored what `clCreateContext` answered. -/
def State.contextAssigned (status : BitVec 32) (result : Handle) (objects : Nat) (state : State) :
    State :=
  { state.answered .createContext status result objects with clcontext := result }

/-- The state after `init` stored what `clCreateCommandQueue` answered. -/
def State.queueAssigned (status : BitVec 32) (result : Handle) (objects : Nat) (state : State) :
    State :=
  { state.answered (.createCommandQueue state.clcontext) status result objects with
    clcommandQueue := result }

/-- The state after `init` stored a command queue and marked the context. -/
def State.queueCreated (state : State) : State :=
  { state.queueAssigned 0#32 (.object state.objects) (state.objects + 1) with initialized := true }

section Effects

variable (driver : Driver)

inductive Effect (state : State) : State → Prop where
  | malloc : Effect state (state.record .malloc)
  | free : Effect state (state.record .free)
  | issued (call : ClCall) (inert : call.Inert) (status : BitVec 32) :
      Effect state (state.record (.call call status .null))
  | device (info : DeviceInfo) : Effect state { state with device := info }
  | argStack (slot : Fin 32) (size : Nat) :
      Effect state (state.setKernel slot { state.kernels slot with argStackSize := size })
  | contextAssigned {status : BitVec 32} {result : Handle} {objects : Nat}
      (answer : Answer state.objects status result objects) :
      Effect state (state.contextAssigned status result objects)
  | queueFailed (status : BitVec 32) (nonzero : status ≠ 0#32) :
      Effect state (state.queueAssigned status .null state.objects)
  | queueCreated : Effect state state.queueCreated
  | allocated (slot : Fin 32) (flags size : BitVec 64) {status : BitVec 32} {result : Handle}
      {objects : Nat} (next : slot.val = state.allocationCount)
      (answer : Answer state.objects status result objects) :
      Effect state (state.allocated slot flags size status result objects)
  | kernelTaken (slot : Fin 32) (next : slot.val = state.kernelCount) :
      Effect state (state.kernelSlotTaken slot)
  | answered (call : ClCall) (inert : call.Inert) {status : BitVec 32} {result : Handle}
      {objects : Nat} (answer : Answer state.objects status result objects) :
      Effect state (state.answered call status result objects)
  | kernelCreated (slot : Fin 32) (source : List (BitVec 8)) (options : Option String)
      (name : String) (status : BitVec 32) (maxWorkGroupSize : BitVec 64)
      (next : slot.val = state.kernelCount) :
      Effect state
        ((state.kernelSlotTaken slot).kernelFilled slot source options name status maxWorkGroupSize)
  | released (slot : Fin 32) (taken : slot.val < state.allocationCount) :
      Effect state (state.released driver slot)
  | cleaned (slot : Fin 32) (taken : slot.val < state.kernelCount) :
      Effect state (state.cleaned driver slot)
  | handlesReleased : Effect state (state.handlesReleased driver)

/-! ### Soundness -/

/-- Counts in bounds, and slots that no call has taken yet as the constructor left them. -/
structure Sound (state : State) : Prop extends state.InBounds where
  freshKernel : ∀ slot : Fin 32, state.kernelCount ≤ slot.val →
    (state.kernels slot).initialized = false
  freshAllocation : ∀ slot : Fin 32, state.allocationCount ≤ slot.val →
    state.allocations slot = {}

theorem sound_constructed (garbage : Garbage) : Sound (State.constructed garbage) where
  kernels := Nat.zero_le 32
  allocations := Nat.zero_le 32
  freshKernel := fun _ _ => rfl
  freshAllocation := fun _ _ => rfl

section Steps

variable {driver} {state next : State}

/-- Slots from `count` on keep their values when a slot below `count` is updated. -/
theorem update_taken {α : Type} {values : Fin 32 → α} {slot other : Fin 32} {value : α}
    {count : Nat} (taken : slot.val < count) (fresh : count ≤ other.val) :
    Function.update values slot value other = values other := by
  apply Function.update_of_ne
  rintro rfl
  exact absurd taken (Nat.not_lt.mpr fresh)

/-- An update that keeps a property of the slot keeps it everywhere. -/
theorem update_keeps {α β : Type} {values : Fin 32 → α} {slot : Fin 32} {value : α} (view : α → β)
    (same : view value = view (values slot)) (other : Fin 32) :
    view (Function.update values slot value other) = view (values other) := by
  by_cases here : other = slot
  · rw [here, Function.update_self, same]
  · rw [Function.update_of_ne here]

theorem effect_issued (driver : Driver) (state : State) {call : ClCall} (inert : call.Inert) :
    Effect driver state (state.issued driver call) := .issued call inert _

theorem Effect.sound (effect : Effect driver state next) (sound : Sound state) : Sound next := by
  have inBounds := sound.toInBounds
  cases effect with
  | malloc | free | issued | device | contextAssigned | queueFailed | queueCreated | answered
  | handlesReleased =>
      exact ⟨⟨sound.kernels, sound.allocations⟩, sound.freshKernel, sound.freshAllocation⟩
  | argStack slot size =>
      refine ⟨⟨sound.kernels, sound.allocations⟩, ?_, sound.freshAllocation⟩
      intro other fresh
      refine Eq.trans (update_keeps Kernel.initialized ?_ other) (sound.freshKernel other fresh)
      rfl
  | allocated slot flags size next answer =>
      refine ⟨⟨sound.kernels, by show state.allocationCount + 1 ≤ 32; omega⟩, sound.freshKernel, ?_⟩
      intro other fresh
      have taken : slot.val < state.allocationCount + 1 := by omega
      show Function.update state.allocations slot _ other = {}
      rw [update_taken taken fresh]
      exact sound.freshAllocation other (Nat.le_of_succ_le fresh)
  | kernelTaken slot next =>
      refine ⟨⟨by show state.kernelCount + 1 ≤ 32; omega, sound.allocations⟩, ?_,
        sound.freshAllocation⟩
      intro other fresh
      exact sound.freshKernel other (Nat.le_of_succ_le fresh)
  | kernelCreated slot source options name status maxWorkGroupSize next =>
      refine ⟨⟨by show state.kernelCount + 1 ≤ 32; omega, sound.allocations⟩, ?_,
        sound.freshAllocation⟩
      intro other fresh
      have taken : slot.val < state.kernelCount + 1 := by omega
      show (Function.update state.kernels slot _ other).initialized = false
      rw [update_taken taken fresh]
      exact sound.freshKernel other (Nat.le_of_succ_le fresh)
  | released slot taken =>
      refine ⟨⟨sound.kernels, sound.allocations⟩, sound.freshKernel, ?_⟩
      intro other fresh
      show Function.update state.allocations slot _ other = {}
      rw [update_taken taken fresh]
      exact sound.freshAllocation other fresh
  | cleaned slot taken =>
      refine ⟨⟨sound.kernels, sound.allocations⟩, ?_, sound.freshAllocation⟩
      intro other fresh
      show (Function.update state.kernels slot _ other).initialized = false
      rw [update_taken taken fresh]
      exact sound.freshKernel other fresh

theorem sound_of_effects (path : ReflTransGen (Effect driver) state next) (sound : Sound state) :
    Sound next := by
  induction path with
  | refl => exact sound
  | tail _ effect inductionHypothesis => exact effect.sound inductionHypothesis

/-- What every effect keeps in a sound state holds after a sequence of effects. -/
theorem preserved_of_effects {property : State → Prop}
    (keeps : ∀ before after, Sound before → property before → Effect driver before after →
      property after)
    (path : ReflTransGen (Effect driver) state next) (sound : Sound state)
    (holds : property state) : property next := by
  induction path with
  | refl => exact holds
  | tail rest effect inductionHypothesis =>
      exact keeps _ _ (sound_of_effects rest sound) inductionHypothesis effect

/-! ### What only grows -/

/-- Counts, the record and the mark of `init` grow, and a taken buffer slot keeps what it
stores. -/
structure Extends (state next : State) : Prop where
  allocationCount : state.allocationCount ≤ next.allocationCount
  kernelCount : state.kernelCount ≤ next.kernelCount
  log : state.log <:+ next.log
  initialized : state.initialized = true → next.initialized = true
  handle : ∀ slot : Fin 32, slot.val < state.allocationCount →
    (next.allocations slot).handle = (state.allocations slot).handle
  size : ∀ slot : Fin 32, slot.val < state.allocationCount →
    (next.allocations slot).size = (state.allocations slot).size

theorem Extends.refl (state : State) : Extends state state :=
  ⟨Nat.le_refl _, Nat.le_refl _, List.suffix_rfl, id, fun _ _ => rfl, fun _ _ => rfl⟩

theorem Extends.trans {later : State} (first : Extends state next) (second : Extends next later) :
    Extends state later where
  allocationCount := first.allocationCount.trans second.allocationCount
  kernelCount := first.kernelCount.trans second.kernelCount
  log := first.log.trans second.log
  initialized := fun marked => second.initialized (first.initialized marked)
  handle := by
    intro slot taken
    rw [second.handle slot (taken.trans_le first.allocationCount), first.handle slot taken]
  size := by
    intro slot taken
    rw [second.size slot (taken.trans_le first.allocationCount), first.size slot taken]

theorem suffix_releaseEvents (driver : Driver) (call : Handle → ClCall) (handle : Handle)
    (log : List Event) : log <:+ releaseEvents driver call handle log := by
  unfold releaseEvents
  by_cases null : handle.isNull
  · rw [if_pos null]
  · rw [if_neg null]
    exact List.suffix_cons _ log

theorem suffix_released (driver : Driver) (slot : Fin 32) (state : State) :
    state.log <:+ (state.released driver slot).log := by
  unfold State.released
  by_cases already : (state.allocations slot).released
  · rw [if_pos already]
  · rw [if_neg already]
    exact suffix_releaseEvents driver _ _ _

theorem suffix_cleaned (driver : Driver) (slot : Fin 32) (state : State) :
    state.log <:+ (state.cleaned driver slot).log := by
  unfold State.cleaned
  by_cases initialized : (state.kernels slot).initialized
  · rw [if_pos initialized]
    exact (suffix_releaseEvents driver _ _ _).trans (suffix_releaseEvents driver _ _ _)
  · rw [if_neg initialized]

theorem suffix_handlesReleased (driver : Driver) (state : State) :
    (.cleanup :: state.log) <:+ (state.handlesReleased driver).log :=
  (suffix_releaseEvents driver _ _ _).trans (suffix_releaseEvents driver _ _ _)

theorem Effect.extends (effect : Effect driver state next) : Extends state next := by
  have unchanged := Extends.refl state
  cases effect with
  | device => exact ⟨unchanged.1, unchanged.2, unchanged.3, id, unchanged.5, unchanged.6⟩
  | argStack => exact ⟨unchanged.1, unchanged.2, unchanged.3, id, unchanged.5, unchanged.6⟩
  | malloc | free | issued | contextAssigned | queueFailed | answered =>
      exact ⟨unchanged.1, unchanged.2, List.suffix_cons _ _, id, unchanged.5, unchanged.6⟩
  | queueCreated =>
      exact ⟨unchanged.1, unchanged.2, List.suffix_cons _ _, fun _ => rfl, unchanged.5,
        unchanged.6⟩
  | allocated slot flags size next answer =>
      have other : ∀ taken : Fin 32, taken.val < state.allocationCount → taken ≠ slot := by
        rintro taken below rfl
        omega
      refine ⟨Nat.le_succ _, Nat.le_refl _, List.suffix_append [_, _] _, id, ?_, ?_⟩
      · intro taken below
        exact congrArg MemoryHandler.handle (Function.update_of_ne (other taken below) _ _)
      · intro taken below
        exact congrArg MemoryHandler.size (Function.update_of_ne (other taken below) _ _)
  | kernelTaken =>
      exact ⟨Nat.le_refl _, Nat.le_succ _, List.suffix_cons _ _, id, unchanged.5, unchanged.6⟩
  | kernelCreated =>
      refine ⟨Nat.le_refl _, Nat.le_succ _, ?_, id, unchanged.5, unchanged.6⟩
      exact (List.suffix_cons _ _).trans (List.suffix_append _ _)
  | released slot taken =>
      refine ⟨Nat.le_refl _, Nat.le_refl _, suffix_released driver slot state, id, ?_, ?_⟩
      · intro other _
        refine update_keeps MemoryHandler.handle ?_ other
        rfl
      · intro other _
        refine update_keeps MemoryHandler.size ?_ other
        rfl
  | cleaned slot taken =>
      exact ⟨Nat.le_refl _, Nat.le_refl _, suffix_cleaned driver slot state, id, unchanged.5,
        unchanged.6⟩
  | handlesReleased =>
      exact ⟨Nat.le_refl _, Nat.le_refl _,
        (List.suffix_cons _ _).trans (suffix_handlesReleased driver state), id, unchanged.5,
        unchanged.6⟩

theorem extends_of_effects (path : ReflTransGen (Effect driver) state next) :
    Extends state next := by
  induction path with
  | refl => exact .refl state
  | tail _ effect inductionHypothesis => exact inductionHypothesis.trans effect.extends

/-! ### Teardowns as effects -/

/-- A loop over slots keeps what each visit keeps. -/
theorem visitSlots_keeps {β : Type} (visit : Fin 32 → State → State) (view : State → β)
    (keeps : ∀ slot state, view (visit slot state) = view state) (bound : Nat) (state : State) :
    view (state.visitSlots visit bound) = view state := by
  unfold State.visitSlots
  induction List.range bound generalizing state with
  | nil => rfl
  | cons i rest inductionHypothesis =>
      rw [List.foldl_cons, inductionHypothesis]
      by_cases inside : i < 32
      · rw [dif_pos inside, keeps]
      · rw [dif_neg inside]

/-- A teardown keeps what each of its parts keeps. -/
theorem tornDown_keeps {β : Type} (driver : Driver) (view : State → β)
    (cleaned : ∀ slot state, view (state.cleaned driver slot) = view state)
    (released : ∀ slot state, view (state.released driver slot) = view state)
    (handles : ∀ state, view (state.handlesReleased driver) = view state) (state : State) :
    view (state.tornDown driver) = view state := by
  unfold State.tornDown
  rw [handles, visitSlots_keeps _ view released, visitSlots_keeps _ view cleaned]

theorem visitSlots_preserves (visit : Fin 32 → State → State) (property : State → Prop)
    (keeps : ∀ slot state, property state → property (visit slot state)) (bound : Nat)
    (holds : property state) : property (state.visitSlots visit bound) := by
  unfold State.visitSlots
  induction List.range bound generalizing state with
  | nil => exact holds
  | cons i rest inductionHypothesis =>
      rw [List.foldl_cons]
      apply inductionHypothesis
      by_cases inside : i < 32
      · rw [dif_pos inside]
        exact keeps _ _ holds
      · rw [dif_neg inside]
        exact holds

theorem cleanedSlots_effects (driver : Driver) {bound : Nat} (inside : bound ≤ 32)
    (below : bound ≤ state.kernelCount) :
    ReflTransGen (Effect driver) state (state.visitSlots (State.cleaned driver) bound) := by
  induction bound with
  | zero => exact .refl
  | succ bound inductionHypothesis =>
      rw [State.visitSlots_succ _ (by omega)]
      refine (inductionHypothesis (by omega) (by omega)).tail (.cleaned _ ?_)
      rw [visitSlots_keeps (State.cleaned driver) State.kernelCount fun _ _ => rfl]
      exact below

theorem releasedSlots_effects (driver : Driver) {bound : Nat} (inside : bound ≤ 32)
    (below : bound ≤ state.allocationCount) :
    ReflTransGen (Effect driver) state (state.visitSlots (State.released driver) bound) := by
  induction bound with
  | zero => exact .refl
  | succ bound inductionHypothesis =>
      rw [State.visitSlots_succ _ (by omega)]
      refine (inductionHypothesis (by omega) (by omega)).tail (.released _ ?_)
      rw [visitSlots_keeps (State.released driver) State.allocationCount fun _ _ => rfl]
      exact below

theorem suffix_tornDown (driver : Driver) (state : State) :
    state.log <:+ (state.tornDown driver).log := by
  have kernels := visitSlots_preserves (State.cleaned driver)
    (fun next => state.log <:+ next.log)
    (fun slot next longer => longer.trans (suffix_cleaned driver slot next)) state.kernelCount
    List.suffix_rfl
  have buffers := visitSlots_preserves (State.released driver)
    (fun next => state.log <:+ next.log)
    (fun slot next longer => longer.trans (suffix_released driver slot next))
    state.allocationCount kernels
  exact (buffers.trans (List.suffix_cons _ _)).trans (suffix_handlesReleased driver _)

/-- A teardown cleans up the kernels, releases the buffers, then the queue and the context. -/
theorem tornDown_effects (driver : Driver) (sound : Sound state) :
    ReflTransGen (Effect driver) state (state.tornDown driver) := by
  have kernels := cleanedSlots_effects driver sound.kernels (Nat.le_refl state.kernelCount)
  have sameCount : (state.visitSlots (State.cleaned driver) state.kernelCount).allocationCount =
      state.allocationCount :=
    visitSlots_keeps (State.cleaned driver) State.allocationCount (fun _ _ => rfl) _ _
  have buffers := releasedSlots_effects driver sound.allocations (Nat.le_of_eq sameCount.symm)
  exact (kernels.trans buffers).tail .handlesReleased

end Steps

/-! ### Outcomes -/

/-- How an operation may end: it returns, a failed check tears down and raises, or it
evaluates something undefined that is no slot index. -/
inductive Outcome (before : State) {α : Type} : EStateM.Result Failure State α → Prop where
  | returned (value : α) (after : State) (path : ReflTransGen (Effect driver) before after) :
      Outcome before (.ok value after)
  | raised (msg : String) (failing : State) (path : ReflTransGen (Effect driver) before failing) :
      Outcome before (.error (.runtimeError msg) (failing.tornDown driver))
  | undefined (failure : Failure) (after : State) (noException : ∀ msg, failure ≠ .runtimeError msg)
      (inside : failure ≠ .slotOutOfBounds) : Outcome before (.error failure after)

end Effects

end OpenClHash.Wrapper
