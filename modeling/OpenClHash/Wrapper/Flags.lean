import OpenClHash.Wrapper.Ownership

/-!
Owns what the flags say about lifetimes: a buffer that is not marked as released, or a
kernel that is marked as initialized, is alive; once the mark changes, it is not. A context
that `init` has not marked holds no command queue.
-/

namespace OpenClHash.Wrapper

open OpenClHash.Library OpenClHash.Library.Lifetime Relation

/-! ### Flags -/

/-- A buffer marked as released was released, unless it never was one. -/
def MemoryHandler.Flagged (log : List Event) (handler : MemoryHandler) : Prop :=
  handler.released = true →
    handler.handle.isNull = true ∨ Released lifetimes log ⟨.buffer, handler.handle⟩

/-- A kernel marked as initialized is one; if the mark is missing, it was released or
never was one. -/
structure Kernel.Flagged (log : List Event) (kernel : Kernel) : Prop where
  filled : kernel.initialized = true → kernel.kernelId.isNull = false
  given : kernel.initialized = false →
    kernel.kernelId.isNull = true ∨ Released lifetimes log ⟨.kernel, kernel.kernelId⟩

structure Flagged (state : State) : Prop where
  buffers : ∀ slot, (state.allocations slot).Flagged state.log
  kernels : ∀ slot, (state.kernels slot).Flagged state.log
  queue : state.initialized = false → ∃ bits, state.clcommandQueue = .raw bits

theorem flagged_constructed (garbage : Garbage) : Flagged (State.constructed garbage) where
  buffers := fun _ => nofun
  kernels := fun _ => ⟨nofun, fun _ => .inl rfl⟩
  queue := fun _ => ⟨garbage.clcommandQueue, rfl⟩

section Effects

variable {driver : Driver} {state next : State}

theorem Released.of_suffix {older newer : List Event} (suffix : older <:+ newer)
    {resource : Resource} (released : Released lifetimes older resource) :
    Released lifetimes newer resource := by
  rcases suffix with ⟨added, rfl⟩
  exact released.append added

theorem MemoryHandler.Flagged.of_suffix {older newer : List Event} (suffix : older <:+ newer)
    {handler : MemoryHandler} (flagged : handler.Flagged older) : handler.Flagged newer :=
  fun marked => (flagged marked).imp_right (Released.of_suffix suffix)

theorem Kernel.Flagged.of_suffix {older newer : List Event} (suffix : older <:+ newer)
    {kernel : Kernel} (flagged : kernel.Flagged older) : kernel.Flagged newer :=
  ⟨flagged.filled, fun unmarked => (flagged.given unmarked).imp_right (Released.of_suffix suffix)⟩

/-- A state whose flags and stored handles are those of an earlier one. -/
theorem Flagged.kept (flagged : Flagged state) (suffix : state.log <:+ next.log)
    (allocations : next.allocations = state.allocations) (kernels : next.kernels = state.kernels)
    (queue : next.initialized = false → ∃ bits, next.clcommandQueue = .raw bits) :
    Flagged next where
  buffers := by
    intro slot
    rw [allocations]
    exact (flagged.buffers slot).of_suffix suffix
  kernels := by
    intro slot
    rw [kernels]
    exact (flagged.kernels slot).of_suffix suffix
  queue := queue

theorem released_of_releaseEvents {call : Handle → ClCall} {handle : Handle} {resource : Resource}
    (releases : (call handle).releases = some resource) (log : List Event) :
    handle.isNull = true ∨ Released lifetimes (releaseEvents driver call handle log) resource := by
  by_cases null : handle.isNull
  · exact .inl null
  · right
    unfold releaseEvents
    rw [if_neg null]
    exact released_cons.mpr (.inl releases)

theorem flagged_released (slot : Fin 32) (flagged : Flagged state) :
    Flagged (state.released driver slot) where
  buffers := by
    intro other
    show MemoryHandler.Flagged _ (Function.update state.allocations slot _ other)
    by_cases same : other = slot
    · rw [same, Function.update_self]
      intro _
      show (state.allocations slot).handle.isNull = true ∨ Released lifetimes
        (state.released driver slot).log ⟨.buffer, (state.allocations slot).handle⟩
      unfold State.released
      by_cases already : (state.allocations slot).released
      · rw [if_pos already]
        exact flagged.buffers slot already
      · rw [if_neg already]
        exact released_of_releaseEvents rfl _
    · rw [Function.update_of_ne same]
      exact (flagged.buffers other).of_suffix (suffix_released driver slot state)
  kernels := fun other => (flagged.kernels other).of_suffix (suffix_released driver slot state)
  queue := flagged.queue

theorem flagged_cleaned (slot : Fin 32) (flagged : Flagged state) :
    Flagged (state.cleaned driver slot) where
  buffers := fun other => (flagged.buffers other).of_suffix (suffix_cleaned driver slot state)
  kernels := by
    intro other
    show Kernel.Flagged _ (Function.update state.kernels slot _ other)
    by_cases same : other = slot
    · rw [same, Function.update_self]
      refine ⟨nofun, fun _ => ?_⟩
      show (state.kernels slot).kernelId.isNull = true ∨ Released lifetimes
        (state.cleaned driver slot).log ⟨.kernel, (state.kernels slot).kernelId⟩
      unfold State.cleaned
      by_cases initialized : (state.kernels slot).initialized
      · rw [if_pos initialized]
        have kernel : (state.kernels slot).kernelId.isNull = true ∨ Released lifetimes
            (releaseEvents driver .releaseKernel (state.kernels slot).kernelId state.log)
            ⟨.kernel, (state.kernels slot).kernelId⟩ := released_of_releaseEvents rfl state.log
        exact kernel.imp_right (Released.of_suffix (suffix_releaseEvents driver _ _ _))
      · rw [if_neg initialized]
        exact (flagged.kernels slot).given (Bool.eq_false_of_not_eq_true initialized)
    · rw [Function.update_of_ne same]
      exact (flagged.kernels other).of_suffix (suffix_cleaned driver slot state)
  queue := flagged.queue

theorem Effect.flagged (effect : Effect driver state next) (sound : Sound state)
    (flagged : Flagged state) : Flagged next := by
  have suffix := effect.extends.log
  cases effect with
  | malloc | free | issued | device | contextAssigned | kernelTaken | answered =>
      exact flagged.kept suffix rfl rfl flagged.queue
  | queueFailed => exact flagged.kept suffix rfl rfl fun _ => ⟨0, rfl⟩
  | queueCreated => exact flagged.kept suffix rfl rfl nofun
  | handlesReleased => exact flagged.kept suffix rfl rfl flagged.queue
  | argStack slot size =>
      refine ⟨flagged.buffers, ?_, flagged.queue⟩
      intro other
      show Kernel.Flagged _ (Function.update state.kernels slot _ other)
      by_cases same : other = slot
      · rw [same, Function.update_self]
        exact ⟨(flagged.kernels slot).filled, (flagged.kernels slot).given⟩
      · rw [Function.update_of_ne same]
        exact flagged.kernels other
  | allocated slot flags size next answer =>
      refine ⟨?_, fun other => (flagged.kernels other).of_suffix suffix, flagged.queue⟩
      intro other
      show MemoryHandler.Flagged _ (Function.update state.allocations slot _ other)
      by_cases same : other = slot
      · have fresh := sound.freshAllocation slot (Nat.le_of_eq next.symm)
        rw [same, Function.update_self, fresh]
        exact nofun
      · rw [Function.update_of_ne same]
        exact (flagged.buffers other).of_suffix suffix
  | kernelCreated slot source options name status maxWorkGroupSize next =>
      refine ⟨fun other => (flagged.buffers other).of_suffix suffix, ?_, flagged.queue⟩
      intro other
      show Kernel.Flagged _ (Function.update state.kernels slot _ other)
      by_cases same : other = slot
      · rw [same, Function.update_self]
        exact ⟨fun _ => rfl, nofun⟩
      · rw [Function.update_of_ne same]
        exact (flagged.kernels other).of_suffix suffix
  | released slot taken => exact flagged_released slot flagged
  | cleaned slot taken => exact flagged_cleaned slot flagged

/-! ### What is alive -/

theorem Bounded.not_alive_null (bounded : Bounded state) {kind : Kind} {handle : Handle}
    (null : handle.isNull = true) : ¬ Alive lifetimes state.log ⟨kind, handle⟩ := by
  intro alive
  rcases bounded.created _ alive.1 with ⟨id, _, same⟩
  have same : handle = .object id := same
  rw [same] at null
  cases null

theorem not_alive_of_given (bounded : Bounded state) {kind : Kind} {handle : Handle}
    (given : handle.isNull = true ∨ Released lifetimes state.log ⟨kind, handle⟩) :
    ¬ Alive lifetimes state.log ⟨kind, handle⟩ :=
  given.elim bounded.not_alive_null Released.not_alive

/-- What a slot holds is alive. -/
theorem Owned.alive (owned : Owned state) {place : Place} {resource : Resource}
    (held : state.holds place = some resource) (inSlot : resource.inSlot = true) :
    Alive lifetimes state.log resource := by
  constructor
  · exact owned.put resource (owned.custody.put_of_holds place resource held)
  · intro released
    rcases released with ⟨event, member, releases⟩
    apply owned.custody.not_freed place resource held
    have releases : event.releases = some resource := releases
    refine List.mem_filterMap.mpr ⟨event, member, ?_⟩
    rw [Event.frees, releases, Option.filter_some, if_pos inSlot]

theorem Owned.alive_buffer (owned : Owned state) {slot : Fin 32}
    (unreleased : (state.allocations slot).released = false)
    (something : (state.allocations slot).handle.isNull = false) :
    Alive lifetimes state.log ⟨.buffer, (state.allocations slot).handle⟩ := by
  have held : state.holds (.buffer slot) = some ⟨.buffer, (state.allocations slot).handle⟩ := by
    show stored (state.allocations slot).released _ _ = _
    rw [stored, unreleased, something]
    rfl
  exact owned.alive held rfl

theorem Owned.alive_kernel (owned : Owned state) (flagged : Flagged state) {slot : Fin 32}
    (initialized : (state.kernels slot).initialized = true) :
    Alive lifetimes state.log ⟨.kernel, (state.kernels slot).kernelId⟩ := by
  have held : state.holds (.kernel slot) = some ⟨.kernel, (state.kernels slot).kernelId⟩ := by
    show stored (!(state.kernels slot).initialized) _ _ = _
    rw [stored, initialized, (flagged.kernels slot).filled initialized]
    rfl
  exact owned.alive held rfl

theorem Flagged.not_alive_queue (flagged : Flagged state) (bounded : Bounded state)
    (unmarked : state.initialized = false) :
    ¬ Alive lifetimes state.log ⟨.queue, state.clcommandQueue⟩ := by
  rcases flagged.queue unmarked with ⟨bits, raw⟩
  intro alive
  rcases bounded.created _ alive.1 with ⟨id, _, same⟩
  have same : state.clcommandQueue = .object id := same
  rw [raw] at same
  cases same

end Effects

end OpenClHash.Wrapper
