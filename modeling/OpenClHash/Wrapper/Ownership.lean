import OpenClHash.Library.Custody
import OpenClHash.Wrapper.Resources

/-!
Owns the custody of buffers, kernels and programs: the two arrays as slots that hold each
of them from its creation to its release. Over the life of a `Context` each one is
released exactly once, every slot is taken once and no array is left.
-/

namespace OpenClHash.Wrapper

open OpenClHash.Library OpenClHash.Library.Lifetime OpenClHash.Sizing Relation

/-! ### Objects and their slots -/

/-- Whether the arrays hold objects of this kind. -/
def Resource.inSlot (resource : Resource) : Bool :=
  match resource.kind with
  | .buffer | .program | .kernel => true
  | .context | .queue => false

namespace Event

/-- What an entry of the record hands to a slot: a created buffer, or the kernel and the
program given to `Kernel::init`. -/
def puts : Event → List Resource
  | .call (.createBuffer _ _ _) _ result => (stored false .buffer result).toList
  | .kernelInit _ kernel program => [⟨.program, program⟩, ⟨.kernel, kernel⟩]
  | _ => []

/-- What an entry of the record frees from a slot. -/
def frees (event : Event) : Option Resource :=
  event.releases.filter Resource.inSlot

/-- The buffer slot that `allocate` took. -/
def takesBuffer : Event → Option (Fin 32)
  | .allocationTaken slot => some slot
  | _ => none

/-- The kernel slot that `create_kernel` took. -/
def takesKernel : Event → Option (Fin 32)
  | .kernelTaken slot => some slot
  | _ => none

end Event

/-- A place that holds a resource. A slot of `_kernels` has two. -/
inductive Place where
  | buffer (slot : Fin 32)
  | kernel (slot : Fin 32)
  | program (slot : Fin 32)
deriving DecidableEq, Repr

def MemoryHandler.holds (handler : MemoryHandler) : Option Resource :=
  stored handler.released .buffer handler.handle

def Kernel.holdsKernel (kernel : Kernel) : Option Resource :=
  stored (!kernel.initialized) .kernel kernel.kernelId

def Kernel.holdsProgram (kernel : Kernel) : Option Resource :=
  stored (!kernel.initialized) .program kernel.programId

namespace State

def holds (state : State) : Place → Option Resource
  | .buffer slot => (state.allocations slot).holds
  | .kernel slot => (state.kernels slot).holdsKernel
  | .program slot => (state.kernels slot).holdsProgram

/-- The custody a state stands for. -/
def custody (state : State) : Custody.State Place Resource where
  holds := state.holds
  put := state.log.flatMap Event.puts
  freed := state.log.filterMap Event.frees

end State

/-- The custody invariant; what was put into slots was created. -/
structure Owned (state : State) : Prop extends Bounded state where
  custody : Custody.Invariant state.custody
  put : ∀ resource ∈ state.custody.put, Created lifetimes state.log resource

theorem owned_constructed (garbage : Garbage) : Owned (State.constructed garbage) where
  toBounded := bounded_constructed garbage
  custody := by
    have empty : (State.constructed garbage).holds = fun _ => none := by
      funext place
      cases place <;> rfl
    show Custody.Invariant ⟨(State.constructed garbage).holds, [], []⟩
    rw [empty]
    exact Custody.invariant_start
  put := nofun

/-! ### Effects as custody steps -/

section Effects

variable {driver : Driver} {state next : State}

theorem Event.puts_inert {call : ClCall} (inert : call.Inert) (status : BitVec 32)
    (result : Handle) : (Event.call call status result).puts = [] := by
  cases call <;> first | exact inert.elim | rfl

theorem Event.frees_inert {call : ClCall} (inert : call.Inert) (status : BitVec 32)
    (result : Handle) : (Event.call call status result).frees = none := by
  cases call <;> first | rfl | exact inert.elim

theorem custody_of_inert (state : State) {call : ClCall} (inert : call.Inert) (status : BitVec 32)
    (result : Handle) (objects : Nat) :
    (state.answered call status result objects).custody = state.custody := by
  show Custody.State.mk _ (Event.puts _ ++ _) (List.filterMap _ (_ :: _)) = _
  rw [Event.puts_inert inert, List.filterMap_cons_none (Event.frees_inert inert status result)]
  rfl

/-- A state whose buffers changed in one slot. -/
theorem holds_of_allocations {slot : Fin 32} {handler : MemoryHandler}
    (allocations : next.allocations = Function.update state.allocations slot handler)
    (kernels : next.kernels = state.kernels) :
    next.holds = Function.update state.holds (.buffer slot) handler.holds := by
  funext place
  cases place with
  | buffer other =>
      by_cases same : other = slot <;> simp [State.holds, allocations, same]
  | kernel other | program other => simp [State.holds, kernels]

/-- A state whose kernels changed in one slot. -/
theorem holds_of_kernels {slot : Fin 32} {kernel : Kernel}
    (kernels : next.kernels = Function.update state.kernels slot kernel)
    (allocations : next.allocations = state.allocations) :
    next.holds = Function.update
      (Function.update state.holds (.kernel slot) kernel.holdsKernel)
      (.program slot) kernel.holdsProgram := by
  funext place
  cases place with
  | buffer other => simp [State.holds, allocations]
  | kernel other | program other =>
      by_cases same : other = slot <;> simp [State.holds, kernels, same]

/-- What an effect does to the custody. -/
structure CustodyMove (state next : State) : Prop where
  path : ReflTransGen Custody.Step state.custody next.custody
  put : ∀ resource ∈ next.custody.put,
    resource ∈ state.custody.put ∨ Created lifetimes next.log resource

theorem CustodyMove.kept (custody : next.custody = state.custody) : CustodyMove state next where
  path := by rw [custody]
  put := by
    intro resource member
    rw [custody] at member
    exact .inl member

/-- A resource named after an object that is yet to be created is new. -/
theorem Owned.new (owned : Owned state) {kind : Kind} {id : Nat} (unused : state.objects ≤ id) :
    ⟨kind, .object id⟩ ∉ state.custody.put := by
  intro member
  rcases owned.created _ (owned.put _ member) with ⟨other, below, same⟩
  cases same
  exact Nat.not_lt.mpr unused below

/-! ### Taking -/

theorem custody_argStack (slot : Fin 32) (size : Nat) (state : State) :
    (state.setKernel slot { state.kernels slot with argStackSize := size }).custody =
      state.custody := by
  let kernel : Kernel := { state.kernels slot with argStackSize := size }
  have holds : (state.setKernel slot kernel).holds =
      Function.update (Function.update state.holds (.kernel slot) kernel.holdsKernel)
        (.program slot) kernel.holdsProgram := holds_of_kernels rfl rfl
  have sameKernel : kernel.holdsKernel = state.holds (.kernel slot) := rfl
  have sameProgram : kernel.holdsProgram = state.holds (.program slot) := rfl
  rw [sameKernel, sameProgram, Function.update_eq_self, Function.update_eq_self] at holds
  unfold State.custody
  rw [holds]
  rfl

theorem move_allocated (sound : Sound state) (owned : Owned state) {slot : Fin 32}
    (flags size : BitVec 64) (next : slot.val = state.allocationCount) {status : BitVec 32}
    {result : Handle} {objects : Nat} (answer : Answer state.objects status result objects) :
    CustodyMove state (state.allocated slot flags size status result objects) := by
  let after := state.allocated slot flags size status result objects
  let handler : MemoryHandler := { state.allocations slot with handle := result, size := size }
  have fresh : state.allocations slot = {} := sound.freshAllocation slot (Nat.le_of_eq next.symm)
  have empty : state.custody.holds (.buffer slot) = none := by
    show (state.allocations slot).holds = none
    rw [fresh]
    rfl
  have holds : after.holds = Function.update state.holds (.buffer slot) handler.holds :=
    holds_of_allocations rfl rfl
  have resource : handler.holds = stored false .buffer result := by
    show stored (state.allocations slot).released .buffer result = _
    rw [fresh]
  have custody : after.custody =
      ⟨Function.update state.custody.holds (.buffer slot) (stored false .buffer result),
        (stored false .buffer result).toList ++ state.custody.put, state.custody.freed⟩ := by
    rw [resource] at holds
    unfold State.custody
    rw [holds]
    rfl
  constructor
  · rw [custody]
    apply Custody.path_put _ _ empty
    intro found held
    cases answer with
    | created =>
        cases held
        exact owned.new (Nat.le_refl _)
    | failed =>
        rw [stored_null] at held
        cases held
  · intro found member
    rw [custody] at member
    rcases List.mem_append.mp member with now | before
    · exact .inr (created_cons.mpr (.inl (Option.mem_toList.mp now)))
    · exact .inl before

theorem move_kernelCreated (sound : Sound state) (owned : Owned state) {slot : Fin 32}
    (source : List (BitVec 8)) (options : Option String) (name : String) (status : BitVec 32)
    (maxWorkGroupSize : BitVec 64) (next : slot.val = state.kernelCount) :
    CustodyMove state
      ((state.kernelSlotTaken slot).kernelFilled slot source options name status
        maxWorkGroupSize) := by
  let after := (state.kernelSlotTaken slot).kernelFilled slot source options name status
    maxWorkGroupSize
  let program : Resource := ⟨.program, .object state.objects⟩
  let kernel : Resource := ⟨.kernel, .object (state.objects + 1)⟩
  have fresh : (state.kernels slot).initialized = false :=
    sound.freshKernel slot (Nat.le_of_eq next.symm)
  have emptyKernel : state.custody.holds (.kernel slot) = none := by
    show stored (!(state.kernels slot).initialized) _ _ = none
    rw [fresh]
    rfl
  have emptyProgram : state.custody.holds (.program slot) = none := by
    show stored (!(state.kernels slot).initialized) _ _ = none
    rw [fresh]
    rfl
  let filled : Kernel := {
    kernelId := .object (state.objects + 1)
    programId := .object state.objects
    maxWorkGroupSize := maxWorkGroupSize
    initialized := true }
  have holds : after.holds =
      Function.update (Function.update state.holds (.kernel slot) filled.holdsKernel)
        (.program slot) filled.holdsProgram := holds_of_kernels rfl rfl
  have custody : after.custody =
      ⟨Function.update (Function.update state.custody.holds (.kernel slot) (some kernel))
        (.program slot) (some program), program :: kernel :: state.custody.put,
        state.custody.freed⟩ := by
    unfold State.custody
    rw [holds]
    rfl
  have newKernel : kernel ∉ state.custody.put := owned.new (Nat.le_succ _)
  have newProgram : program ∉ state.custody.put := owned.new (Nat.le_refl _)
  have createdProgram : Created lifetimes after.log program :=
    ⟨.call (.createProgramWithSource state.clcontext source) 0#32 program.handle,
      by simp [after, State.kernelFilled, State.kernelSlotTaken, State.record, kernelEvents,
        program],
      rfl⟩
  have createdKernel : Created lifetimes after.log kernel :=
    ⟨.call (.createKernel program.handle name) 0#32 kernel.handle,
      by simp [after, State.kernelFilled, State.kernelSlotTaken, State.record, kernelEvents, kernel,
        program],
      rfl⟩
  constructor
  · rw [custody]
    apply ReflTransGen.tail (.single (.put (.kernel slot) kernel emptyKernel newKernel))
    apply Custody.Step.put (Place.program slot) program
    · have other : Place.program slot ≠ .kernel slot := by simp
      show Function.update state.custody.holds (.kernel slot) (some kernel) (.program slot) = none
      rw [Function.update_of_ne other]
      exact emptyProgram
    · simpa [program, kernel] using newProgram
  · intro found member
    rw [custody] at member
    rcases List.mem_cons.mp member with rfl | member
    · exact .inr createdProgram
    · rcases List.mem_cons.mp member with rfl | before
      · exact .inr createdKernel
      · exact .inl before

/-! ### Giving back -/

/-- The release of a stored handle puts nothing. -/
theorem puts_releaseEvents (driver : Driver) {call : Handle → ClCall}
    (nothing : ∀ handle status, (Event.call (call handle) status .null).puts = [])
    (handle : Handle) (log : List Event) :
    (releaseEvents driver call handle log).flatMap Event.puts = log.flatMap Event.puts := by
  unfold releaseEvents
  by_cases null : handle.isNull
  · rw [if_pos null]
  · rw [if_neg null, List.flatMap_cons, nothing, List.nil_append]

/-- The release of a stored handle frees what a slot that stores it holds. -/
theorem frees_releaseEvents (driver : Driver) {call : Handle → ClCall} {kind : Kind}
    (frees : ∀ handle status, (Event.call (call handle) status .null).frees = some ⟨kind, handle⟩)
    (handle : Handle) (log : List Event) :
    (releaseEvents driver call handle log).filterMap Event.frees =
      (stored false kind handle).toList ++ log.filterMap Event.frees := by
  unfold releaseEvents stored
  by_cases null : handle.isNull
  · rw [if_pos null, if_pos (by simpa using null)]
    rfl
  · rw [if_neg null, if_neg (by simpa using null), List.filterMap_cons_some (frees _ _)]
    rfl

theorem custody_released (driver : Driver) (slot : Fin 32) (state : State) :
    (state.released driver slot).custody =
      ⟨Function.update state.custody.holds (.buffer slot) none, state.custody.put,
        (state.custody.holds (.buffer slot)).toList ++ state.custody.freed⟩ := by
  let handler := state.allocations slot
  let given : MemoryHandler := { handler with released := true }
  have holds : (state.released driver slot).holds =
      Function.update state.holds (.buffer slot) given.holds := holds_of_allocations rfl rfl
  have log : (state.released driver slot).log = if handler.released then state.log else
      releaseEvents driver .releaseMemObject handler.handle state.log := rfl
  have held : (state.custody.holds (.buffer slot)) =
      stored handler.released .buffer handler.handle := rfl
  apply Custody.State.ext holds
  · show List.flatMap _ _ = List.flatMap _ _
    rw [log]
    by_cases already : handler.released
    · rw [if_pos already]
    · rw [if_neg already, puts_releaseEvents driver fun _ _ => rfl]
  · show List.filterMap _ _ = _ ++ List.filterMap _ _
    rw [log, held]
    by_cases already : handler.released
    · rw [if_pos already, already, stored_given]
      rfl
    · rw [if_neg already, Bool.eq_false_of_not_eq_true already,
        frees_releaseEvents driver fun _ _ => rfl]

theorem custody_cleaned (driver : Driver) (slot : Fin 32) (state : State) :
    (state.cleaned driver slot).custody =
      ⟨Function.update (Function.update state.custody.holds (.kernel slot) none)
          (.program slot) none, state.custody.put,
        (state.custody.holds (.program slot)).toList ++
          ((state.custody.holds (.kernel slot)).toList ++ state.custody.freed)⟩ := by
  let kernel := state.kernels slot
  let given : Kernel := { kernel with initialized := false }
  have holds : (state.cleaned driver slot).holds =
      Function.update (Function.update state.holds (.kernel slot) given.holdsKernel)
        (.program slot) given.holdsProgram := holds_of_kernels rfl rfl
  have log : (state.cleaned driver slot).log = if kernel.initialized then
        releaseEvents driver .releaseProgram kernel.programId
          (releaseEvents driver .releaseKernel kernel.kernelId state.log)
      else state.log := rfl
  have heldKernel : (state.custody.holds (.kernel slot)) =
      stored (!kernel.initialized) .kernel kernel.kernelId := rfl
  have heldProgram : (state.custody.holds (.program slot)) =
      stored (!kernel.initialized) .program kernel.programId := rfl
  apply Custody.State.ext holds
  · show List.flatMap _ _ = List.flatMap _ _
    rw [log]
    by_cases initialized : kernel.initialized
    · rw [if_pos initialized, puts_releaseEvents driver fun _ _ => rfl,
        puts_releaseEvents driver fun _ _ => rfl]
    · rw [if_neg initialized]
  · show List.filterMap _ _ = _ ++ (_ ++ List.filterMap _ _)
    rw [log, heldKernel, heldProgram]
    by_cases initialized : kernel.initialized = true
    · rw [if_pos initialized, initialized, frees_releaseEvents driver fun _ _ => rfl,
        frees_releaseEvents driver fun _ _ => rfl]
      rfl
    · rw [if_neg initialized, Bool.eq_false_of_not_eq_true initialized]
      rfl

theorem custody_handlesReleased (driver : Driver) (state : State) :
    (state.handlesReleased driver).custody = state.custody := by
  refine Custody.State.ext rfl ?_ ?_
  · show List.flatMap _ (releaseEvents _ _ _ (releaseEvents _ _ _ _)) = _
    rw [puts_releaseEvents driver fun _ _ => rfl, puts_releaseEvents driver fun _ _ => rfl]
    rfl
  · exact filterMap_handlesReleased driver rfl (fun _ _ => rfl) (fun _ _ => rfl) state

/-- A slot that gives back what it holds. -/
theorem move_released (driver : Driver) (slot : Fin 32) (state : State) :
    CustodyMove state (state.released driver slot) where
  path := by
    rw [custody_released]
    exact Custody.path_free state.custody rfl
  put := by
    intro resource member
    rw [custody_released] at member
    exact .inl member

theorem move_cleaned (driver : Driver) (slot : Fin 32) (state : State) :
    CustodyMove state (state.cleaned driver slot) where
  path := by
    rw [custody_cleaned]
    have kernel := Custody.path_free state.custody (Eq.refl (state.custody.holds (.kernel slot)))
    refine kernel.trans (Custody.path_free _ ?_)
    have other : Place.program slot ≠ .kernel slot := by simp
    show Function.update state.custody.holds (.kernel slot) none (.program slot) = _
    rw [Function.update_of_ne other]
  put := by
    intro resource member
    rw [custody_cleaned] at member
    exact .inl member

theorem Effect.custody (effect : Effect driver state next) (sound : Sound state)
    (owned : Owned state) : CustodyMove state next := by
  cases effect with
  | malloc | free | device | kernelTaken | contextAssigned | queueFailed | queueCreated =>
      exact .kept rfl
  | issued call inert status =>
      exact .kept (custody_of_inert state inert status .null state.objects)
  | argStack slot size => exact .kept (custody_argStack slot size state)
  | answered call inert answer => exact .kept (custody_of_inert state inert _ _ _)
  | allocated slot flags size next answer => exact move_allocated sound owned flags size next answer
  | kernelCreated slot source options name status maxWorkGroupSize next =>
      exact move_kernelCreated sound owned source options name status maxWorkGroupSize next
  | released slot taken => exact move_released driver slot state
  | cleaned slot taken => exact move_cleaned driver slot state
  | handlesReleased => exact .kept (custody_handlesReleased driver state)

theorem Created.of_suffix {older newer : List Event} (suffix : older <:+ newer)
    {resource : Resource} (created : Created lifetimes older resource) :
    Created lifetimes newer resource := by
  rcases created with ⟨event, member, creates⟩
  exact ⟨event, suffix.subset member, creates⟩

theorem Effect.owned (effect : Effect driver state next) (sound : Sound state)
    (owned : Owned state) : Owned next where
  toBounded := effect.bounded owned.toBounded
  custody := owned.custody.path (effect.custody sound owned).path
  put := by
    intro resource member
    rcases (effect.custody sound owned).put resource member with before | created
    · exact Created.of_suffix effect.extends.log (owned.put resource before)
    · exact created

/-! ### Teardowns empty the slots -/

/-- What each visit establishes of its slot and the others keep. -/
theorem visitSlots_establishes {visit : Fin 32 → State → State}
    (property : Fin 32 → State → Prop)
    (establishes : ∀ slot state, property slot (visit slot state))
    (keeps : ∀ slot other state, property other state → property other (visit slot state))
    {bound : Nat} (inside : bound ≤ 32) {slot : Fin 32}
    (reached : slot.val < bound ∨ property slot state) :
    property slot (state.visitSlots visit bound) := by
  induction bound with
  | zero => exact reached.resolve_left (Nat.not_lt_zero _)
  | succ bound inductionHypothesis =>
      rw [State.visitSlots_succ visit inside]
      by_cases last : slot.val = bound
      · have same : slot = ⟨bound, inside⟩ := Fin.ext last
        rw [same]
        exact establishes _ _
      · refine keeps _ _ _ (inductionHypothesis (by omega) ?_)
        exact reached.imp_left (by omega)

theorem tornDown_kernels (driver : Driver) (sound : Sound state) (slot : Fin 32) :
    ((state.tornDown driver).kernels slot).initialized = false := by
  have establishes (slot : Fin 32) (state : State) :
      ((state.cleaned driver slot).kernels slot).initialized = false := by
    show (Function.update state.kernels slot _ slot).initialized = false
    rw [Function.update_self]
  have keeps (slot other : Fin 32) (state : State)
      (already : (state.kernels other).initialized = false) :
      ((state.cleaned driver slot).kernels other).initialized = false := by
    by_cases same : other = slot
    · rw [same]
      exact establishes slot state
    · show (Function.update state.kernels slot _ other).initialized = false
      rw [Function.update_of_ne same]
      exact already
  have reached : slot.val < state.kernelCount ∨ (state.kernels slot).initialized = false :=
    (Nat.lt_or_ge slot.val state.kernelCount).imp_right (sound.freshKernel slot)
  have cleaned :=
    visitSlots_establishes (fun slot state => (state.kernels slot).initialized = false)
      establishes keeps sound.kernels reached
  have unchanged := visitSlots_keeps (State.released driver) State.kernels (fun _ _ => rfl)
    state.allocationCount (state.visitSlots (State.cleaned driver) state.kernelCount)
  show ((State.visitSlots (State.released driver) _ _).kernels slot).initialized = false
  rw [unchanged]
  exact cleaned

theorem tornDown_allocations (driver : Driver) (sound : Sound state) (slot : Fin 32) :
    ((state.tornDown driver).allocations slot).holds = none := by
  have establishes (slot : Fin 32) (state : State) :
      ((state.released driver slot).allocations slot).holds = none := by
    show (Function.update state.allocations slot _ slot).holds = none
    rw [Function.update_self]
    rfl
  have keeps (slot other : Fin 32) (state : State)
      (already : (state.allocations other).holds = none) :
      ((state.released driver slot).allocations other).holds = none := by
    by_cases same : other = slot
    · rw [same]
      exact establishes slot state
    · show (Function.update state.allocations slot _ other).holds = none
      rw [Function.update_of_ne same]
      exact already
  have unchanged := visitSlots_keeps (State.cleaned driver) State.allocations (fun _ _ => rfl)
    state.kernelCount state
  have reached : slot.val < state.allocationCount ∨
      ((state.visitSlots (State.cleaned driver) state.kernelCount).allocations slot).holds =
        none := by
    rw [unchanged]
    refine (Nat.lt_or_ge slot.val state.allocationCount).imp_right fun fresh => ?_
    rw [sound.freshAllocation slot fresh]
    rfl
  exact visitSlots_establishes (fun slot state => (state.allocations slot).holds = none)
    establishes keeps sound.allocations reached

theorem tornDown_holds (driver : Driver) (sound : Sound state) (place : Place) :
    (state.tornDown driver).custody.holds place = none := by
  cases place with
  | buffer slot => exact tornDown_allocations driver sound slot
  | kernel slot =>
      show stored (!((state.tornDown driver).kernels slot).initialized) _ _ = none
      rw [tornDown_kernels driver sound slot]
      rfl
  | program slot =>
      show stored (!((state.tornDown driver).kernels slot).initialized) _ _ = none
      rw [tornDown_kernels driver sound slot]
      rfl

/-! ### Slots are taken once -/

/-- Distinct slots below `count`. -/
structure TakenBelow (slots : List (Fin 32)) (count : Nat) : Prop where
  once : slots.Nodup
  below : ∀ slot ∈ slots, slot.val < count

theorem TakenBelow.cons {slots : List (Fin 32)} {count : Nat} (taken : TakenBelow slots count)
    {slot : Fin 32} (next : slot.val = count) : TakenBelow (slot :: slots) (count + 1) where
  once := by
    refine List.nodup_cons.mpr ⟨?_, taken.once⟩
    intro member
    exact Nat.lt_irrefl _ (next ▸ taken.below slot member)
  below := by
    intro other member
    rcases List.mem_cons.mp member with rfl | before
    · exact Nat.lt_succ_of_le (Nat.le_of_eq next)
    · exact (taken.below other before).trans (Nat.lt_succ_self count)

/-- The slots that the record says were taken are distinct and below the counts. -/
structure SlotsTaken (state : State) : Prop where
  buffers : TakenBelow (state.log.filterMap Event.takesBuffer) state.allocationCount
  kernels : TakenBelow (state.log.filterMap Event.takesKernel) state.kernelCount

theorem slotsTaken_constructed (garbage : Garbage) : SlotsTaken (State.constructed garbage) where
  buffers := ⟨List.nodup_nil, nofun⟩
  kernels := ⟨List.nodup_nil, nofun⟩

theorem Effect.slotsTaken (effect : Effect driver state next) (slots : SlotsTaken state) :
    SlotsTaken next := by
  cases effect with
  | malloc | free | issued | device | argStack | contextAssigned | queueFailed | queueCreated
  | answered => exact ⟨slots.buffers, slots.kernels⟩
  | allocated slot flags size next answer => exact ⟨slots.buffers.cons next, slots.kernels⟩
  | kernelTaken slot next => exact ⟨slots.buffers, slots.kernels.cons next⟩
  | kernelCreated slot source options name status maxWorkGroupSize next =>
      exact ⟨slots.buffers, slots.kernels.cons next⟩
  | released slot =>
      constructor
      · rw [filterMap_released driver fun _ _ => rfl]
        exact slots.buffers
      · rw [filterMap_released driver fun _ _ => rfl]
        exact slots.kernels
  | cleaned slot =>
      constructor
      · rw [filterMap_cleaned driver (fun _ _ => rfl) fun _ _ => rfl]
        exact slots.buffers
      · rw [filterMap_cleaned driver (fun _ _ => rfl) fun _ _ => rfl]
        exact slots.kernels
  | handlesReleased =>
      constructor
      · rw [filterMap_handlesReleased driver rfl (fun _ _ => rfl) fun _ _ => rfl]
        exact slots.buffers
      · rw [filterMap_handlesReleased driver rfl (fun _ _ => rfl) fun _ _ => rfl]
        exact slots.kernels

end Effects

/-! ### Whole lives -/

/-- How often a record releases a resource. -/
def releaseCount (resource : Resource) (log : List Event) : Nat :=
  (log.filterMap Event.releases).count resource

theorem releaseCount_eq {resource : Resource} (inSlot : resource.inSlot = true)
    (log : List Event) :
    releaseCount resource log = (log.filterMap Event.frees).count resource := by
  have filtered : log.filterMap Event.frees =
      (log.filterMap Event.releases).filter Resource.inSlot := List.filter_filterMap.symm
  rw [filtered, List.count_filter inSlot]
  rfl

/-- Every buffer that `clCreateBuffer` returned and every kernel and program handed to
`Kernel::init` is released exactly once. -/
structure ReleasedOnce (log : List Event) : Prop where
  buffers : ∀ context flags size status buffer,
    .call (.createBuffer context flags size) status buffer ∈ log → buffer.isNull = false →
    releaseCount ⟨.buffer, buffer⟩ log = 1
  kernels : ∀ slot kernel program, .kernelInit slot kernel program ∈ log →
    releaseCount ⟨.kernel, kernel⟩ log = 1
  programs : ∀ slot kernel program, .kernelInit slot kernel program ∈ log →
    releaseCount ⟨.program, program⟩ log = 1

/-- No buffer that is already allocated gets another handle or size. -/
def KeepsAllocations (state next : State) : Prop :=
  ∀ slot : Fin 32, slot.val < state.allocationCount →
    (next.allocations slot).handle = (state.allocations slot).handle ∧
      (next.allocations slot).size = (state.allocations slot).size

theorem Extends.keepsAllocations {state next : State} (grown : Extends state next) :
    KeepsAllocations state next := by
  intro slot taken
  exact ⟨grown.handle slot taken, grown.size slot taken⟩

theorem releasedOnce_of_empty {state : State} (owned : Owned state)
    (empty : ∀ place, state.custody.holds place = none) : ReleasedOnce state.log := by
  have once {resource : Resource} (inSlot : resource.inSlot = true) {event : Event}
      (member : event ∈ state.log) (puts : resource ∈ event.puts) :
      releaseCount resource state.log = 1 := by
    rw [releaseCount_eq inSlot]
    exact owned.custody.freed_once empty (List.mem_flatMap.mpr ⟨event, member, puts⟩)
  constructor
  · intro context flags size status buffer member something
    apply once rfl member
    show _ ∈ (stored false .buffer buffer).toList
    simp [stored, something]
  · intro slot kernel program member
    exact once rfl member (by simp [Event.puts])
  · intro slot kernel program member
    exact once rfl member (by simp [Event.puts])

theorem Session.life_of_run {driver : Driver} {garbage : Garbage} {ops : List Op}
    {session : Session} (ran : (Session.start garbage).run driver ops = some session) :
    Session.life driver garbage ops = some (session.context.tornDown driver) := by
  have valid := run_valid (valid_start garbage) ran
  unfold life
  rw [ran]
  dsimp only
  rw [run_cleanup driver valid.context.toInBounds]

theorem resources_released_once (driver : Driver) (garbage : Garbage) (ops : List Op)
    (session : Session) (ran : (Session.start garbage).run driver ops = some session) :
    (∃ ended, Session.life driver garbage ops = some ended ∧ ReleasedOnce ended.log ∧
      (ended.log.filterMap Event.takesBuffer).Nodup ∧
      (ended.log.filterMap Event.takesKernel).Nodup ∧ KeepsAllocations session.context ended) ∧
    (∀ op, session.Provides op → ∀ after,
      (op.perform driver).run session.context ≠ .error .slotOutOfBounds after) ∧
    (∀ flags size slot after, (allocate driver flags size).run session.context = .ok slot after →
      ∃ newer, after.log = newer ++ .allocationTaken slot :: session.context.log) ∧
    (∀ filePath cmpOpt mainF slot after,
      (createKernel driver filePath cmpOpt mainF).run session.context = .ok slot after →
      ∃ newer, after.log = newer ++ .kernelTaken slot :: session.context.log) ∧
    ∀ op next, session.step driver op = some next →
      KeepsAllocations session.context next.context := by
  have valid := Session.run_valid (Session.valid_start garbage) ran
  have teardown := tornDown_effects driver valid.context
  have lived := Session.life_of_run ran
  refine ⟨⟨session.context.tornDown driver, lived, ?_, ?_⟩, ?_, ?_, ?_, ?_⟩
  · have owned : Owned (session.context.tornDown driver) := by
      refine Session.life_preserves ?_ (owned_constructed garbage) lived
      intro before after sound owned effect
      exact effect.owned sound owned
    exact releasedOnce_of_empty owned (tornDown_holds driver valid.context)
  · have slots : SlotsTaken (session.context.tornDown driver) := by
      refine Session.life_preserves ?_ (slotsTaken_constructed garbage) lived
      intro before after _ slots effect
      exact effect.slotsTaken slots
    exact ⟨slots.buffers.once, slots.kernels.once, (extends_of_effects teardown).keepsAllocations⟩
  · intro op provides after leaves
    have outcome : Outcome driver session.context _ := valid.outcome provides
    rw [leaves] at outcome
    cases outcome with
    | undefined _ _ _ inside => exact inside rfl
  · intro flags size slot after returned
    obtain ⟨_, _, rfl⟩ := allocate_returned driver valid.context.toInBounds returned
    exact ⟨[_], rfl⟩
  · intro filePath cmpOpt mainF slot after returned
    obtain ⟨_, source, status, size, rfl⟩ := createKernel_returned driver valid.context returned
    exact ⟨kernelEvents slot session.context.clcontext session.context.objects
      (session.context.objects + 1) source cmpOpt mainF status, rfl⟩
  · intro op next stepped
    exact (extends_of_effects (Session.step_effects valid stepped)).keepsAllocations

/-- A released and an unreleased buffer, a kernel, and a failed check before the end. -/
theorem resources_released_once_after_failure :
    ∃ ended, Session.life (.failingAt 15) (.filled 0)
        [.init, .allocate 1#64 64#64, .allocate 1#64 64#64, .createKernel "main.cl" none "main",
          .release 1, .checkError 1#32 "stop"] = some ended ∧ ReleasedOnce ended.log := by
  have completes : ((Session.start (.filled 0)).run (.failingAt 15)
      [.init, .allocate 1#64 64#64, .allocate 1#64 64#64, .createKernel "main.cl" none "main",
        .release 1, .checkError 1#32 "stop"]).isSome = true := by
    decide +kernel
  rcases Option.isSome_iff_exists.mp completes with ⟨session, ran⟩
  rcases (resources_released_once _ _ _ session ran).1 with ⟨ended, lived, once, _⟩
  exact ⟨ended, lived, once⟩

end OpenClHash.Wrapper
