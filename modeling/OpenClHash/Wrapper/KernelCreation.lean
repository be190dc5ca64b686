import OpenClHash.Wrapper.Resources

/-!
Owns what `create_kernel` leaves behind. A program that it created and did not store is an
orphan: no later operation names it and the destructor does not release it. A source
buffer that it did not free before it raised is lost with the pointer to it.
-/

namespace OpenClHash.Wrapper

open OpenClHash.Library.Lifetime OpenClHash.Library.Fallible OpenClHash.Sizing Relation

/-! ### Orphans -/

/-- An object that OpenCL has created, that no member stores and that was never released. -/
structure Orphan (id : Nat) (state : State) : Prop where
  created : id < state.objects
  unstored : ¬ state.Stores (.object id)
  unreleased : ∀ kind, ¬ Released lifetimes state.log ⟨kind, .object id⟩

section Effects

variable {driver : Driver} {state next : State} {id : Nat}

theorem Effect.orphan (effect : Effect driver state next) (orphan : Orphan id state) :
    Orphan id next where
  created := orphan.created.trans_le effect.objects_le
  unstored := by
    intro stores
    rcases effect.stores_new stores with before | null | ⟨new, same, unused, _⟩
    · exact orphan.unstored before
    · cases null
    · cases same
      exact Nat.not_lt.mpr unused orphan.created
  unreleased := by
    intro kind released
    rcases effect.releases_stored released with before | stores
    · exact orphan.unreleased kind before
    · exact orphan.unstored stores

theorem orphan_of_effects (path : ReflTransGen (Effect driver) state next) (sound : Sound state)
    (orphan : Orphan id state) : Orphan id next :=
  preserved_of_effects (fun _ _ _ orphan effect => effect.orphan orphan) path sound orphan

/-- A program that was just created is one. -/
theorem orphan_programCreated (bounded : Bounded state) (source : List (BitVec 8)) :
    Orphan state.objects (state.programCreated source) where
  created := Nat.lt_succ_self _
  unstored := by
    intro stores
    have before : state.Stores (.object state.objects) := by
      generalize named : Handle.object state.objects = handle at stores ⊢
      cases stores with
      | context => exact .context
      | queue => exact .queue
      | buffer slot => exact .buffer slot
      | kernel slot => exact .kernel slot
      | program slot => exact .program slot
    exact Nat.lt_irrefl _ (bounded.stored _ before _ rfl)
  unreleased := by
    intro kind released
    exact bounded.fresh (Nat.le_refl _) (released.older rfl)

/-! ### Teardowns create nothing -/

/-- What an entry of the record does to the number of host buffers. -/
def Event.hostBuffers : Event → Option Int
  | .malloc => some 1
  | .free => some (-1)
  | _ => none

/-- The number of host buffers that are allocated. -/
def hostBuffers (log : List Event) : Int := (log.filterMap Event.hostBuffers).foldr (· + ·) 0

theorem hostBuffers_tornDown (driver : Driver) (state : State) :
    hostBuffers (state.tornDown driver).log = hostBuffers state.log := by
  rw [hostBuffers, filterMap_tornDown rfl (fun _ _ _ => rfl), hostBuffers]

theorem created_tornDown {resource : Resource}
    (created : Created lifetimes (state.tornDown driver).log resource) :
    Created lifetimes state.log resource := by
  refine created_of_filterMap (filterMap_tornDown rfl ?_ driver state) created
  intro call status releases
  exact call.creates_null

end Effects

/-! ### All or nothing -/

/-- The fields of a kernel come from successful calls that an operation added to the record. -/
structure FilledBy (driver : Driver) (kernel : Kernel) (added older : List Event) : Prop where
  programId : ∃ context source,
    .call (.createProgramWithSource context source) 0#32 kernel.programId ∈ added
  built : ∃ options, .call (.buildProgram kernel.programId options) 0#32 .null ∈ added
  kernelId : ∃ name, .call (.createKernel kernel.programId name) 0#32 kernel.kernelId ∈ added
  maxWorkGroupSize : ∃ newer before,
    added = newer ++ .call (.getKernelWorkGroupInfo kernel.kernelId) 0#32 .null :: before ∧
      kernel.maxWorkGroupSize = driver.kernelWorkGroupSize (before ++ older).length
  argStackSize : kernel.argStackSize = 0
  initialized : kernel.initialized = true

/-- What an operation that raised obtained is released in the end: the objects that it added
to the record, and the host buffers, whose pointers it alone had. -/
structure ObtainedReleased (before after ended : List Event) : Prop where
  objects : ∀ resource, Created lifetimes after resource → ¬ Created lifetimes before resource →
    Released lifetimes ended resource
  buffers : hostBuffers after = hostBuffers before

/-- What is promised of `create_kernel` in a life that ends with the record `ended`. -/
def AllOrNothing (driver : Driver) (before : State) (ended : List Event) :
    EStateM.Result Failure State (Fin 32) → Prop
  | .ok slot after => ∃ added, after.log = added ++ before.log ∧
      FilledBy driver (after.kernels slot) added before.log
  | .error (.runtimeError _) after => ObtainedReleased before.log after.log ended
  | .error _ _ => False

/-- If `create_kernel` gets to OpenCL with a source, none of the four calls fails. -/
def StepsSucceed (driver : Driver) (filePath : String) (state : State) : Prop :=
  ∀ (slot : Fin 32) (source : List (BitVec 8)), state.initialized = true →
    slot.val = state.kernelCount →
    loadedSource driver filePath (state.kernelSlotTaken slot) = some source →
    driver.status (state.log.length + 2) = 0#32 ∧ driver.status (state.log.length + 4) = 0#32 ∧
      driver.status (state.log.length + 5) = 0#32 ∧ driver.status (state.log.length + 6) = 0#32

section Ends

variable {driver : Driver} {state : State} {slot : Fin 32} {filePath : String}
  {options : Option String} {name : String} {ended : List Event}

theorem obtainedReleased_refl (state : State) :
    ObtainedReleased state.log (state.tornDown driver).log ended where
  objects := fun _ created new => absurd (created_tornDown created) new
  buffers := hostBuffers_tornDown driver state

/-- A slot without a source leaves nothing. -/
theorem obtainedReleased_unread {failing : State}
    (balanced : failing = state.kernelSlotTaken slot ∨
      failing = ((state.kernelSlotTaken slot).record .malloc).record .free) :
    ObtainedReleased state.log (failing.tornDown driver).log ended := by
  rcases balanced with rfl | rfl
  · constructor
    · intro resource created new
      exact absurd ((created_tornDown created).older rfl) new
    · rw [hostBuffers_tornDown]
      rfl
  · constructor
    · intro resource created new
      exact absurd ((((created_tornDown created).older rfl).older rfl).older rfl) new
    · rw [hostBuffers_tornDown]
      show (-1 : Int) + (1 + hostBuffers state.log) = _
      omega

/-- Without a program the source buffer is lost. -/
theorem not_obtainedReleased_programFailed {source : List (BitVec 8)} {status : BitVec 32}
    {objects : Nat} :
    ¬ ObtainedReleased state.log ((((state.kernelSlotTaken slot).record .malloc).answered
      (.createProgramWithSource state.clcontext source) status .null objects).tornDown driver).log
      ended := by
  intro released
  have balanced := released.buffers
  rw [hostBuffers_tornDown] at balanced
  have added : (1 : Int) + hostBuffers state.log = hostBuffers state.log := balanced
  omega

/-- What filling the slot adds to the record. -/
theorem kernelFilled_log {source : List (BitVec 8)} {status : BitVec 32} {size : BitVec 64} :
    ((state.kernelSlotTaken slot).kernelFilled slot source options name status size).log =
      (kernelEvents slot state.clcontext state.objects (state.objects + 1) source options name
        status ++ [.kernelTaken slot]) ++ state.log := by
  rw [List.append_assoc]
  rfl

theorem kernelFilled_kernel {source : List (BitVec 8)} {status : BitVec 32} {size : BitVec 64} :
    ((state.kernelSlotTaken slot).kernelFilled slot source options name status size).kernels slot =
      { kernelId := .object (state.objects + 1), programId := .object state.objects,
        maxWorkGroupSize := size, argStackSize := 0, initialized := true } :=
  Function.update_self ..

/-- A filled slot has its fields from successful calls exactly if the last one succeeded, whose
status nothing looks at. -/
theorem filledBy_iff {source : List (BitVec 8)} {status : BitVec 32} :
    AllOrNothing driver state ended (.ok slot ((state.kernelSlotTaken slot).kernelFilled slot source
        options name status (driver.kernelWorkGroupSize (state.log.length + 6)))) ↔
      status = 0#32 := by
  unfold AllOrNothing
  simp only [kernelFilled_log, kernelFilled_kernel, List.append_cancel_right_eq]
  constructor
  · intro promised
    rcases promised with ⟨added, same, filled⟩
    rcases filled.maxWorkGroupSize with ⟨newer, before, split, _⟩
    have member : Event.call (.getKernelWorkGroupInfo (.object (state.objects + 1))) 0#32 .null ∈
        added := by
      rw [split]
      exact List.mem_append_right _ List.mem_cons_self
    rw [← same] at member
    simp [kernelEvents] at member
    exact member.symm
  · intro success
    refine ⟨_, rfl, ?_⟩
    rw [success]
    exact {
      programId := ⟨state.clcontext, source, by simp [kernelEvents]⟩
      built := ⟨options, by simp [kernelEvents]⟩
      kernelId := ⟨name, by simp [kernelEvents]⟩
      maxWorkGroupSize := by
        refine ⟨[.kernelInit slot (.object (state.objects + 1)) (.object state.objects)], _, rfl,
          ?_⟩
        have earlier : state.log.length + 6 = 6 + state.log.length := Nat.add_comm ..
        rw [earlier, List.length_append]
        rfl
      argStackSize := rfl
      initialized := rfl }

/-- A program that was created and not stored is an orphan of the failed check. -/
theorem orphan_of_programLeft (sound : Sound state) (bounded : Bounded state)
    (next : slot.val = state.kernelCount) {source : List (BitVec 8)} {failing : State}
    (path : ReflTransGen (Effect driver)
      (((state.kernelSlotTaken slot).record .malloc).programCreated source) failing) :
    Orphan state.objects (failing.tornDown driver) ∧
      Created lifetimes (failing.tornDown driver).log ⟨.program, .object state.objects⟩ := by
  let loaded := (state.kernelSlotTaken slot).record .malloc
  have taken : Effect driver state (state.kernelSlotTaken slot) := .kernelTaken slot next
  have allocated : Effect driver (state.kernelSlotTaken slot) loaded := .malloc
  have loadedSound := allocated.sound (taken.sound sound)
  have createdSound := (effect_programCreated driver source loaded).sound loadedSound
  have teardown := tornDown_effects driver (sound_of_effects path createdSound)
  have orphan : Orphan state.objects (loaded.programCreated source) :=
    orphan_programCreated (allocated.bounded (taken.bounded bounded)) source
  constructor
  · exact orphan_of_effects (path.trans teardown) createdSound orphan
  · have created : Created lifetimes (loaded.programCreated source).log
        ⟨.program, .object state.objects⟩ := created_cons.mpr (.inl rfl)
    rcases created with ⟨event, member, creates⟩
    exact ⟨event, (extends_of_effects (path.trans teardown)).log.subset member, creates⟩

end Ends

/-! ### Whole lives -/

section Lives

variable {driver : Driver} {garbage : Garbage} {ops rest : List Op} {session : Session}
  {filePath : String} {cmpOpt : Option String} {mainF : String} {ended : State}

/-- What a life makes of the state in which `create_kernel` raised. -/
theorem orphan_ended {msg : String} {after : State} {id : Nat}
    (ran : (Session.start garbage).run driver ops = some session)
    (lived : Session.life driver garbage (ops ++ .createKernel filePath cmpOpt mainF :: rest) =
      some ended)
    (raised : (createKernel driver filePath cmpOpt mainF).run session.context =
      .error (.runtimeError msg) after) (orphan : Orphan id after) : Orphan id ended := by
  obtain ⟨last, lastRan, lastValid, rfl⟩ := Session.life_cases lived
  rw [Session.run_append, ran] at lastRan
  obtain ⟨next, stepped, restRan⟩ := Session.run_cases lastRan
  have nextValid := Session.step_valid (Session.run_valid (Session.valid_start garbage) ran) stepped
  have nextContext : next.context = after := by
    have performed : (Op.perform driver (.createKernel filePath cmpOpt mainF)).run session.context =
        .error (.runtimeError msg) after := by
      show ((.kernel <$> createKernel driver filePath cmpOpt mainF : Cl Returned)).run _ = _
      rw [run_map, raised]
    rcases Session.step_cases stepped with
      ⟨_, ⟨value, context, returned, _⟩ | ⟨other, context, thrown, rfl⟩⟩
    · rw [performed] at returned
      cases returned
    · rw [performed] at thrown
      cases thrown
      rfl
  rw [← nextContext] at orphan
  have kept := Session.run_preserves (fun _ _ _ orphan effect => Effect.orphan effect orphan)
    nextValid orphan restRan
  exact orphan_of_effects (tornDown_effects driver lastValid.context) lastValid.context kept

/-- In every life, a call of `create_kernel` is all or nothing exactly if none of its calls of
OpenCL fails once it has the source. -/
theorem createKernel_allOrNothing_iff
    (ran : (Session.start garbage).run driver ops = some session)
    (lived : Session.life driver garbage (ops ++ .createKernel filePath cmpOpt mainF :: rest) =
      some ended) :
    AllOrNothing driver session.context ended.log
        ((createKernel driver filePath cmpOpt mainF).run session.context) ↔
      StepsSucceed driver filePath session.context := by
  have sound := (Session.run_valid (Session.valid_start garbage) ran).context
  have bounded := bounded_of_run ran
  rcases createKernel_ends driver sound filePath cmpOpt mainF with
    ⟨refused, ⟨msg, raised⟩, _⟩ | ⟨⟨initialized, room⟩, slot, next, ends⟩
  · rw [raised]
    apply iff_of_true (obtainedReleased_refl session.context)
    intro slot source initialized next
    exact absurd ⟨initialized, next ▸ slot.isLt⟩ refused
  · generalize performed : (createKernel driver filePath cmpOpt mainF).run session.context = result
      at ends
    cases ends with
    | unread missing failing balanced =>
        apply iff_of_true (obtainedReleased_unread balanced)
        intro other source _ otherNext loaded
        obtain rfl : other = slot := Fin.ext (otherNext.trans next.symm)
        rw [missing] at loaded
        cases loaded
    | programFailed source loaded failed =>
        apply iff_of_false not_obtainedReleased_programFailed
        intro succeeds
        exact failed (succeeds slot source initialized next loaded).1
    | programLeft source loaded created failed msg failing path =>
        obtain ⟨orphan, left⟩ := orphan_of_programLeft sound bounded next path
        apply iff_of_false
        · intro released
          apply (orphan_ended ran lived performed orphan).unreleased .program
          apply released.objects _ left
          intro before
          obtain ⟨id, below, same⟩ := bounded.created _ before
          cases same
          exact Nat.lt_irrefl _ below
        · intro succeeds
          obtain ⟨_, built, kernel, _⟩ := succeeds slot source initialized next loaded
          exact failed.elim (fun unbuilt => unbuilt built) fun noKernel => noKernel kernel
    | filled source loaded program built kernel =>
        have later : (session.context.kernelSlotTaken slot).log.length + 5 =
            session.context.log.length + 6 := rfl
        rw [later, filledBy_iff]
        constructor
        · intro asked other otherSource _ otherNext otherLoaded
          exact ⟨program, built, kernel, asked⟩
        · intro succeeds
          exact (succeeds slot source initialized next loaded).2.2.2

end Lives

/-- The build fails, and the program of the third object is created and never released. -/
theorem program_leaked :
    ¬ ∀ (driver : Driver) (garbage : Garbage) (ops rest : List Op) (session : Session)
      (filePath : String) (cmpOpt : Option String) (mainF : String) (ended : State),
      (Session.start garbage).run driver ops = some session →
      Session.life driver garbage (ops ++ .createKernel filePath cmpOpt mainF :: rest) =
        some ended →
      AllOrNothing driver session.context ended.log
        ((createKernel driver filePath cmpOpt mainF).run session.context) := by
  intro always
  have evaluated : ((Session.start (.filled 0)).run (.failingAt 18) [.init]).map (fun session =>
      match (createKernel (.failingAt 18) "main.cl" none "main").run session.context with
      | .ok _ _ => none
      | .error _ after => some (after.log.filterMap Event.creates,
          session.context.log.filterMap Event.creates)) =
      some (some ([⟨.program, .object 2⟩, ⟨.queue, .object 1⟩, ⟨.context, .object 0⟩],
        [⟨.queue, .object 1⟩, ⟨.context, .object 0⟩])) := by
    decide +kernel
  have destroyed : (Session.life (.failingAt 18) (.filled 0)
      [.init, .createKernel "main.cl" none "main"]).map (fun ended =>
        ended.log.filterMap Event.releases) =
      some [⟨.context, .object 0⟩, ⟨.queue, .object 1⟩, ⟨.context, .object 0⟩,
        ⟨.queue, .object 1⟩] := by
    decide +kernel
  obtain ⟨session, ran, created⟩ := Option.map_eq_some_iff.mp evaluated
  obtain ⟨ended, lived, releases⟩ := Option.map_eq_some_iff.mp destroyed
  have whole := always _ _ [.init] [] session "main.cl" none "main" ended ran lived
  generalize (createKernel (.failingAt 18) "main.cl" none "main").run session.context = result
    at whole created
  cases result with
  | ok slot after => cases created
  | error failure after =>
      cases failure with
      | runtimeError msg =>
          simp only [Option.some.injEq, Prod.mk.injEq] at created
          rcases created with ⟨later, earlier⟩
          have released : Released lifetimes ended.log ⟨.program, .object 2⟩ := by
            apply whole.objects
            · apply List.mem_filterMap.mp
              show _ ∈ after.log.filterMap Event.creates
              simp [later]
            · intro before
              have member : _ ∈ session.context.log.filterMap Event.creates :=
                List.mem_filterMap.mpr before
              simp [earlier] at member
          have member : _ ∈ ended.log.filterMap Event.releases := List.mem_filterMap.mpr released
          simp [releases] at member
      | outOfBounds | slotOutOfBounds | typeOutOfBounds | divisionByZero | signedOverflow
      | undefinedShift =>
          exact whole

/-- A kernel all of whose calls succeed. -/
theorem createKernel_allOrNothing_succeeding :
    ∃ (session : Session) (ended : State),
      AllOrNothing (.succeeding (Garbage.filled 0).device) session.context ended.log
        ((createKernel (.succeeding (Garbage.filled 0).device) "main.cl" none "main").run
          session.context) := by
  have reaches : ((Session.start (.filled 0)).run (.succeeding (Garbage.filled 0).device)
      [.init]).isSome = true := by
    decide +kernel
  have lives : (Session.life (.succeeding (Garbage.filled 0).device) (.filled 0)
      [.init, .createKernel "main.cl" none "main"]).isSome = true := by
    decide +kernel
  obtain ⟨session, ran⟩ := Option.isSome_iff_exists.mp reaches
  obtain ⟨ended, lived⟩ := Option.isSome_iff_exists.mp lives
  have whole : Session.life (.succeeding (Garbage.filled 0).device) (.filled 0)
      ([.init] ++ .createKernel "main.cl" none "main" :: []) = some ended := lived
  refine ⟨session, ended, (createKernel_allOrNothing_iff ran whole).mpr ?_⟩
  intro slot source _ _ _
  exact ⟨rfl, rfl, rfl, rfl⟩

end OpenClHash.Wrapper
