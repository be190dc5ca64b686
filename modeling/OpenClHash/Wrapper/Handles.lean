import OpenClHash.Library.Register
import OpenClHash.Wrapper.Session

/-!
Owns the two handles that `init` stores, as registers that every `_cleanup` releases and
none clears: when each created queue and context is released at most once over the life
of a `Context`, and when only created ones are released.
-/

namespace OpenClHash.Wrapper

open OpenClHash.Library.Register Relation

/-- A member of `Context` that holds an OpenCL handle. -/
inductive Field where
  | context
  | queue
deriving DecidableEq, Repr

namespace Field

def stored : Field → State → Handle
  | .context => State.clcontext
  | .queue => State.clcommandQueue

/-- What the member held before any assignment. -/
def initial (garbage : Garbage) : Field → Handle
  | .context => .raw garbage.clcontext
  | .queue => .raw garbage.clcommandQueue

/-- What an entry of the record means for the member. -/
def act : Field → Event → Option (Act Handle)
  | .context, .call .createContext _ result => some (.assign result)
  | .context, .call (.releaseContext handle) _ _ => some (.release handle)
  | .queue, .call (.createCommandQueue _) _ result => some (.assign result)
  | .queue, .call (.releaseCommandQueue handle) _ _ => some (.release handle)
  | _, .cleanup => some .teardown
  | _, _ => none

def acts (field : Field) (log : List Event) : List (Act Handle) := log.filterMap field.act

end Field

/-- A handle that a creation call returned. -/
def Handle.Created (handle : Handle) : Prop := ∃ id, handle = .object id

/-! ### Effects on a member -/

section Moves

variable {driver : Driver} {state next : State} {field : Field}

/-- What an effect does to a member. -/
inductive FieldMove (field : Field) (state next : State) : Prop where
  | kept (acts : field.acts next.log = field.acts state.log)
      (stored : field.stored next = field.stored state) (objects : state.objects ≤ next.objects)
  | assigned {status : BitVec 32} {result : Handle} {later : Nat}
      (acts : field.acts next.log = .assign result :: field.acts state.log)
      (stored : field.stored next = result) (answer : Answer state.objects status result later)
      (objects : next.objects = later)
  | tornDownNull (null : field.stored state = .null)
      (acts : field.acts next.log = .teardown :: field.acts state.log)
      (stored : field.stored next = field.stored state) (objects : state.objects = next.objects)
  | tornDown (something : field.stored state ≠ .null)
      (acts : field.acts next.log =
        .release (field.stored state) :: .teardown :: field.acts state.log)
      (stored : field.stored next = field.stored state) (objects : state.objects = next.objects)

theorem Field.acts_inert (field : Field) {call : ClCall} (inert : call.Inert) (status : BitVec 32)
    (result : Handle) (log : List Event) :
    field.acts (.call call status result :: log) = field.acts log := by
  apply List.filterMap_cons_none
  cases field <;> cases call <;> first | rfl | exact inert.elim

/-- The entry of a release, if there is one. -/
theorem Field.acts_releaseEvents (field : Field) (driver : Driver) (call : Handle → ClCall)
    (handle : Handle) (log : List Event) :
    field.acts (releaseEvents driver call handle log) =
      if handle = .null then field.acts log
      else field.acts (.call (call handle) (driver.status log.length) .null :: log) := by
  unfold releaseEvents Handle.isNull
  by_cases null : handle = .null <;> simp [null]

theorem move_handlesReleased (field : Field) (driver : Driver) (state : State) :
    FieldMove field state (state.handlesReleased driver) := by
  have cleanup : field.acts (.cleanup :: state.log) = .teardown :: field.acts state.log := by
    cases field <;> rfl
  have acts : field.acts (state.handlesReleased driver).log =
      if field.stored state = .null then .teardown :: field.acts state.log
      else .release (field.stored state) :: .teardown :: field.acts state.log := by
    rw [← cleanup]
    unfold State.handlesReleased
    cases field with
    | context =>
        have other : ∀ handle status, Field.context.act
            (.call (.releaseCommandQueue handle) status .null) = none := fun _ _ => rfl
        have queue : Field.context.acts _ = Field.context.acts (.cleanup :: state.log) :=
          filterMap_releaseEvents driver other state.clcommandQueue _
        rw [Field.acts_releaseEvents]
        by_cases null : state.clcontext = .null
        · rw [if_pos null]
          exact queue.trans (if_pos null).symm
        · rw [if_neg null]
          exact (congrArg (_ :: ·) queue).trans (if_neg null).symm
    | queue =>
        have other : ∀ handle status, Field.queue.act
            (.call (.releaseContext handle) status .null) = none := fun _ _ => rfl
        apply (filterMap_releaseEvents driver other _ _).trans
        exact Field.acts_releaseEvents .queue driver _ _ _
  by_cases null : field.stored state = .null
  · rw [if_pos null] at acts
    exact .tornDownNull null acts (by cases field <;> rfl) rfl
  · rw [if_neg null] at acts
    exact .tornDown null acts (by cases field <;> rfl) rfl

theorem Effect.move (effect : Effect driver state next) (field : Field) :
    FieldMove field state next := by
  cases effect with
  | malloc | free | device | argStack | kernelTaken =>
      cases field <;> exact .kept rfl rfl (Nat.le_refl _)
  | issued call inert =>
      cases field <;> exact .kept (Field.acts_inert _ inert _ _ _) rfl (Nat.le_refl _)
  | answered call inert answer =>
      cases field <;> exact .kept (Field.acts_inert _ inert _ _ _) rfl answer.objects_le
  | contextAssigned answer =>
      cases field with
      | context => exact .assigned rfl rfl answer rfl
      | queue => exact .kept rfl rfl answer.objects_le
  | queueFailed status nonzero =>
      cases field with
      | context => exact .kept rfl rfl (Nat.le_refl _)
      | queue => exact .assigned rfl rfl (.failed status nonzero) rfl
  | queueCreated =>
      cases field with
      | context => exact .kept rfl rfl (Nat.le_succ _)
      | queue => exact .assigned rfl rfl .created rfl
  | allocated _ _ _ _ answer => cases field <;> exact .kept rfl rfl answer.objects_le
  | kernelCreated => cases field <;> exact .kept rfl rfl (Nat.le_add_right _ 2)
  | released slot taken =>
      cases field <;>
        exact .kept (filterMap_released driver (fun _ _ => rfl) slot state) rfl (Nat.le_refl _)
  | cleaned slot taken =>
      cases field <;>
        exact .kept (filterMap_cleaned driver (fun _ _ => rfl) (fun _ _ => rfl) slot state) rfl
          (Nat.le_refl _)
  | handlesReleased => exact move_handlesReleased field driver state

end Moves

/-! ### Lives of a member -/

/-- The record of a member: a register history that ends with what the member stores, in
which each created handle is assigned once. -/
structure Recorded (garbage : Garbage) (field : Field) (state : State) : Prop where
  history : History (· = Handle.null) (field.initial garbage) (field.acts state.log)
  held : held (field.initial garbage) (field.acts state.log) = field.stored state
  known : ∀ id, .assign (.object id) ∈ field.acts state.log → id < state.objects
  once : AssignedOnce Handle.Created (field.acts state.log)

theorem recorded_constructed (garbage : Garbage) (field : Field) :
    Recorded garbage field (State.constructed garbage) where
  history := .start
  held := by cases field <;> rfl
  known := nofun
  once := trivial

section Lives

variable {driver : Driver} {state next : State} {field : Field} {garbage : Garbage}

theorem FieldMove.recorded (move : FieldMove field state next)
    (recorded : Recorded garbage field state) : Recorded garbage field next := by
  cases move with
  | kept acts stored objects =>
      refine ⟨?_, ?_, ?_, ?_⟩
      · rw [acts]
        exact recorded.history
      · rw [acts, stored]
        exact recorded.held
      · intro id assigned
        rw [acts] at assigned
        exact (recorded.known id assigned).trans_le objects
      · rw [acts]
        exact recorded.once
  | @assigned status result later acts stored answer objects =>
      refine ⟨?_, ?_, ?_, ?_⟩
      · rw [acts]
        exact .assign result recorded.history
      · rw [acts, stored, Library.Register.held]
      · intro id assigned
        rw [acts] at assigned
        rw [objects]
        rcases List.mem_cons.mp assigned with now | before
        · cases now
          cases answer with
          | created => exact Nat.lt_succ_self _
        · exact (recorded.known id before).trans_le answer.objects_le
      · rw [acts]
        refine ⟨?_, recorded.once⟩
        rintro value now ⟨id, rfl⟩ before
        cases now
        have below := recorded.known id before
        cases answer with
        | created => exact Nat.lt_irrefl _ below
  | tornDownNull null acts stored objects =>
      refine ⟨?_, ?_, ?_, ?_⟩
      · rw [acts]
        exact .teardownNull (recorded.held.trans null) recorded.history
      · rw [acts, stored]
        exact recorded.held
      · intro id assigned
        rw [acts] at assigned
        rw [← objects]
        exact recorded.known id (by simpa using assigned)
      · rw [acts]
        exact ⟨by simp, recorded.once⟩
  | tornDown something acts stored objects =>
      refine ⟨?_, ?_, ?_, ?_⟩
      · rw [acts, ← recorded.held]
        refine .teardown ?_ recorded.history
        rwa [recorded.held]
      · rw [acts, stored]
        exact recorded.held
      · intro id assigned
        rw [acts] at assigned
        rw [← objects]
        exact recorded.known id (by simpa using assigned)
      · rw [acts]
        exact ⟨by simp, by simp, recorded.once⟩

theorem recorded_of_life {ops : List Op} {ended : State}
    (lived : Session.life driver garbage ops = some ended) (field : Field) :
    Recorded garbage field ended := by
  refine Session.life_preserves ?_ (recorded_constructed garbage field) lived
  intro before after _ recorded effect
  exact (effect.move field).recorded recorded

end Lives

/-! ### Releases at most once -/

/-- Each `_cleanup` of the record that finds a created handle in a member is the first
since `init` stored that handle. -/
def TeardownsFindFresh (garbage : Garbage) (log : List Event) : Prop :=
  ∀ field : Field, TeardownsFresh (field.initial garbage) Handle.Created (field.acts log)

/-- No created queue and no created context is released twice. -/
def ReleasedAtMostOnce (log : List Event) : Prop :=
  ∀ (field : Field) (id : Nat), (field.acts log).count (.release (.object id)) ≤ 1

theorem handles_released_at_most_once_iff (driver : Driver) (garbage : Garbage) (ops : List Op)
    (ended : State) (lived : Session.life driver garbage ops = some ended) :
    ReleasedAtMostOnce ended.log ↔ TeardownsFindFresh garbage ended.log := by
  apply forall_congr'
  intro field
  have recorded := recorded_of_life lived field
  have something : ∀ handle : Handle, handle.Created → handle ≠ .null := by
    rintro handle ⟨id, rfl⟩
    exact nofun
  have untracked : ¬ (field.initial garbage).Created := by
    rintro ⟨id, same⟩
    cases field <;> cases same
  rw [← recorded.history.count_release_le_one_iff something recorded.once untracked]
  constructor
  · rintro atMostOnce handle ⟨id, rfl⟩
    exact atMostOnce id
  · intro atMostOnce id
    exact atMostOnce (.object id) ⟨id, rfl⟩

/-- `clCreateBuffer` fails; the destructor then releases the queue a second time. -/
theorem queue_released_twice :
    ¬ ∀ (driver : Driver) (garbage : Garbage) (ops : List Op) (ended : State),
      Session.life driver garbage ops = some ended → ReleasedAtMostOnce ended.log := by
  intro atMostOnce
  have ran : (Session.life (.failingAt 15) (.filled 0) [.init, .allocate 1#64 64#64]).map
      (fun ended => (Field.queue.acts ended.log).count (.release (.object 1))) = some 2 := by
    decide +kernel
  rcases Option.map_eq_some_iff.mp ran with ⟨ended, lived, twice⟩
  have once := atMostOnce _ _ _ ended lived .queue 1
  omega

/-- After the same failure a second `init` replaces both handles. -/
theorem handles_released_once_after_init :
    ∃ ended, Session.life (.failingAt 15) (.filled 0) [.init, .allocate 1#64 64#64, .init] =
      some ended ∧ ReleasedAtMostOnce ended.log := by
  have ran : (Session.life (.failingAt 15) (.filled 0) [.init, .allocate 1#64 64#64, .init]).map
      (fun ended => (Field.context.acts ended.log, Field.queue.acts ended.log)) =
      some ([.release (.object 2), .teardown, .assign (.object 2), .release (.object 0), .teardown,
          .assign (.object 0)],
        [.release (.object 3), .teardown, .assign (.object 3), .release (.object 1), .teardown,
          .assign (.object 1)]) := by
    decide +kernel
  rcases Option.map_eq_some_iff.mp ran with ⟨ended, lived, acts⟩
  rcases Prod.mk.inj acts with ⟨context, queue⟩
  refine ⟨ended, lived, (handles_released_at_most_once_iff _ _ _ ended lived).mpr ?_⟩
  intro field
  cases field with
  | context => simp [context, TeardownsFresh, Library.History.Throughout, Stale]
  | queue => simp [queue, TeardownsFresh, Library.History.Throughout, Stale]

/-! ### Releases of what was created -/

/-- Every queue or context handle that a `_cleanup` released is one that `init` got from
OpenCL before. -/
def ReleasesObtained (log : List Event) : Prop :=
  ∀ field : Field, ReleasesAssigned (field.acts log)

/-- Each member was null from the start, or every `_cleanup` came after `init` stored an
answer of OpenCL in it. -/
def TeardownsFindAnswers (garbage : Garbage) (log : List Event) : Prop :=
  ∀ field : Field, field.initial garbage = .null ∨ TeardownsAssigned (field.acts log)

theorem releases_obtained_iff (driver : Driver) (garbage : Garbage) (ops : List Op)
    (ended : State) (lived : Session.life driver garbage ops = some ended) :
    ReleasesObtained ended.log ↔ TeardownsFindAnswers garbage ended.log := by
  apply forall_congr'
  intro field
  exact (recorded_of_life lived field).history.releasesAssigned_iff

/-- The destructor of a context without `init` releases the bits it finds. -/
theorem garbage_released :
    ¬ ∀ (driver : Driver) (garbage : Garbage) (ops : List Op) (ended : State),
      Session.life driver garbage ops = some ended → ReleasesObtained ended.log := by
  intro obtained
  have ran : (Session.life (.failingAt 0) (.filled 1) []).map
      (fun ended => Field.queue.acts ended.log) = some [.release (.raw 1), .teardown] := by
    decide +kernel
  rcases Option.map_eq_some_iff.mp ran with ⟨ended, lived, acts⟩
  have assigned := obtained _ _ _ ended lived .queue
  rw [acts] at assigned
  have member := assigned.1 (.raw 1) rfl
  simp at member

/-- With `init` first the bits do not matter. -/
theorem releases_obtained_after_init :
    ∃ ended, Session.life (.failingAt 15) (.filled 1) [.init, .allocate 1#64 64#64] = some ended ∧
      ReleasesObtained ended.log := by
  have ran : (Session.life (.failingAt 15) (.filled 1) [.init, .allocate 1#64 64#64]).map
      (fun ended => (Field.context.acts ended.log, Field.queue.acts ended.log)) =
      some ([.release (.object 0), .teardown, .release (.object 0), .teardown,
          .assign (.object 0)],
        [.release (.object 1), .teardown, .release (.object 1), .teardown,
          .assign (.object 1)]) := by
    decide +kernel
  rcases Option.map_eq_some_iff.mp ran with ⟨ended, lived, acts⟩
  rcases Prod.mk.inj acts with ⟨context, queue⟩
  refine ⟨ended, lived, (releases_obtained_iff _ _ _ ended lived).mpr ?_⟩
  intro field
  right
  cases field with
  | context => simp [context, TeardownsAssigned, Library.History.Throughout]
  | queue => simp [queue, TeardownsAssigned, Library.History.Throughout]

end OpenClHash.Wrapper
