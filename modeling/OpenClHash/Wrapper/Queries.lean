import OpenClHash.Wrapper.Effects

/-!
Owns the programs that only ask: `display_opencl_info` and `init` up to the creation of
the context. A run of them records queries and may store a device record; a failed query
tears down, and a device of a type that has no name is undefined behaviour.
-/

namespace OpenClHash.Wrapper

open OpenClHash.Sizing OpenClHash.Library.Fallible Relation

inductive Quiet (state : State) : State → Prop where
  | query (call : ClCall) (query : call.IsQuery) (status : BitVec 32) :
      Quiet state (state.record (.call call status .null))
  | device (info : DeviceInfo) : Quiet state { state with device := info }

section Quiet

variable (driver : Driver) {state next : State}

theorem Quiet.effect (quiet : Quiet state next) : Effect driver state next := by
  cases quiet with
  | query call query status => exact .issued call query.inert status
  | device info => exact .device info

theorem effects_of_quiet (path : ReflTransGen Quiet state next) :
    ReflTransGen (Effect driver) state next :=
  ReflTransGen.mono (fun _ _ => Quiet.effect driver) _ _ path

theorem inBounds_of_quiet (path : ReflTransGen Quiet state next) (inBounds : state.InBounds) :
    next.InBounds := by
  induction path with
  | refl => exact inBounds
  | tail _ quiet inductionHypothesis =>
      cases quiet <;> exact ⟨inductionHypothesis.kernels, inductionHypothesis.allocations⟩

/-- A failed check after some queries, or a type that has no name. -/
def QuietRaise (before : State) (failure : Failure) (after : State) : Prop :=
  before.InBounds → failure = .typeOutOfBounds ∧ ReflTransGen Quiet before after ∨
    ∃ msg failing, failure = .runtimeError msg ∧ ReflTransGen Quiet before failing ∧
      after = failing.tornDown driver

theorem quiet_composable : Composable (ReflTransGen Quiet) (QuietRaise driver) where
  refl := fun _ => .refl
  trans := ReflTransGen.trans
  lift := by
    intro before between after failure path raise inBounds
    rcases raise (inBounds_of_quiet path inBounds) with
      ⟨unnamed, rest⟩ | ⟨msg, failing, message, rest, tornDown⟩
    · exact .inl ⟨unnamed, path.trans rest⟩
    · exact .inr ⟨msg, failing, message, path.trans rest, tornDown⟩

/-- The program only asks. -/
def OnlyAsks {α : Type} (program : Cl α) : Prop :=
  Moves (ReflTransGen Quiet) (QuietRaise driver) program

variable {driver}

theorem OnlyAsks.bind {α β : Type} {program : Cl α} {rest : α → Cl β}
    (first : OnlyAsks driver program) (second : ∀ value, OnlyAsks driver (rest value)) :
    OnlyAsks driver (program >>= rest) := Moves.bind (quiet_composable driver) first second

theorem onlyAsks_pure {α : Type} (value : α) : OnlyAsks driver (pure value) :=
  moves_pure (quiet_composable driver) value

theorem onlyAsks_get : OnlyAsks driver get := moves_get (quiet_composable driver)

theorem onlyAsks_modify {change : State → State}
    (quiet : ∀ state, ReflTransGen Quiet state (change state)) :
    OnlyAsks driver (modify change) := quiet

theorem onlyAsks_issue {call : ClCall} (query : call.IsQuery) :
    OnlyAsks driver (issue driver call) :=
  fun _ => .single (.query call query _)

theorem onlyAsks_getPlatformIDs : OnlyAsks driver (issue driver .getPlatformIDs) :=
  onlyAsks_issue trivial

theorem onlyAsks_getDeviceIDs : OnlyAsks driver (issue driver .getDeviceIDs) :=
  onlyAsks_issue trivial

theorem onlyAsks_checkError (errCode : BitVec 32) (msg : String) :
    OnlyAsks driver (checkError driver errCode msg) := by
  intro state
  by_cases failed : errCode ≠ 0#32
  · cases ran : (checkError driver errCode msg).run state with
    | ok value after =>
        rw [checkError, if_pos failed, run_bind] at ran
        cases torn : (cleanup driver).run state <;> rw [torn] at ran <;> cases ran
    | error failure after =>
        intro inBounds
        rw [run_checkError_failed driver inBounds failed] at ran
        cases ran
        exact .inr ⟨msg, state, rfl, .refl, rfl⟩
  · rw [not_not.mp failed]
    exact .refl

theorem onlyAsks_issueAll {calls : List ClCall} (queries : ∀ call ∈ calls, call.IsQuery) :
    OnlyAsks driver (issueAll driver calls) := by
  induction calls with
  | nil => exact onlyAsks_pure _
  | cons call rest inductionHypothesis =>
      apply (onlyAsks_issue (queries call List.mem_cons_self)).bind
      intro _
      refine OnlyAsks.bind ?_ fun _ => onlyAsks_pure _
      exact inductionHypothesis fun other member => queries other (List.mem_cons_of_mem _ member)

theorem onlyAsks_deviceInfo {store : DeviceInfo → State → State}
    (quiet : ∀ info state, ReflTransGen Quiet state (store info state)) :
    OnlyAsks driver (deviceInfo driver store) := by
  have queries : ∀ call ∈ deviceQueries, call.IsQuery := by
    simp [deviceQueries, ClCall.IsQuery]
  apply onlyAsks_get.bind
  intro _
  apply (onlyAsks_issueAll queries).bind
  intro _
  apply (onlyAsks_modify (quiet _)).bind
  intro _
  exact (onlyAsks_checkError _ _).bind fun _ => onlyAsks_pure _

theorem onlyAsks_platformInfo (devices : Bool) : OnlyAsks driver (platformInfo driver devices) := by
  have queries : ∀ call ∈ platformQueries, call.IsQuery := by
    simp [platformQueries, ClCall.IsQuery]
  apply (onlyAsks_issueAll queries).bind
  intro _
  apply (onlyAsks_checkError _ _).bind
  intro _
  cases devices with
  | false => exact onlyAsks_pure _
  | true =>
      apply onlyAsks_get.bind
      intro _
      apply onlyAsks_getDeviceIDs.bind
      intro _
      apply (onlyAsks_checkError _ _).bind
      intro _
      apply onlyAsks_getDeviceIDs.bind
      intro _
      apply (onlyAsks_checkError _ _).bind
      intro _
      exact moves_mapM (quiet_composable driver) fun _ _ => onlyAsks_deviceInfo fun _ _ => .refl

theorem onlyAsks_printDevice (device : DeviceInfo) : OnlyAsks driver (printDevice device) := by
  unfold printDevice
  split
  · exact onlyAsks_pure ()
  · exact fun _ _ => .inl ⟨rfl, .refl⟩

theorem onlyAsks_displayOpenclInfo : OnlyAsks driver (displayOpenclInfo driver) := by
  apply onlyAsks_get.bind
  intro _
  apply onlyAsks_getPlatformIDs.bind
  intro _
  apply (onlyAsks_checkError _ _).bind
  intro _
  apply onlyAsks_getPlatformIDs.bind
  intro _
  apply (onlyAsks_checkError _ _).bind
  intro _
  refine moves_forM (quiet_composable driver) fun _ _ => ?_
  apply (onlyAsks_platformInfo true).bind
  intro _
  exact moves_forM (quiet_composable driver) fun device _ => onlyAsks_printDevice device

theorem onlyAsks_selectDevice : OnlyAsks driver (selectDevice driver) := by
  apply onlyAsks_getPlatformIDs.bind
  intro _
  apply (onlyAsks_checkError _ _).bind
  intro _
  apply (onlyAsks_platformInfo false).bind
  intro _
  apply onlyAsks_getDeviceIDs.bind
  intro _
  apply (onlyAsks_checkError _ _).bind
  intro _
  exact (onlyAsks_deviceInfo fun info _ => .single (.device info)).bind onlyAsks_printDevice

/-- How a program that only asks ends in a context with its counts in bounds. -/
theorem OnlyAsks.cases {α : Type} {program : Cl α} (asks : OnlyAsks driver program)
    (inBounds : state.InBounds) :
    (∃ value after, program.run state = .ok value after ∧ ReflTransGen Quiet state after) ∨
      (∃ msg failing, program.run state = .error (.runtimeError msg) (failing.tornDown driver) ∧
        ReflTransGen Quiet state failing) ∨
      ∃ after, program.run state = .error .typeOutOfBounds after ∧
        ReflTransGen Quiet state after := by
  have moves := asks state
  cases ran : program.run state with
  | ok value after =>
      rw [ran] at moves
      exact .inl ⟨value, after, rfl, moves⟩
  | error failure after =>
      rw [ran] at moves
      rcases moves inBounds with ⟨rfl, path⟩ | ⟨msg, failing, rfl, path, rfl⟩
      · exact .inr (.inr ⟨after, rfl, path⟩)
      · exact .inr (.inl ⟨msg, failing, rfl, path⟩)

end Quiet

end OpenClHash.Wrapper
