import OpenClHash.System.Search
import OpenClHash.Wrapper.Errors
import OpenClHash.Wrapper.Ownership

/-!
Owns what `main` leaves of the OpenCL objects it made. Its calls release nothing while they
return, and `exit` skips the destructor, so a search that ends leaves all of them, besides an
event for every transfer and launch; a failed check releases what is in the slots of the context
before its exception ends the program. A search ends only if no call failed whose status is
looked at.
-/

namespace OpenClHash.System

open OpenClHash.Host OpenClHash.Sizing OpenClHash.Wrapper OpenClHash.Library.Fallible
open OpenClHash.Library.Lifetime OpenClHash.Library.Reporting Relation

/-- The context after `objects` objects and `tokens` events were created and none was released. -/
structure Held (objects tokens : Nat) (state : Wrapper.State) : Prop where
  sound : Sound state
  owned : Owned state
  objects : state.objects = objects
  tokens : finishTokens state.log = tokens
  unreleased : ∀ event ∈ state.log, event.releases = none

/-- The record grew by entries that create `objects` objects and `tokens` events and release
nothing. -/
def Makes (objects tokens : Nat) (state next : Wrapper.State) : Prop :=
  next.objects = state.objects + objects ∧ ∃ newer, next.log = newer ++ state.log ∧
    finishTokens newer = tokens ∧ ∀ event ∈ newer, event.releases = none

/-- How a part of `main` raises: something undefined, or the exception of a failed check after
its teardown. -/
def TornDown (driver : Driver) (failure : Failure) (after : Wrapper.State) : Prop :=
  ∀ msg, failure = .runtimeError msg →
    ∃ failing, Sound failing ∧ Owned failing ∧ after = failing.tornDown driver

section Calls

variable {driver : Driver} {objects tokens : Nat} {state next : Wrapper.State}

theorem held_constructed (garbage : Garbage) : Held 0 0 (State.constructed garbage) where
  sound := sound_constructed garbage
  owned := owned_constructed garbage
  objects := rfl
  tokens := rfl
  unreleased := nofun

theorem owned_of_effects (path : ReflTransGen (Effect driver) state next)
    (held : Held objects tokens state) : Owned next :=
  preserved_of_effects (fun _ _ sound owned effect => effect.owned sound owned) path held.sound
    held.owned

/-- A program that only has effects keeps the context if its own events release nothing. -/
theorem ensures_held {α : Type} {program : Cl α} (made finished : Nat)
    (held : Held objects tokens state) (outcome : Wrapper.Outcome driver state (program.run state))
    (returned : ∀ value next, program.run state = .ok value next →
      Makes made finished state next) :
    Ensures (fun _ next => Held (objects + made) (tokens + finished) next) (TornDown driver) program
      state := by
  cases ran : program.run state with
  | ok value next =>
      obtain ⟨created, newer, grown, finishes, inert⟩ := returned value next ran
      rw [ran] at outcome
      cases outcome with
      | returned _ _ path =>
          apply ensures_of_ok ran
          refine ⟨sound_of_effects path held.sound, owned_of_effects path held, ?_, ?_, ?_⟩
          · rw [created, held.objects]
          · rw [grown, finishTokens, List.countP_append, ← finishTokens, ← finishTokens, finishes,
              held.tokens, Nat.add_comm]
          · rw [grown]
            exact List.forall_mem_append.mpr ⟨inert, held.unreleased⟩
  | error failure next =>
      rw [ran] at outcome
      apply ensures_of_error ran
      intro msg same
      cases outcome with
      | raised _ failing path =>
          exact ⟨failing, sound_of_effects path held.sound, owned_of_effects path held, rfl⟩
      | undefined _ _ noException => exact absurd same (noException msg)

theorem quiet_makes (path : ReflTransGen Quiet state next) : Makes 0 0 state next := by
  induction path with
  | refl => exact ⟨rfl, [], rfl, rfl, nofun⟩
  | tail _ quiet inductionHypothesis =>
      obtain ⟨same, newer, grown, finishes, inert⟩ := inductionHypothesis
      cases quiet with
      | query call query status =>
          refine ⟨same, .call call status .null :: newer, congrArg _ grown, ?_, ?_⟩
          · rw [finishTokens, List.countP_cons_of_neg, ← finishTokens, finishes]
            cases call <;> first | exact query.elim | exact Bool.false_ne_true
          · exact List.forall_mem_cons.mpr ⟨query.inert.releases, inert⟩
      | device info => exact ⟨same, newer, grown, finishes, inert⟩

theorem held_init (held : Held objects tokens state) :
    Ensures (fun _ next => Held (objects + 2) tokens next) (TornDown driver) (init driver)
      state := by
  apply ensures_held 2 0 held (outcome_init held.sound)
  intro value next ran
  unfold init at ran
  rcases onlyAsks_selectDevice.cases held.sound.toInBounds with
    ⟨_, asked, selected, path⟩ | ⟨_, _, raised, _⟩ | ⟨_, raised, _⟩
  · obtain ⟨same, newer, grown, finishes, inert⟩ := quiet_makes path
    rw [run_bind_ok selected] at ran
    rcases createHandles_cases driver
        (sound_of_effects (effects_of_quiet driver path) held.sound).toInBounds with
      ⟨_, _, _, raised⟩ | ⟨_, _, _, raised⟩ | created
    · cases raised.symm.trans ran
    · cases raised.symm.trans ran
    · cases created.symm.trans ran
      refine ⟨congrArg (· + 2) same, .call (.createCommandQueue _) _ _ ::
        .call .createContext _ _ :: newer, congrArg (fun log => _ :: _ :: log) grown, finishes, ?_⟩
      exact List.forall_mem_cons.mpr ⟨rfl, List.forall_mem_cons.mpr ⟨rfl, inert⟩⟩
  · cases (run_bind_error raised).symm.trans ran
  · cases (run_bind_error raised).symm.trans ran

theorem held_allocate (held : Held objects tokens state) (flags size : BitVec 64) :
    Ensures (fun _ next => Held (objects + 1) tokens next) (TornDown driver)
      (allocate driver flags size) state := by
  apply ensures_held 1 0 held (outcome_allocate held.sound flags size)
  intro slot next ran
  obtain ⟨_, _, rfl⟩ := allocate_returned driver held.sound.toInBounds ran
  exact ⟨rfl, [_, _], rfl, rfl, by simp [Event.releases, ClCall.releases]⟩

/-- A command that OpenCL accepted created its event. -/
theorem makes_issued {call : ClCall} (success : driver.status state.log.length = 0#32)
    (finishes : call.finishes = true) (inert : call.releases = none) :
    Makes 0 1 state (state.issued driver call) := by
  refine ⟨rfl, [_], rfl, ?_, List.forall_mem_singleton.mpr inert⟩
  rw [finishTokens, List.countP_singleton, if_pos]
  simp [Event.finishes, success, finishes]

theorem transfer_makes (held : Held objects tokens state) {slot : Fin 32} {size : BitVec 64}
    {tooMuch failed : String} {command : Handle → Handle → ClCall} {value : Unit}
    (finishes : ∀ queue buffer, (command queue buffer).finishes = true)
    (inert : ∀ queue buffer, (command queue buffer).releases = none)
    (ran : (transfer driver slot size tooMuch failed command).run state = .ok value next) :
    Makes 0 1 state next := by
  obtain ⟨success, _, rfl⟩ := transfer_returned _ held.sound.toInBounds ran
  exact makes_issued success (finishes _ _) (inert _ _)

theorem held_writeBuffer (held : Held objects tokens state) (slot : Fin 32)
    (offset size : BitVec 64) (source : List (BitVec 8)) (blocking : Bool) :
    Ensures (fun _ next => Held objects (tokens + 1) next) (TornDown driver)
      (writeBuffer driver slot offset size source blocking) state :=
  ensures_held 0 1 held (outcome_writeBuffer held.sound slot offset size source blocking)
    fun _ _ ran => transfer_makes held (fun _ _ => rfl) (fun _ _ => rfl) ran

theorem held_readBack (held : Held objects tokens state) (platform : Platform) (slot : Fin 32) :
    Ensures (fun _ next => Held objects (tokens + 1) next) (TornDown driver)
      (readBack driver platform slot) state := by
  have read : Ensures (fun _ next => Held objects (tokens + 1) next) (TornDown driver)
      (readWhole driver slot true) state := by
    have outcome : Outcome driver state _ :=
      outcome_readBuffer held.sound slot 0#64 (state.allocations slot).size true
    rw [← run_readWhole] at outcome
    apply ensures_held 0 1 held outcome
    intro value next ran
    rw [run_readWhole] at ran
    exact transfer_makes held (fun _ _ => rfl) (fun _ _ => rfl) ran
  unfold readBack
  exact read.bind fun _ _ kept => ensures_get_bind (ensures_pure kept)

theorem held_createKernel (held : Held objects tokens state) (filePath : String)
    (cmpOpt : Option String) (mainF : String) :
    Ensures (fun _ next => Held (objects + 2) tokens next) (TornDown driver)
      (createKernel driver filePath cmpOpt mainF) state := by
  apply ensures_held 2 0 held (outcome_createKernel held.sound filePath cmpOpt mainF)
  intro slot next ran
  obtain ⟨_, source, status, size, rfl⟩ := createKernel_returned driver held.sound ran
  refine ⟨rfl, kernelEvents slot state.clcontext state.objects (state.objects + 1) source cmpOpt
    mainF status ++ [.kernelTaken slot], rfl, rfl, ?_⟩
  simp [kernelEvents, Event.releases, ClCall.releases]

theorem held_pushArg (held : Held objects tokens state) (slot : Fin 32) (argSize : BitVec 64)
    (argValue : ArgValue) :
    Ensures (fun _ next => Held objects tokens next) (TornDown driver)
      (Wrapper.pushArg driver slot argSize argValue) state := by
  apply ensures_held 0 0 held (outcome_pushArg held.sound slot argSize argValue)
  intro value next ran
  rw [run_pushArg driver held.sound.toInBounds] at ran
  dsimp only at ran
  split at ran
  · cases ran
    exact ⟨rfl, [_], rfl, rfl, List.forall_mem_singleton.mpr rfl⟩
  · cases ran

theorem held_execute (held : Held objects tokens state) (slot : Fin 32) (workDim : BitVec 32)
    (globalWorkSize : List (BitVec 64)) (localWorkSize : Option (List (BitVec 64))) :
    Ensures (fun _ next => Held objects (tokens + 1) next) (TornDown driver)
      (execute driver slot workDim globalWorkSize localWorkSize) state := by
  apply ensures_held 0 1 held
    (outcome_execute held.sound slot workDim globalWorkSize localWorkSize)
  intro value next ran
  obtain ⟨success, rfl⟩ := execute_returned driver held.sound.toInBounds ran
  let call : ClCall := .enqueueNDRangeKernel state.clcommandQueue (state.kernels slot).kernelId
    workDim globalWorkSize localWorkSize
  have issued : Makes 0 1 (state.stackReset slot) ((state.stackReset slot).issued driver call) :=
    makes_issued success rfl rfl
  exact issued

end Calls

/-! ### The whole program -/

/-- The events of a search: two for the buffers, two for each launch with the read behind it, and
one for the word if there is one. -/
def Report.finishTokens (report : Report) : Nat :=
  2 + 2 * report.launches + if report.found.isSome then 1 else 0

section Program

variable {driver : Driver} {platform : Platform} {split : Split} {targetHash : BitVec 64}
  {pointers : Pointers} {objects tokens : Nat} {state : Wrapper.State}

theorem held_push {op : Op} (isPush : Op.IsPush pointers op) (held : Held objects tokens state) :
    Ensures (fun _ next => Held objects tokens next) (TornDown driver) (op.perform driver)
      state := by
  cases op with
  | pushArg target argSize value =>
      apply Ensures.map
      exact held_pushArg held target argSize (.bytes value)
  | pushBuffer target buffer =>
      apply Ensures.map
      exact ensures_get_bind (held_pushArg held ..)
  | _ => exact isPush.elim

theorem held_pushes {ops : List Op} (arePushes : ∀ op ∈ ops, Op.IsPush pointers op)
    (held : Held objects tokens state) :
    Ensures (fun _ next => Held objects tokens next) (TornDown driver)
      (ops.forM fun op => do let _ ← op.perform driver) state := by
  refine ensures_forM_keeps (fun op member between kept => ?_) held
  exact (held_push (arePushes op member) kept).bind fun _ _ kept => ensures_pure kept

/-- A loop that ends has created two events with each launch. -/
theorem held_searchLoop (remaining i : Nat) (held : Held objects (2 + 2 * i) state) :
    Ensures
      (fun report next => ∃ tokens, Held objects tokens next ∧
        ∀ ended, report = some ended → tokens = ended.finishTokens)
      (TornDown driver) (searchLoop driver platform split targetHash pointers remaining i)
      state := by
  induction remaining generalizing i state with
  | zero =>
      refine ensures_pure ⟨_, held, ?_⟩
      intro ended same
      cases same
      rfl
  | succ remaining inductionHypothesis =>
      have launch : Ensures (fun _ next => Held objects (2 + 2 * i + 1) next) (TornDown driver)
          (launchIteration driver split targetHash pointers i) state :=
        (held_pushes (isPush_pushes i) held).bind fun _ _ kept => held_execute kept ..
      refine launch.bind fun _ _ kept => (held_readBack kept ..).bind ?_
      rintro (_ | cpuFlag) _ kept
      · exact ensures_pure ⟨_, kept, nofun⟩
      dsimp only
      split
      · refine (held_readBack kept ..).bind ?_
        rintro (_ | cpuBuf) _ kept
        · exact ensures_pure ⟨_, kept, nofun⟩
        · refine ensures_pure ⟨_, kept, ?_⟩
          intro ended same
          cases same
          show 2 + 2 * i + 1 + 1 + 1 = 2 + 2 * (i + 1) + 1
          ring
      · have next : 2 + 2 * i + 1 + 1 = 2 + 2 * (i + 1) := by ring
        exact inductionHypothesis (i + 1) (next ▸ kept)

theorem held_program (garbage : Garbage) :
    Ensures
      (fun report next => ∃ tokens, Held 6 tokens next ∧
        ∀ ended, report = some ended → tokens = ended.finishTokens)
      (TornDown driver) (program driver platform split targetHash)
      (State.constructed garbage) := by
  have prepared : Ensures (fun _ next => Held 6 2 next) (TornDown driver) (prepare driver split)
      (State.constructed garbage) := by
    refine (held_init (held_constructed garbage)).bind fun _ _ kept => ?_
    refine (held_allocate kept ..).bind fun _ _ kept => ?_
    refine (held_writeBuffer kept ..).bind fun _ _ kept => ?_
    refine (held_allocate kept ..).bind fun _ _ kept => ?_
    refine (held_writeBuffer kept ..).bind fun _ _ kept => ?_
    exact (held_createKernel kept ..).bind fun _ _ kept => ensures_pure kept
  exact prepared.bind fun _ _ kept => held_searchLoop _ 0 kept

/-- The six objects of a search that ends and its events are never released; when the exception of
a check ends the program, what its slots held was released exactly once. -/
theorem exit_leaks (driver : Driver) (platform : Platform) (split : Split) (targetHash : BitVec 64)
    (garbage : Garbage) :
    Ensures
      (fun report after => after.objects = 6 ∧
        (∀ ended, report = some ended → finishTokens after.log = ended.finishTokens) ∧
        ∀ resource, ¬ Released lifetimes after.log resource)
      (fun failure after => ∀ msg, failure = .runtimeError msg → ReleasedOnce after.log)
      (program driver platform split targetHash) (State.constructed garbage) := by
  refine (held_program garbage).mono ?_ ?_
  · rintro report after ⟨tokens, held, counted⟩
    refine ⟨held.objects, fun ended same => held.tokens.trans (counted ended same), ?_⟩
    rintro resource ⟨event, member, releases⟩
    cases (held.unreleased event member).symm.trans releases
  · intro failure after tornDown msg same
    obtain ⟨failing, sound, owned, rfl⟩ := tornDown msg same
    refine releasedOnce_of_empty ?_ (tornDown_holds driver sound)
    exact preserved_of_effects (fun _ _ sound owned effect => effect.owned sound owned)
      (tornDown_effects driver sound) sound owned

end Program

/-! ### Failures -/

section Failures

variable {driver : Driver} {platform : Platform} {split : Split} {targetHash : BitVec 64}
  {pointers : Pointers}

/-- A part of `main` that no failed call lets return. -/
abbrev EndsUnharmed {α : Type} (program : Cl α) : Prop := Silent State.log Event.Failed program

theorem EndsUnharmed.bind {α β : Type} {program : Cl α} {next : α → Cl β}
    (first : EndsUnharmed program) (second : ∀ value, EndsUnharmed (next value)) :
    EndsUnharmed (program >>= next) :=
  Moves.bind (silent_composable _ _) first second

theorem endsUnharmed_pure {α : Type} (value : α) : EndsUnharmed (pure value : Cl α) :=
  moves_pure (silent_composable _ _) value

theorem endsUnharmed_prepare : EndsUnharmed (prepare driver split) := by
  refine EndsUnharmed.bind surfaces_init.silent fun _ => ?_
  refine EndsUnharmed.bind (surfaces_allocate _ _).silent fun gpuBuf => ?_
  refine EndsUnharmed.bind (surfaces_transfer _ _ _ _ fun _ _ => rfl).silent fun _ => ?_
  refine EndsUnharmed.bind (surfaces_allocate _ _).silent fun gpuFlag => ?_
  refine EndsUnharmed.bind (surfaces_transfer _ _ _ _ fun _ _ => rfl).silent fun _ => ?_
  refine EndsUnharmed.bind (surfaces_createKernel _ _ _).silent fun kernel => ?_
  exact endsUnharmed_pure _

theorem endsUnharmed_push {op : Op} (isPush : Op.IsPush pointers op) :
    EndsUnharmed (op.perform driver) := by
  cases op with
  | pushArg target argSize value => exact (surfaces_pushArg target argSize _).map.silent
  | pushBuffer target buffer => exact (surfaces_pushBuffer target buffer).map.silent
  | _ => exact isPush.elim

theorem endsUnharmed_launchIteration (i : Nat) :
    EndsUnharmed (launchIteration driver split targetHash pointers i) := by
  apply EndsUnharmed.bind
  · apply moves_forM (silent_composable _ _)
    intro op member
    exact EndsUnharmed.bind (endsUnharmed_push (isPush_pushes i op member)) endsUnharmed_pure
  · exact fun _ => (surfaces_execute _ _ _ _).silent

theorem endsUnharmed_readBack (slot : Fin 32) : EndsUnharmed (readBack driver platform slot) := by
  refine EndsUnharmed.bind (surfaces_readWhole slot true).silent fun _ => ?_
  refine EndsUnharmed.bind (moves_get (silent_composable _ _)) fun state => ?_
  exact endsUnharmed_pure _

theorem endsUnharmed_searchLoop (remaining i : Nat) :
    EndsUnharmed (searchLoop driver platform split targetHash pointers remaining i) := by
  induction remaining generalizing i with
  | zero => exact endsUnharmed_pure _
  | succ remaining inductionHypothesis =>
      refine EndsUnharmed.bind (endsUnharmed_launchIteration i) fun _ => ?_
      refine EndsUnharmed.bind (endsUnharmed_readBack _) ?_
      rintro (_ | cpuFlag)
      · exact endsUnharmed_pure _
      dsimp only
      split
      · refine EndsUnharmed.bind (endsUnharmed_readBack _) ?_
        rintro (_ | cpuBuf)
        · exact endsUnharmed_pure _
        · exact endsUnharmed_pure _
      · exact inductionHypothesis (i + 1)

/-- `main` gets to its end only if every call succeeded whose status is looked at. -/
theorem search_ends_unharmed (driver : Driver) (platform : Platform) (split : Split)
    (targetHash : BitVec 64) (garbage : Garbage) :
    Ensures (fun _ after => ∀ event ∈ after.log, ¬ event.Failed) (fun _ _ => True)
      (program driver platform split targetHash) (State.constructed garbage) := by
  have unharmed : EndsUnharmed (program driver platform split targetHash) :=
    EndsUnharmed.bind endsUnharmed_prepare fun _ => endsUnharmed_searchLoop _ _
  have run := unharmed (State.constructed garbage)
  cases ran : (program driver platform split targetHash).run (State.constructed garbage) with
  | ok report after =>
      rw [ran] at run
      obtain ⟨events, grown, unfailed⟩ := run
      apply ensures_of_ok ran
      rw [grown, show (State.constructed garbage).log = [] from rfl, List.append_nil]
      exact unfailed
  | error failure after => exact ensures_of_error ran trivial

end Failures

end OpenClHash.System
