import Mathlib.Algebra.Order.BigOperators.Group.Finset
import OpenClHash.Device.LaunchRefinement

/-!
Owns runs of launches over one pair of buffers: what a completed launch leaves behind,
that every launch can be completed, and the invariant of any number of consecutive
launches where the host goes on only while the flag it read is 0.
-/

namespace OpenClHash.Device

open OpenClHash.Kernel OpenClHash.Library Relation

section OneLaunch

variable {letterCount : Nat} {targetHash : BitVec 64} {launch : Launch letterCount targetHash}
  {memory : Memory} {state : State}

theorem abstract_enqueue (down : memory.foundFlag = 0#32) :
    (State.enqueue memory).abstract = Publication.start memory.target := by
  simp only [State.abstract, State.enqueue, Publication.start, down]
  rfl

/-- A launch that starts with the flag down refines the publication protocol. -/
theorem launch_refines (down : memory.foundFlag = 0#32)
    (room : memory.target.length = letterCount)
    (run : ReflTransGen launch.Step (State.enqueue memory) state) :
    WellFormed launch state ∧
      ReflTransGen (Publication.Step launch.offer) (Publication.start memory.target)
        state.abstract := by
  induction run with
  | refl => exact ⟨wellFormed_enqueue launch down room, abstract_enqueue down ▸ .refl⟩
  | tail _ step inductionHypothesis =>
      rcases inductionHypothesis with ⟨wellFormed, abstractRun⟩
      rcases step with ⟨item, advances⟩
      obtain ⟨abstractStep, wellFormedNext⟩ := advance_refines wellFormed advances
      exact ⟨wellFormedNext, abstractRun.tail abstractStep⟩

theorem launch_invariant (down : memory.foundFlag = 0#32)
    (room : memory.target.length = letterCount)
    (run : ReflTransGen launch.Step (State.enqueue memory) state) :
    Publication.Invariant launch.offer memory.target state.abstract := by
  refine Publication.invariant_of_run ?_ (launch_refines down room run).2
  intro item record offers
  rw [room]
  exact (launch.offer_isWord offers).1.1

theorem abstract_down (wellFormed : WellFormed launch state)
    (down : state.abstract.flag = false) : state.memory.foundFlag = 0#32 := by
  rcases wellFormed.flag with zero | one
  · exact zero
  · simp [State.abstract, one] at down

/-- In a completed launch every work item is done or was never part of it. -/
theorem WellFormed.settled (wellFormed : WellFormed launch state)
    (completed : launch.Completed state) (item : Nat) :
    state.abstract.phase item = .idle ∨ state.abstract.phase item = .done := by
  rw [WellFormed.abstract_phase]
  by_cases inside : item < launch.workItems
  · rw [completed item inside]
    exact Or.inr rfl
  · rw [wellFormed.outside item (by omega)]
    exact Or.inl rfl

/-- What a completed launch leaves behind: nothing when no work item has a matching
word, else the matching word of one work item. -/
theorem launch_outcome (down : memory.foundFlag = 0#32)
    (room : memory.target.length = letterCount)
    (run : ReflTransGen launch.Step (State.enqueue memory) state)
    (completed : launch.Completed state) :
    (state.memory = memory ∧ state.writers = [] ∧
        ∀ item < launch.workItems, launch.offer item = none) ∨
      (state.memory.foundFlag = 1#32 ∧ ∃ item < launch.workItems,
        launch.offer item = some state.memory.target ∧
          ∀ writer ∈ state.writers, writer = item) := by
  have wellFormed := (launch_refines down room run).1
  rcases launch_invariant down room run with unpublished | ⟨winner, record, published⟩
  · left
    refine ⟨?_, unpublished.unwritten, ?_⟩
    · have flag := abstract_down wellFormed unpublished.down
      have target : state.memory.target = memory.target := unpublished.untouched
      rw [← down] at flag
      cases memory
      cases stateMemory : state.memory
      simp_all
    · intro item inside
      apply unpublished.offer_of_done
      rw [WellFormed.abstract_phase, completed item inside]
      rfl
  · right
    obtain ⟨done, cells⟩ := published.settled (wellFormed.settled completed)
    have up : state.memory.foundFlag = 1#32 := by
      simpa [State.abstract] using published.up
    refine ⟨up, winner, ?_, ?_, published.onlyWriter⟩
    · by_contra beyond
      rw [WellFormed.abstract_phase, wellFormed.outside winner (by omega)] at done
      simp [Phase.abstract] at done
    · rw [published.offers, ← cells]
      rfl

/-! ### Schedules -/

theorem runSchedule_reachable (schedule : List Nat) (state : State) :
    ReflTransGen launch.Step state (launch.runSchedule schedule state) := by
  induction schedule generalizing state with
  | nil => exact .refl
  | cons item rest inductionHypothesis =>
      cases advances : launch.advance item state with
      | none => simpa only [Launch.runSchedule, advances] using! inductionHypothesis state
      | some next =>
          simp only [Launch.runSchedule, advances, Option.getD_some]
          exact .head ⟨item, advances⟩ (inductionHypothesis next)

/-- The steps all work items together have left. -/
def totalWeight (launch : Launch letterCount targetHash) (state : State) : Nat :=
  ∑ item ∈ Finset.range launch.workItems, (state.abstract.phase item).weight letterCount

theorem totalWeight_lt (wellFormed : WellFormed launch state) {item : Nat} {next : State}
    (advances : launch.advance item state = some next) :
    totalWeight launch next < totalWeight launch state := by
  obtain ⟨step, wellFormedNext⟩ := advance_refines wellFormed advances
  obtain ⟨process, less, others⟩ := step.weight_lt letterCount
    (fun item record offers => (launch.offer_isWord offers).1.1)
  have inside : process < launch.workItems := by
    by_contra beyond
    rw [WellFormed.abstract_phase, WellFormed.abstract_phase,
      wellFormed.outside process (by omega), wellFormedNext.outside process (by omega)] at less
    exact lt_irrefl _ less
  refine Finset.sum_lt_sum (fun other _ => ?_) ⟨process, Finset.mem_range.mpr inside, less⟩
  by_cases same : other = process
  · rw [same]
    exact less.le
  · rw [others other same]

/-- From any well-formed state some schedule completes the launch. -/
theorem exists_schedule (wellFormed : WellFormed launch state) :
    ∃ schedule, launch.Completed (launch.runSchedule schedule state) := by
  induction weight : totalWeight launch state using Nat.strong_induction_on generalizing state with
  | h total inductionHypothesis =>
      by_cases completed : launch.Completed state
      · exact ⟨[], completed⟩
      · unfold Launch.Completed at completed
        push Not at completed
        rcases completed with ⟨item, inside, unfinished⟩
        obtain ⟨next, advances⟩ := exists_advance wellFormed inside unfinished
        have less := totalWeight_lt wellFormed advances
        obtain ⟨rest, completes⟩ := inductionHypothesis (totalWeight launch next)
          (weight ▸ less) (advance_refines wellFormed advances).2 rfl
        refine ⟨item :: rest, ?_⟩
        simpa only [Launch.runSchedule, advances, Option.getD_some] using completes

/-- A launch run under a schedule that completes it. -/
theorem run_outcome {schedule : List Nat} {after : Memory} (down : memory.foundFlag = 0#32)
    (room : memory.target.length = letterCount) (ran : launch.run schedule memory = some after) :
    (after = memory ∧ ∀ item < launch.workItems, launch.offer item = none) ∨
      (after.foundFlag = 1#32 ∧ ∃ item < launch.workItems,
        launch.offer item = some after.target) := by
  unfold Launch.run at ran
  dsimp only at ran
  split at ran
  case isFalse => cases ran
  case isTrue completed =>
    obtain rfl := Option.some.inj ran
    rcases launch_outcome down room (runSchedule_reachable schedule _) completed with
      ⟨unchanged, _, noOffer⟩ | ⟨up, item, inside, offers, _⟩
    · exact Or.inl ⟨unchanged, noOffer⟩
    · exact Or.inr ⟨up, item, inside, offers⟩

theorem exists_run (launch : Launch letterCount targetHash) (down : memory.foundFlag = 0#32)
    (room : memory.target.length = letterCount) :
    ∃ schedule, (launch.run schedule memory).isSome := by
  obtain ⟨schedule, completed⟩ := exists_schedule (wellFormed_enqueue launch down room)
  exact ⟨schedule, by simp [Launch.run, completed]⟩

end OneLaunch

/-! ### Consecutive launches -/

/-- The launches so far: the current one and who wrote `target` in the ones before it. -/
structure RunState where
  launch : Nat
  current : State
  earlierWriters : List (Nat × Nat)

namespace RunState

/-- Both buffers zero, the first launch enqueued. -/
def start (letterCount : Nat) : RunState where
  launch := 0
  current := State.enqueue ⟨0#32, List.replicate letterCount '\x00'⟩
  earlierWriters := []

/-- The work items that wrote `target` so far, each with its launch. -/
def writers (run : RunState) : List (Nat × Nat) :=
  run.earlierWriters ++ run.current.writers.map fun item => (run.launch, item)

end RunState

/-- A run steps inside the current launch, or goes on to the next launch once the current
one has completed and the host read the flag as 0. -/
inductive RunStep {letterCount : Nat} {targetHash : BitVec 64}
    (plan : Nat → Launch letterCount targetHash) : RunState → RunState → Prop where
  | within {run : RunState} {next : State} (step : (plan run.launch).Step run.current next) :
      RunStep plan run { run with current := next }
  | goOn {run : RunState} (completed : (plan run.launch).Completed run.current)
      (down : run.current.memory.foundFlag = 0#32) :
      RunStep plan run
        { launch := run.launch + 1
          current := State.enqueue run.current.memory
          earlierWriters := run.writers }

section ConsecutiveLaunches

variable {letterCount : Nat} {targetHash : BitVec 64} {plan : Nat → Launch letterCount targetHash}
  {run : RunState}

/-- Nothing was written before the current launch, which started from zero buffers. -/
structure RunInvariant (plan : Nat → Launch letterCount targetHash) (run : RunState) : Prop where
  unwritten : run.earlierWriters = []
  reached : ReflTransGen (plan run.launch).Step
    (State.enqueue ⟨0#32, List.replicate letterCount '\x00'⟩) run.current

theorem RunInvariant.step {next : RunState} (invariant : RunInvariant plan run)
    (step : RunStep plan run next) : RunInvariant plan next := by
  rcases invariant with ⟨unwritten, reached⟩
  cases step with
  | within step => exact ⟨unwritten, reached.tail step⟩
  | goOn completed down =>
      rcases launch_outcome rfl List.length_replicate reached completed with
        ⟨memory, writers, _⟩ | ⟨up, _⟩
      · constructor
        · simp [RunState.writers, unwritten, writers]
        · rw [memory]
      · rw [down] at up
        simp at up

theorem runInvariant_of_run
    (reachable : ReflTransGen (RunStep plan) (RunState.start letterCount) run) :
    RunInvariant plan run := by
  induction reachable with
  | refl => exact ⟨rfl, .refl⟩
  | tail _ step inductionHypothesis => exact inductionHypothesis.step step

theorem RunInvariant.flag_mono {next : RunState} (invariant : RunInvariant plan run)
    (step : RunStep plan run next) (up : run.current.memory.foundFlag = 1#32) :
    next.current.memory.foundFlag = 1#32 := by
  cases step with
  | within step =>
      rcases step with ⟨item, advances⟩
      have wellFormed := (launch_refines rfl List.length_replicate invariant.reached).1
      have abstractUp := (advance_refines wellFormed advances).1.flag_mono
        (by simp [State.abstract, up])
      simpa [State.abstract] using abstractUp
  | goOn completed down =>
      rw [up] at down
      simp at down

/-- A word of zero bytes is over the alphabet only when it is empty. -/
theorem isWord_replicate_nul {letterCount : Nat}
    (isWord : IsWord letterCount (List.replicate letterCount '\x00')) : letterCount = 0 := by
  by_contra nonzero
  obtain ⟨digit, nul⟩ := mem_letters (isWord.2 '\x00'
    (List.mem_replicate.mpr ⟨nonzero, rfl⟩))
  exact letter_ne_nul digit nul

/-- With `LETTER_COUNT` zero, the only word is examined by the first work item. -/
theorem offer_of_empty {launch : Launch 0 targetHash} (hit : digitHash 7#64 [] = targetHash) :
    launch.offer 0 ≠ none := by
  intro nothing
  have split : launch.lettersFromGlobalId.toNat + launch.lettersToIterOver.toNat ≤ 0 :=
    launch.fits.split
  have noLetters : launch.args.lettersToIterOver = 0#32 := by
    apply BitVec.eq_of_toNat_eq
    simp only [Launch.args, BitVec.toNat_ofNat]
    omega
  have one : (combinations launch.args).toNat = 1 := by
    rw [combinations, noLetters]
    rfl
  have empty : launch.examined 0 0 = [] :=
    List.eq_nil_of_length_eq_zero (examinedDigits_length _ launch.args_fits 0)
  have miss := (launch.offer_eq_none_iff 0).mp nothing 0 (by omega)
  rw [empty] at miss
  exact miss hit

/-- After a completed launch the flag tells whether `target` holds a matching word. -/
theorem RunInvariant.flag_iff (invariant : RunInvariant plan run)
    (completed : (plan run.launch).Completed run.current) :
    run.current.memory.foundFlag = 1#32 ↔
      IsWord letterCount run.current.memory.target ∧
        wordHash run.current.memory.target = .ok targetHash := by
  rcases launch_outcome rfl List.length_replicate invariant.reached completed with
    ⟨memory, _, noOffer⟩ | ⟨up, item, inside, offers, _⟩
  · rw [memory]
    constructor
    · intro up
      simp at up
    · intro matching
      rcases matching with ⟨isWord, hash⟩
      -- Zero bytes spell no word unless the word is empty, and then item 0 reports it.
      obtain rfl := isWord_replicate_nul isWord
      have hit := Except.ok.inj ((wordHash_spell []).symm.trans hash)
      exact absurd (noOffer 0 (plan run.launch).nonempty) (offer_of_empty hit)
  · exact ⟨fun _ => (plan run.launch).offer_isWord offers, fun _ => up⟩

theorem single_winner
    (reachable : ReflTransGen (RunStep plan) (RunState.start letterCount) run) :
    (run.current.memory.foundFlag = 0#32 ∨ run.current.memory.foundFlag = 1#32) ∧
    (∀ later, ReflTransGen (RunStep plan) run later →
      run.current.memory.foundFlag = 1#32 → later.current.memory.foundFlag = 1#32) ∧
    (∀ first ∈ run.writers, ∀ second ∈ run.writers, first = second) ∧
    (run.current.memory.foundFlag = 0#32 →
      run.current.memory.target = List.replicate letterCount '\x00') ∧
    ((plan run.launch).Completed run.current →
      (run.current.memory.foundFlag = 1#32 ↔
        IsWord letterCount run.current.memory.target ∧
          wordHash run.current.memory.target = .ok targetHash) ∧
      (run.current.memory.foundFlag = 1#32 →
        ∃ item < (plan run.launch).workItems,
          search letterCount (plan run.launch).args (BitVec.ofNat 32 item) =
            .ok (some (run.current.memory.target.map some)))) := by
  have invariant := runInvariant_of_run reachable
  have wellFormed := (launch_refines rfl List.length_replicate invariant.reached).1
  refine ⟨wellFormed.flag, ?_, ?_, ?_, ?_⟩
  · intro later onward up
    induction onward with
    | refl => exact up
    | tail before step inductionHypothesis =>
        exact (runInvariant_of_run (reachable.trans before)).flag_mono step inductionHypothesis
  · simp only [RunState.writers, invariant.unwritten, List.nil_append]
    rcases launch_invariant rfl List.length_replicate invariant.reached with
      unpublished | ⟨winner, record, published⟩
    · have none : run.current.writers = [] := unpublished.unwritten
      simp [none]
    · intro first firstMember second secondMember
      obtain ⟨writer, writerMember, rfl⟩ := List.mem_map.mp firstMember
      obtain ⟨other, otherMember, rfl⟩ := List.mem_map.mp secondMember
      rw [published.onlyWriter writer writerMember, published.onlyWriter other otherMember]
  · intro down
    rcases launch_invariant rfl List.length_replicate invariant.reached with
      unpublished | ⟨winner, record, published⟩
    · exact unpublished.untouched
    · have up := published.up
      simp [State.abstract, down] at up
  · intro completed
    refine ⟨invariant.flag_iff completed, fun up => ?_⟩
    rcases launch_outcome rfl List.length_replicate invariant.reached completed with
      ⟨memory, _, _⟩ | ⟨_, item, inside, offers, _⟩
    · rw [memory] at up
      simp at up
    · refine ⟨item, inside, ?_⟩
      rw [Launch.search_eq_offer, offers]
      rfl

theorem run_within {state : State} (index : Nat) (earlier : List (Nat × Nat))
    {next : State} (reached : ReflTransGen (plan index).Step state next) :
    ReflTransGen (RunStep plan) ⟨index, state, earlier⟩ ⟨index, next, earlier⟩ :=
  reached.lift (fun current => RunState.mk index current earlier) fun _ _ step => .within step

/-- A launch in which two work items hold the one-letter word `c`. -/
def bothMatch : Launch 1 260#64 where
  lettersFromGlobalId := 0#32
  cpuIterI := 0#32
  lettersToIterOver := 1#32
  workItems := 2
  nonempty := by decide
  fits := ⟨by decide, by decide⟩

/-- Item 0 gets to the exchange first, item 1 takes it and copies, item 0 finds it taken. -/
def bothMatchRun : RunState where
  launch := 0
  current := bothMatch.runSchedule [0, 1, 1, 1, 1, 0] (State.enqueue ⟨0#32, ['\x00']⟩)
  earlierWriters := []

theorem single_winner_bothMatch :
    bothMatchRun.writers = [(0, 1)] ∧ IsWord 1 bothMatchRun.current.memory.target ∧
      wordHash bothMatchRun.current.memory.target = .ok 260#64 := by
  have reachable : ReflTransGen (RunStep fun _ => bothMatch) (RunState.start 1) bothMatchRun :=
    run_within 0 [] (runSchedule_reachable [0, 1, 1, 1, 1, 0] _)
  exact ⟨by decide, ((single_winner reachable).2.2.2.2 (by decide)).1.mp (by decide)⟩

end ConsecutiveLaunches

end OpenClHash.Device
