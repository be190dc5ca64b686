import OpenClHash.Device.Runs

/-!
Owns what the order of the steps decides about a launch, and what it does not. Each work
item with a matching word wins under some schedule, so the results a launch can have are
the words its work items offer. The number of steps is the same under every schedule, and
a schedule that gives each work item its share of turns completes the launch, whatever
the others do in between. Over launches in a row on buffers that nobody clears the first
report stays.
-/

namespace OpenClHash.Device

open OpenClHash.Kernel OpenClHash.Library Relation

variable {letterCount : Nat} {targetHash : BitVec 64} {launch : Launch letterCount targetHash}
  {memory : Memory} {state : State}

/-- Any run of a launch refines a run of the publication protocol. -/
theorem WellFormed.run {next : State} (wellFormed : WellFormed launch state)
    (run : ReflTransGen launch.Step state next) :
    WellFormed launch next ∧
      ReflTransGen (Publication.Step launch.offer) state.abstract next.abstract := by
  induction run with
  | refl => exact ⟨wellFormed, .refl⟩
  | tail _ step inductionHypothesis =>
      rcases inductionHypothesis with ⟨wellFormed, abstractRun⟩
      rcases step with ⟨item, advances⟩
      obtain ⟨abstractStep, wellFormedNext⟩ := advance_refines wellFormed advances
      exact ⟨wellFormedNext, abstractRun.tail abstractStep⟩

/-! ### Every offer can win -/

theorem runSchedule_append (first second : List Nat) (state : State) :
    launch.runSchedule (first ++ second) state =
      launch.runSchedule second (launch.runSchedule first state) := by
  induction first generalizing state with
  | nil => rfl
  | cons item rest inductionHypothesis => exact inductionHypothesis _

/-- A work item that is given the first two turns takes the flag. -/
theorem copying_of_first {item : Nat} {word : List Char} (down : memory.foundFlag = 0#32)
    (inside : item < launch.workItems) (offers : launch.offer item = some word) :
    (launch.runSchedule [item, item] (State.enqueue memory)).phase item =
      .copying (word.map some) 0 := by
  let enqueued := State.enqueue memory
  let searched := enqueued.goto item (.reporting (word.map some))
  let exchanged : State := { searched with memory := { searched.memory with foundFlag := 1#32 } }
  have finds : launch.advance item enqueued = some searched := by
    simp only [Launch.advance, if_pos inside, enqueued, State.enqueue, launch.search_eq_offer,
      offers, Option.map_some]
    rfl
  have reporting : searched.phase item = .reporting (word.map some) := Function.update_self ..
  have unclaimed : searched.memory.foundFlag = 0#32 := down
  have claims : launch.advance item searched =
      some (exchanged.goto item (.copying (word.map some) 0)) := by
    simp only [Launch.advance, if_pos inside, reporting, unclaimed, atomicCmpxchg, if_true]
    rfl
  rw [Launch.runSchedule, finds, Option.getD_some, Launch.runSchedule, claims, Option.getD_some,
    Launch.runSchedule]
  exact Function.update_self ..

/-- Any work item with a matching word is the winner of some run. -/
theorem exists_run_offer {item : Nat} {word : List Char} (down : memory.foundFlag = 0#32)
    (room : memory.target.length = letterCount) (inside : item < launch.workItems)
    (offers : launch.offer item = some word) :
    ∃ schedule, launch.run schedule memory = some ⟨1#32, word⟩ := by
  have reached : ReflTransGen launch.Step (State.enqueue memory)
      (launch.runSchedule [item, item] (State.enqueue memory)) := runSchedule_reachable _ _
  obtain ⟨rest, completed⟩ := exists_schedule (launch_refines down room reached).1
  rw [← runSchedule_append] at completed
  have copying : (launch.runSchedule [item, item] (State.enqueue memory)).abstract.phase item =
      .copying 0 := by
    rw [WellFormed.abstract_phase, copying_of_first down inside offers]
    rfl
  obtain ⟨record, claimed⟩ := (launch_invariant down room reached).published_of_copying copying
  obtain rfl := Option.some.inj (offers.symm.trans claimed.offers)
  have sameLength : word.length = memory.target.length := by
    rw [room]
    exact (launch.offer_isWord offers).1.1
  -- The flag is the item's for the rest of the run, which ends with its word copied.
  have wellFormed := (launch_refines down room reached).1
  obtain ⟨wellFormedEnd, onward⟩ :=
    wellFormed.run (runSchedule_reachable rest _)
  rw [← runSchedule_append] at wellFormedEnd onward
  have published := claimed.run sameLength onward
  obtain ⟨_, cells⟩ := published.settled (wellFormedEnd.settled completed)
  have up : (launch.runSchedule ([item, item] ++ rest) (State.enqueue memory)).memory.foundFlag =
      1#32 := by
    simpa [State.abstract] using published.up
  refine ⟨[item, item] ++ rest, ?_⟩
  rw [Launch.run, if_pos completed, ← up, ← cells]
  rfl

/-- What some schedule leaves in the buffers. -/
theorem exists_run_iff (down : memory.foundFlag = 0#32)
    (room : memory.target.length = letterCount) (after : Memory) :
    (∃ schedule, launch.run schedule memory = some after) ↔
      (after = memory ∧ ∀ item < launch.workItems, launch.offer item = none) ∨
        ∃ item < launch.workItems, ∃ word,
          launch.offer item = some word ∧ after = ⟨1#32, word⟩ := by
  constructor
  · intro ran
    rcases ran with ⟨schedule, ran⟩
    rcases run_outcome down room ran with unchanged | ⟨up, item, inside, offers⟩
    · exact Or.inl unchanged
    · exact Or.inr ⟨item, inside, after.target, offers, by rw [← up]⟩
  · intro possible
    rcases possible with ⟨rfl, noOffer⟩ | ⟨item, inside, word, offers, rfl⟩
    · obtain ⟨schedule, completes⟩ := exists_run launch down room
      obtain ⟨left, ran⟩ := Option.isSome_iff_exists.mp completes
      rcases run_outcome down room ran with ⟨rfl, _⟩ | ⟨_, item, inside, offers⟩
      · exact ⟨schedule, ran⟩
      · rw [noOffer item inside] at offers
        cases offers
    · exact exists_run_offer down room inside offers

/-! ### The number of steps -/

namespace Launch

variable (launch : Launch letterCount targetHash)

/-- How many entries of a schedule make a step. -/
def taken : List Nat → State → Nat
  | [], _ => 0
  | item :: rest, state =>
      match launch.advance item state with
      | none => taken rest state
      | some next => taken rest next + 1

/-- The work items that have a matching word. -/
def matching : Finset Nat :=
  (Finset.range launch.workItems).filter fun item => (launch.offer item).isSome

/-- The steps of a launch: a search for each work item, an exchange for each that found a
word, and the stores and the end of one report if there is one. -/
def steps : Nat :=
  launch.workItems + launch.matching.card +
    if launch.matching.Nonempty then letterCount + 1 else 0

end Launch

/-- The steps all work items together have left. -/
def stepsLeft (launch : Launch letterCount targetHash) (state : State) : Nat :=
  state.abstract.remaining launch.offer (Finset.range launch.workItems) letterCount

theorem stepsLeft_advance (wellFormed : WellFormed launch state)
    (invariant : Publication.Invariant launch.offer memory.target state.abstract) {item : Nat}
    {next : State} (advances : launch.advance item state = some next) :
    stepsLeft launch next + 1 = stepsLeft launch state := by
  obtain ⟨step, wellFormedNext⟩ := advance_refines wellFormed advances
  refine step.remaining (fun _ _ offers => (launch.offer_isWord offers).1.1) invariant ?_
  intro process beyond
  rw [Finset.mem_range, not_lt] at beyond
  rw [WellFormed.abstract_phase, WellFormed.abstract_phase, wellFormed.outside process beyond,
    wellFormedNext.outside process beyond]

/-- The steps taken and the steps left add up to the same number throughout. -/
theorem taken_add_stepsLeft (room : memory.target.length = letterCount)
    (wellFormed : WellFormed launch state)
    (invariant : Publication.Invariant launch.offer memory.target state.abstract)
    (schedule : List Nat) :
    launch.taken schedule state + stepsLeft launch (launch.runSchedule schedule state) =
      stepsLeft launch state := by
  induction schedule generalizing state with
  | nil => exact Nat.zero_add _
  | cons item rest inductionHypothesis =>
      cases advances : launch.advance item state with
      | none =>
          simpa only [Launch.taken, Launch.runSchedule, advances] using!
            inductionHypothesis wellFormed invariant
      | some next =>
          obtain ⟨step, wellFormedNext⟩ := advance_refines wellFormed advances
          have invariantNext := invariant.step
            (fun _ _ offers => (launch.offer_isWord offers).1.1.trans room.symm) step
          have rest := inductionHypothesis wellFormedNext invariantNext
          have one := stepsLeft_advance wellFormed invariant advances
          simp only [Launch.taken, Launch.runSchedule, advances, Option.getD_some]
          omega

theorem stepsLeft_enqueue (down : memory.foundFlag = 0#32) :
    stepsLeft launch (State.enqueue memory) = launch.steps := by
  have some : (∃ item ∈ Finset.range launch.workItems, (launch.offer item).isSome) ↔
      launch.matching.Nonempty := by
    simp only [Launch.matching, Finset.filter_nonempty_iff]
  rw [stepsLeft, abstract_enqueue down, Publication.remaining_start, Finset.card_range,
    Launch.steps, Launch.matching]
  simp only [some, Launch.matching]

theorem completed_iff_stepsLeft (wellFormed : WellFormed launch state)
    (invariant : Publication.Invariant launch.offer memory.target state.abstract) :
    launch.Completed state ↔ stepsLeft launch state = 0 := by
  rw [stepsLeft, invariant.remaining_eq_zero_iff]
  constructor
  · intro completed item member
    rw [WellFormed.abstract_phase, completed item (Finset.mem_range.mp member)]
    rfl
  · intro settled item inside
    have done := settled item (Finset.mem_range.mpr inside)
    have holds := wellFormed.holds item
    rw [WellFormed.abstract_phase] at done
    cases phase : state.phase item with
    | finished => rfl
    | faulted fault =>
        rw [phase] at holds
        exact holds.elim
    | searching | reporting | copying => simp [phase, Phase.abstract] at done

/-! ### Turns of one work item -/

/-- A step leaves the other work items where they are. -/
theorem advance_phase_of_ne {item other : Nat} {next : State}
    (advances : launch.advance item state = some next) (different : other ≠ item) :
    next.phase other = state.phase other := by
  obtain ⟨_, step⟩ := launch.advance_cases advances
  cases step with
  | find | giveUp | fault | win | lose | finish => exact Function.update_of_ne different ..
  | copy phase below =>
      unfold Launch.copyLetter
      split
      · exact Function.update_of_ne different ..
      · split <;> exact Function.update_of_ne different ..

/-- A turn of a work item brings it closer to its end, whatever the others did before. -/
theorem weight_advance (wellFormed : WellFormed launch state) {item : Nat} {next : State}
    (advances : launch.advance item state = some next) :
    (next.phase item).abstract.weight letterCount <
      (state.phase item).abstract.weight letterCount := by
  obtain ⟨process, less, _⟩ := (advance_refines wellFormed advances).1.weight_lt letterCount
    (fun _ _ offers => (launch.offer_isWord offers).1.1)
  obtain rfl : process = item := by
    by_contra different
    rw [WellFormed.abstract_phase, WellFormed.abstract_phase,
      advance_phase_of_ne advances different] at less
    exact lt_irrefl _ less
  exact less

/-- Enough turns finish a work item. -/
theorem finished_of_turns (wellFormed : WellFormed launch state) {item : Nat}
    (inside : item < launch.workItems) {schedule : List Nat}
    (turns : (state.phase item).abstract.weight letterCount ≤ schedule.count item) :
    (launch.runSchedule schedule state).phase item = .finished := by
  induction schedule generalizing state with
  | nil =>
      by_contra unfinished
      obtain ⟨next, advances⟩ := exists_advance wellFormed inside unfinished
      have less := weight_advance wellFormed advances
      rw [List.count_nil] at turns
      omega
  | cons head rest inductionHypothesis =>
      cases advances : launch.advance head state with
      | none =>
          simp only [Launch.runSchedule, advances, Option.getD_none]
          refine inductionHypothesis wellFormed ?_
          by_cases same : head = item
          · -- Its turn was passed over, so it had finished.
            subst same
            have finished : state.phase head = .finished := by
              by_contra unfinished
              obtain ⟨next, moves⟩ := exists_advance wellFormed inside unfinished
              rw [advances] at moves
              cases moves
            rw [finished]
            exact Nat.zero_le _
          · rwa [List.count_cons_of_ne same] at turns
      | some next =>
          simp only [Launch.runSchedule, advances, Option.getD_some]
          refine inductionHypothesis (advance_refines wellFormed advances).2 ?_
          by_cases same : head = item
          · subst same
            have less := weight_advance wellFormed advances
            rw [List.count_cons_self] at turns
            omega
          · rw [advance_phase_of_ne advances (Ne.symm same)]
            rwa [List.count_cons_of_ne same] at turns

/-- Under every schedule a launch makes the same number of steps before all work items have
run to completion, and none after; no work item waits for another. -/
theorem launch_steps (launch : Launch letterCount targetHash) (memory : Memory)
    (down : memory.foundFlag = 0#32) (room : memory.target.length = letterCount)
    (schedule : List Nat) :
    launch.taken schedule (State.enqueue memory) ≤ launch.steps ∧
    ((launch.run schedule memory).isSome ↔
      launch.taken schedule (State.enqueue memory) = launch.steps) ∧
    ((∀ item < launch.workItems, letterCount + 3 ≤ schedule.count item) →
      (launch.run schedule memory).isSome) := by
  have wellFormed := wellFormed_enqueue launch down room
  have reached : ReflTransGen launch.Step (State.enqueue memory)
      (launch.runSchedule schedule (State.enqueue memory)) := runSchedule_reachable _ _
  have balance := taken_add_stepsLeft room wellFormed (launch_invariant down room .refl) schedule
  rw [stepsLeft_enqueue down] at balance
  have completes : (launch.run schedule memory).isSome ↔
      launch.Completed (launch.runSchedule schedule (State.enqueue memory)) := by
    unfold Launch.run
    dsimp only
    split <;> simpa
  refine ⟨by omega, ?_, ?_⟩
  · rw [completes, completed_iff_stepsLeft (wellFormed.run reached).1
      (launch_invariant down room reached)]
    omega
  · intro turns
    rw [completes]
    intro item inside
    exact finished_of_turns wellFormed inside (turns item inside)

/-- Two work items hold `c`: two searches, two exchanges, one letter and one end. -/
theorem launch_steps_bothMatch :
    bothMatch.taken [0, 1, 1, 1, 1, 0] (State.enqueue ⟨0#32, ['\x00']⟩) = bothMatch.steps := by
  have steps := launch_steps bothMatch ⟨0#32, ['\x00']⟩ rfl rfl [0, 1, 1, 1, 1, 0]
  exact steps.2.1.mp (by decide)

/-! ### Launches in a row -/

/-- The flag was up before the launch: no work item takes it, and the buffers stay. -/
structure Refused (memory : Memory) (state : State) : Prop where
  up : memory.foundFlag ≠ 0#32
  same : state.memory = memory
  idle : ∀ item data i, state.phase item ≠ .copying data i

theorem refused_enqueue (up : memory.foundFlag ≠ 0#32) : Refused memory (State.enqueue memory) :=
  ⟨up, rfl, fun _ _ _ => nofun⟩

theorem Refused.goto (refused : Refused memory state) {item : Nat} {phase : Phase}
    (idle : ∀ data i, phase ≠ .copying data i) : Refused memory (state.goto item phase) := by
  refine ⟨refused.up, refused.same, ?_⟩
  intro other data i
  show Function.update state.phase item phase other ≠ _
  by_cases same : other = item
  · subst same
    rw [Function.update_self]
    exact idle data i
  · rw [Function.update_of_ne same]
    exact refused.idle other data i

theorem Refused.advance (refused : Refused memory state) {item : Nat} {next : State}
    (advances : launch.advance item state = some next) : Refused memory next := by
  obtain ⟨_, step⟩ := launch.advance_cases advances
  cases step with
  | find | giveUp | fault | lose => exact refused.goto fun _ _ => nofun
  | win phase down =>
      rw [refused.same] at down
      exact absurd down refused.up
  | copy phase | finish phase => exact absurd phase (refused.idle _ _ _)

theorem Refused.runSchedule (refused : Refused memory state) (schedule : List Nat) :
    Refused memory (launch.runSchedule schedule state) := by
  induction schedule generalizing state with
  | nil => exact refused
  | cons item rest inductionHypothesis =>
      cases advances : launch.advance item state with
      | none => simpa only [Launch.runSchedule, advances] using! inductionHypothesis refused
      | some next =>
          simp only [Launch.runSchedule, advances, Option.getD_some]
          exact inductionHypothesis (refused.advance advances)

/-- A launch on a raised flag leaves the buffers as they are, whatever it finds. -/
theorem run_of_up {schedule : List Nat} {after : Memory} (up : memory.foundFlag ≠ 0#32)
    (ran : launch.run schedule memory = some after) : after = memory := by
  unfold Launch.run at ran
  dsimp only at ran
  split at ran
  · rw [← Option.some.inj ran]
    exact ((refused_enqueue up).runSchedule schedule).same
  · cases ran

theorem exists_run_of_up (launch : Launch letterCount targetHash) (up : memory.foundFlag = 1#32)
    (room : memory.target.length = letterCount) :
    ∃ schedule, launch.run schedule memory = some memory := by
  have wellFormed : WellFormed launch (State.enqueue memory) :=
    ⟨Or.inr up, room, fun _ => trivial, fun _ _ => rfl⟩
  have raised : memory.foundFlag ≠ 0#32 := by
    rw [up]
    decide
  obtain ⟨schedule, completed⟩ := exists_schedule wellFormed
  refine ⟨schedule, ?_⟩
  rw [Launch.run, if_pos completed, ((refused_enqueue raised).runSchedule schedule).same]

/-- An enqueued launch, for whatever target. -/
structure Enqueued (letterCount : Nat) where
  targetHash : BitVec 64
  launch : Launch letterCount targetHash

/-- No work item of the launch has anything to report. -/
def Enqueued.Silent (enqueued : Enqueued letterCount) : Prop :=
  ∀ item < enqueued.launch.workItems, enqueued.launch.offer item = none

/-- Launches in a row, each under some schedule that completes it, can leave these buffers. -/
def Leaves : List (Enqueued letterCount) → Memory → Memory → Prop
  | [], memory, after => after = memory
  | enqueued :: rest, memory, after =>
      ∃ schedule between, enqueued.launch.run schedule memory = some between ∧
        Leaves rest between after

theorem leaves_of_up {series : List (Enqueued letterCount)} (up : memory.foundFlag = 1#32)
    (room : memory.target.length = letterCount) (after : Memory) :
    Leaves series memory after ↔ after = memory := by
  have raised : memory.foundFlag ≠ 0#32 := by
    rw [up]
    decide
  induction series with
  | nil => exact Iff.rfl
  | cons enqueued rest inductionHypothesis =>
      refine Iff.trans ?_ inductionHypothesis
      constructor
      · rintro ⟨schedule, between, ran, later⟩
        rwa [run_of_up raised ran] at later
      · intro later
        obtain ⟨schedule, ran⟩ := exists_run_of_up enqueued.launch up room
        exact ⟨schedule, memory, ran, later⟩

/-- Launches in a row, for any targets, on buffers that are cleared once: they leave what the
first launch with a matching word reports, and the later ones change nothing. -/
theorem launches_leave (series : List (Enqueued letterCount)) (memory after : Memory)
    (down : memory.foundFlag = 0#32) (room : memory.target.length = letterCount) :
    Leaves series memory after ↔
      (after = memory ∧ ∀ enqueued ∈ series, enqueued.Silent) ∨
      ∃ earlier enqueued later, series = earlier ++ enqueued :: later ∧
        (∀ silent ∈ earlier, silent.Silent) ∧
        ∃ item < enqueued.launch.workItems, ∃ word,
          enqueued.launch.offer item = some word ∧ after = ⟨1#32, word⟩ := by
  induction series with
  | nil => simp [Leaves]
  | cons enqueued rest inductionHypothesis =>
      rw [Leaves]
      constructor
      · rintro ⟨schedule, between, ran, later⟩
        rcases (exists_run_iff down room between).mp ⟨schedule, ran⟩ with
          ⟨rfl, silent⟩ | ⟨item, inside, word, offers, rfl⟩
        · rcases inductionHypothesis.mp later with
            ⟨unchanged, others⟩ | ⟨earlier, reporter, rest', rfl, silents, reported⟩
          · exact Or.inl ⟨unchanged, List.forall_mem_cons.mpr ⟨silent, others⟩⟩
          · exact Or.inr ⟨enqueued :: earlier, reporter, rest', rfl,
              List.forall_mem_cons.mpr ⟨silent, silents⟩, reported⟩
        · have length := (enqueued.launch.offer_isWord offers).1.1
          exact Or.inr ⟨[], enqueued, rest, rfl, fun _ => nofun, item, inside, word, offers,
            (leaves_of_up rfl length after).mp later⟩
      · rintro (⟨unchanged, silents⟩ | ⟨earlier, reporter, later, split, silents, reported⟩)
        · obtain ⟨silent, others⟩ := List.forall_mem_cons.mp silents
          obtain ⟨schedule, ran⟩ := (exists_run_iff down room memory).mpr (Or.inl ⟨rfl, silent⟩)
          exact ⟨schedule, memory, ran, inductionHypothesis.mpr (Or.inl ⟨unchanged, others⟩)⟩
        · cases earlier with
          | nil =>
              obtain ⟨rfl, rfl⟩ := List.cons.inj split
              obtain ⟨item, inside, word, offers, rfl⟩ := reported
              have length := (enqueued.launch.offer_isWord offers).1.1
              obtain ⟨schedule, ran⟩ := exists_run_offer down room inside offers
              exact ⟨schedule, _, ran, (leaves_of_up rfl length _).mpr rfl⟩
          | cons head earlier =>
              obtain ⟨rfl, rfl⟩ := List.cons.inj split
              obtain ⟨silent, others⟩ := List.forall_mem_cons.mp silents
              obtain ⟨schedule, ran⟩ := (exists_run_iff down room memory).mpr (Or.inl ⟨rfl, silent⟩)
              exact ⟨schedule, memory, ran, inductionHypothesis.mpr
                (Or.inr ⟨earlier, reporter, later, rfl, others, reported⟩)⟩

/-- A launch that searches for the one-letter word `a`. -/
def matchesA : Launch 1 259#64 where
  lettersFromGlobalId := 0#32
  cpuIterI := 0#32
  lettersToIterOver := 1#32
  workItems := 1
  nonempty := by decide
  fits := ⟨by decide, by decide⟩

/-- The search for `a` on buffers that the search for `c` left: `c` stays. -/
theorem launches_leave_stale :
    Leaves [⟨260#64, bothMatch⟩, ⟨259#64, matchesA⟩] ⟨0#32, ['\x00']⟩ ⟨1#32, ['c']⟩ :=
  (launches_leave [⟨260#64, bothMatch⟩, ⟨259#64, matchesA⟩] ⟨0#32, ['\x00']⟩ ⟨1#32, ['c']⟩ rfl
    rfl).mpr (Or.inr ⟨[], ⟨260#64, bothMatch⟩, [⟨259#64, matchesA⟩], rfl, fun _ => nofun, 0,
      by decide, ['c'], by decide, rfl⟩)

end OpenClHash.Device
