import Mathlib.Algebra.BigOperators.Ring.Finset
import Mathlib.Logic.Function.Basic
import Mathlib.Logic.Relation
import Mathlib.Data.List.Basic

/-!
Owns single-winner publication: processes race with one compare-and-exchange on a
shared flag, and the process that raised it copies its record into shared cells, one
cell a step. Steps of different processes interleave in any order, and any number of
processes may hold a record.

While the flag is down the cells are untouched. Once it is up, exactly one process
writes, and the cells are the written part of its record followed by what was there
before. Which process that is depends on the order of the steps; how many steps there are
until all processes are done does not.
-/

namespace OpenClHash.Library.Publication

/-- Where a process is: before its decision, before the exchange, before the copy of
cell `next`, or done. -/
inductive Phase where
  | idle
  | racing
  | copying (next : Nat)
  | done

/-- The shared flag and cells, the processes, and who wrote a cell so far. -/
structure State (Process Value : Type*) where
  flag : Bool
  cells : List Value
  phase : Process → Phase
  writers : List Process

variable {Process Value : Type*} [DecidableEq Process]

/-- One atomic step of one process; `offer` is the record a process holds, if any. -/
inductive Step (offer : Process → Option (List Value)) :
    State Process Value → State Process Value → Prop where
  | withdraw {state : State Process Value} {process : Process}
      (idle : state.phase process = .idle) (nothing : offer process = none) :
      Step offer state { state with phase := Function.update state.phase process .done }
  | enter {state : State Process Value} {process : Process} {record : List Value}
      (idle : state.phase process = .idle) (offers : offer process = some record) :
      Step offer state { state with phase := Function.update state.phase process .racing }
  | win {state : State Process Value} {process : Process}
      (racing : state.phase process = .racing) (down : state.flag = false) :
      Step offer state
        { state with flag := true, phase := Function.update state.phase process (.copying 0) }
  | lose {state : State Process Value} {process : Process}
      (racing : state.phase process = .racing) (up : state.flag = true) :
      Step offer state { state with phase := Function.update state.phase process .done }
  | write {state : State Process Value} {process : Process} {next : Nat} {record : List Value}
      {value : Value} (copying : state.phase process = .copying next)
      (offers : offer process = some record) (cell : record[next]? = some value) :
      Step offer state
        { state with
          cells := state.cells.set next value
          phase := Function.update state.phase process (.copying (next + 1))
          writers := process :: state.writers }
  | finish {state : State Process Value} {process : Process} {next : Nat} {record : List Value}
      (copying : state.phase process = .copying next) (offers : offer process = some record)
      (complete : record.length ≤ next) :
      Step offer state { state with phase := Function.update state.phase process .done }

/-- All processes idle, the flag down. -/
def start (cells : List Value) : State Process Value where
  flag := false
  cells := cells
  phase := fun _ => .idle
  writers := []

/-- What a phase says about its process while the flag is down. -/
def Quiet (offer : Process → Option (List Value)) (process : Process) : Phase → Prop
  | .idle => True
  | .racing => ∃ record, offer process = some record
  | .copying _ => False
  | .done => offer process = none

/-- Only `winner` copies. -/
def CopiesOnlyAs (winner process : Process) (phase : Phase) : Prop :=
  ∀ next, phase = .copying next → process = winner

/-- Nobody has raised the flag. -/
structure Unpublished (offer : Process → Option (List Value)) (before : List Value)
    (state : State Process Value) : Prop where
  down : state.flag = false
  untouched : state.cells = before
  unwritten : state.writers = []
  quiet : ∀ process, Quiet offer process (state.phase process)

/-- `winner` raised the flag and copies `record`. -/
structure Published (offer : Process → Option (List Value)) (before : List Value)
    (winner : Process) (record : List Value) (state : State Process Value) : Prop where
  up : state.flag = true
  offers : offer winner = some record
  onlyCopy : ∀ process, CopiesOnlyAs winner process (state.phase process)
  onlyWriter : ∀ process ∈ state.writers, process = winner
  copied : (∃ next ≤ record.length, state.phase winner = .copying next ∧
      state.cells = record.take next ++ before.drop next) ∨
    (state.phase winner = .done ∧ state.cells = record)

/-- The invariant of every run. -/
def Invariant (offer : Process → Option (List Value)) (before : List Value)
    (state : State Process Value) : Prop :=
  Unpublished offer before state ∨
    ∃ winner record, Published offer before winner record state

variable {offer : Process → Option (List Value)} {before : List Value}

omit [DecidableEq Process] in
theorem invariant_start : Invariant offer before (start before) := by
  left
  constructor <;> simp [start, Quiet]

/-- Copying one more cell extends the written part by one. -/
theorem set_take_append_drop {record before : List Value} {next : Nat} {value : Value}
    (sameLength : record.length = before.length) (cell : record[next]? = some value) :
    (record.take next ++ before.drop next).set next value =
      record.take (next + 1) ++ before.drop (next + 1) := by
  obtain ⟨below, rfl⟩ := List.getElem?_eq_some_iff.mp cell
  have position : (record.take next).length = next := by
    rw [List.length_take]
    omega
  rw [List.set_append_right _ _ (Nat.le_of_eq position), position, Nat.sub_self,
    List.drop_eq_getElem_cons (by omega : next < before.length), List.set_cons_zero,
    List.take_succ_eq_append_getElem below, List.append_assoc, List.singleton_append]

section Preservation

variable {state next : State Process Value}

theorem Unpublished.step (unpublished : Unpublished offer before state)
    (step : Step offer state next) : Invariant offer before next := by
  rcases unpublished with ⟨down, untouched, unwritten, quiet⟩
  cases step with
  | @withdraw process idle nothing =>
      left
      refine ⟨down, untouched, unwritten, ?_⟩
      exact (Function.forall_update_iff _ (Quiet offer)).mpr ⟨nothing, fun other _ => quiet other⟩
  | @enter process record idle offers =>
      left
      refine ⟨down, untouched, unwritten, ?_⟩
      exact (Function.forall_update_iff _ (Quiet offer)).mpr
        ⟨⟨record, offers⟩, fun other _ => quiet other⟩
  | @win process racing _ =>
      have contender := quiet process
      rw [racing] at contender
      rcases contender with ⟨record, offers⟩
      refine Or.inr ⟨process, record, rfl, offers, ?_, ?_, Or.inl ⟨0, Nat.zero_le _, ?_, ?_⟩⟩
      · refine (Function.forall_update_iff _ (CopiesOnlyAs process)).mpr ⟨fun _ _ => rfl, ?_⟩
        intro other _ index copying
        have impossible := quiet other
        rw [copying] at impossible
        exact impossible.elim
      · simp [unwritten]
      · exact Function.update_self process _ state.phase
      · simp [untouched]
  | lose racing up => simp [down] at up
  | @write process index _ _ copying offers cell =>
      have impossible := quiet process
      rw [copying] at impossible
      exact impossible.elim
  | @finish process index _ copying offers complete =>
      have impossible := quiet process
      rw [copying] at impossible
      exact impossible.elim

theorem Published.step {winner : Process} {record : List Value}
    (sameLength : record.length = before.length)
    (published : Published offer before winner record state) (step : Step offer state next) :
    Published offer before winner record next := by
  rcases published with ⟨up, offers, onlyCopy, onlyWriter, copied⟩
  -- The winner is copying or done, so a step out of `idle` or `racing` is another's.
  have keep : ∀ process new, (∀ index, new ≠ Phase.copying index) →
      (state.phase process = .idle ∨ state.phase process = .racing) →
      Published offer before winner record
        { state with phase := Function.update state.phase process new } := by
    intro process new newIdle early
    have notWinner : winner ≠ process := by
      rintro rfl
      rcases copied with ⟨index, _, copying, _⟩ | ⟨done, _⟩
      · simp [copying] at early
      · simp [done] at early
    refine ⟨up, offers, ?_, onlyWriter, ?_⟩
    · exact (Function.forall_update_iff _ (CopiesOnlyAs winner)).mpr
        ⟨fun index copying => absurd copying (newIdle index), fun other _ => onlyCopy other⟩
    · simpa only [Function.update_of_ne notWinner] using copied
  cases step with
  | withdraw idle nothing => exact keep _ _ (by simp) (Or.inl idle)
  | enter idle others => exact keep _ _ (by simp) (Or.inl idle)
  | win racing down => simp [up] at down
  | lose racing _ => exact keep _ _ (by simp) (Or.inr racing)
  | @write process index _ value copying offers' cell =>
      obtain rfl := onlyCopy process index copying
      obtain rfl := Option.some.inj (offers.symm.trans offers')
      rcases copied with ⟨index', within, copying', cells⟩ | ⟨done, _⟩
      · obtain rfl : index = index' := by simpa using copying.symm.trans copying'
        obtain ⟨below, _⟩ := List.getElem?_eq_some_iff.mp cell
        refine ⟨up, offers, ?_, ?_, Or.inl ⟨index + 1, below, ?_, ?_⟩⟩
        · exact (Function.forall_update_iff _ (CopiesOnlyAs process)).mpr
            ⟨fun _ _ => rfl, fun other _ => onlyCopy other⟩
        · intro writer member
          rcases List.mem_cons.mp member with rfl | member
          · rfl
          · exact onlyWriter writer member
        · exact Function.update_self process _ state.phase
        · rw [← set_take_append_drop sameLength cell, ← cells]
      · simp [done] at copying
  | @finish process index _ copying offers' complete =>
      obtain rfl := onlyCopy process index copying
      obtain rfl := Option.some.inj (offers.symm.trans offers')
      rcases copied with ⟨index', within, copying', cells⟩ | ⟨done, _⟩
      · obtain rfl : index = index' := by simpa using copying.symm.trans copying'
        refine ⟨up, offers, ?_, onlyWriter, Or.inr ⟨?_, ?_⟩⟩
        · exact (Function.forall_update_iff _ (CopiesOnlyAs process)).mpr
            ⟨fun _ _ => rfl, fun other _ => onlyCopy other⟩
        · exact Function.update_self process _ state.phase
        · rw [cells, List.take_of_length_le complete, List.drop_of_length_le (by omega),
            List.append_nil]
      · simp [done] at copying

variable (sameLength : ∀ process record, offer process = some record →
  record.length = before.length)

include sameLength

theorem Invariant.step (invariant : Invariant offer before state)
    (step : Step offer state next) : Invariant offer before next := by
  rcases invariant with unpublished | ⟨winner, record, published⟩
  · exact unpublished.step step
  · exact Or.inr ⟨winner, record,
      published.step (sameLength winner record published.offers) step⟩

theorem invariant_of_run
    (run : Relation.ReflTransGen (Step offer) (start before) state) :
    Invariant offer before state := by
  induction run with
  | refl => exact invariant_start
  | tail _ step inductionHypothesis => exact inductionHypothesis.step sameLength step

omit sameLength

/-- The flag is never lowered. -/
theorem Step.flag_mono (step : Step offer state next) (up : state.flag = true) :
    next.flag = true := by
  cases step with
  | win racing down => rfl
  | withdraw | enter | lose | write | finish => exact up

end Preservation

section Termination

/-- An upper bound on the steps a process has left, for records of `length` cells. -/
def Phase.weight (length : Nat) : Phase → Nat
  | .idle => length + 3
  | .racing => length + 2
  | .copying next => length - next + 1
  | .done => 0

variable {state next : State Process Value}

theorem weight_update_lt {phase : Process → Phase} {process : Process} {later : Phase}
    {length : Nat} (less : later.weight length < (phase process).weight length) :
    ∃ moved,
      (Function.update phase process later moved).weight length < (phase moved).weight length ∧
      ∀ other, other ≠ moved → Function.update phase process later other = phase other := by
  refine ⟨process, ?_, fun other different => Function.update_of_ne different ..⟩
  rwa [Function.update_self]

/-- Every step moves one process closer to its end and leaves the others alone. -/
theorem Step.weight_lt (length : Nat)
    (offerLength : ∀ process record, offer process = some record → record.length = length)
    (step : Step offer state next) :
    ∃ process, (next.phase process).weight length < (state.phase process).weight length ∧
      ∀ other, other ≠ process → next.phase other = state.phase other := by
  cases step with
  | withdraw idle nothing => exact weight_update_lt (by simp [idle, Phase.weight])
  | enter idle offers => exact weight_update_lt (by simp [idle, Phase.weight])
  | win racing down => exact weight_update_lt (by simp [racing, Phase.weight])
  | lose racing up => exact weight_update_lt (by simp [racing, Phase.weight])
  | @write process index record value copying offers cell =>
      obtain ⟨below, _⟩ := List.getElem?_eq_some_iff.mp cell
      have recordLength := offerLength process record offers
      apply weight_update_lt
      simp only [copying, Phase.weight]
      omega
  | finish copying offers complete => exact weight_update_lt (by simp [copying, Phase.weight])

end Termination

section Settled

omit [DecidableEq Process]

variable {state : State Process Value}

/-- While the flag is down, a process that ended had no record. -/
theorem Unpublished.offer_of_done (unpublished : Unpublished offer before state)
    {process : Process} (done : state.phase process = .done) : offer process = none := by
  have quiet := unpublished.quiet process
  rwa [done] at quiet

/-- When every process is done or never started, the winner is done and the cells are
its record. -/
theorem Published.settled {winner : Process} {record : List Value}
    (published : Published offer before winner record state)
    (settled : ∀ process, state.phase process = .idle ∨ state.phase process = .done) :
    state.phase winner = .done ∧ state.cells = record := by
  rcases published.copied with ⟨index, _, copying, _⟩ | complete
  · rcases settled winner with idle | done
    · simp [copying] at idle
    · simp [copying] at done
  · exact complete

/-- While the flag is up only the process that raised it copies. -/
theorem Invariant.published_of_copying (invariant : Invariant offer before state)
    {process : Process} {index : Nat} (copying : state.phase process = .copying index) :
    ∃ record, Published offer before process record state := by
  rcases invariant with unpublished | ⟨winner, record, published⟩
  · have impossible := unpublished.quiet process
    rw [copying] at impossible
    exact impossible.elim
  · obtain rfl := published.onlyCopy process index copying
    exact ⟨record, published⟩

end Settled

/-- Once raised, the flag belongs to the same process for good. -/
theorem Published.run {winner : Process} {record : List Value} {state next : State Process Value}
    (sameLength : record.length = before.length)
    (published : Published offer before winner record state)
    (run : Relation.ReflTransGen (Step offer) state next) :
    Published offer before winner record next := by
  induction run with
  | refl => exact published
  | tail _ step inductionHypothesis => exact inductionHypothesis.step sameLength step

section ExactSteps

variable {state next : State Process Value} {participants : Finset Process} {length : Nat}

/-- The steps a process has left if it does not raise the flag any more. -/
def Phase.remaining (length : Nat) (holds : Bool) : Phase → Nat
  | .idle => if holds then 2 else 1
  | .racing => 1
  | .copying next => length - next + 1
  | .done => 0

@[simp]
theorem Phase.remaining_idle (holds : Bool) :
    Phase.idle.remaining length holds = if holds then 2 else 1 := rfl

@[simp]
theorem Phase.remaining_racing (holds : Bool) : Phase.racing.remaining length holds = 1 := rfl

@[simp]
theorem Phase.remaining_copying (holds : Bool) (next : Nat) :
    (Phase.copying next).remaining length holds = length - next + 1 := rfl

@[simp]
theorem Phase.remaining_done (holds : Bool) : Phase.done.remaining length holds = 0 := rfl

/-- The steps all participants have left: one of those that hold a record will copy it. -/
def State.remaining (offer : Process → Option (List Value)) (participants : Finset Process)
    (length : Nat) (state : State Process Value) : Nat :=
  ∑ process ∈ participants, (state.phase process).remaining length (offer process).isSome +
    if state.flag = false ∧ ∃ process ∈ participants, (offer process).isSome then
      length + 1
    else
      0

theorem sum_update (phase : Process → Phase) {process : Process} (later : Phase)
    (cost : Process → Phase → Nat) (inside : process ∈ participants) :
    ∑ other ∈ participants, cost other (Function.update phase process later other) +
        cost process (phase process) =
      ∑ other ∈ participants, cost other (phase other) + cost process later := by
  have others : ∑ other ∈ participants.erase process,
      cost other (Function.update phase process later other) =
        ∑ other ∈ participants.erase process, cost other (phase other) := by
    refine Finset.sum_congr rfl fun other member => ?_
    rw [Function.update_of_ne (Finset.ne_of_mem_erase member)]
  rw [← Finset.add_sum_erase _ _ inside, ← Finset.add_sum_erase participants _ inside,
    Function.update_self, others]
  omega

/-- Whatever step is taken, exactly one fewer is left. -/
theorem Step.remaining
    (offerLength : ∀ process record, offer process = some record → record.length = length)
    (invariant : Invariant offer before state) (step : Step offer state next)
    (outside : ∀ process ∉ participants, next.phase process = state.phase process) :
    next.remaining offer participants length + 1 = state.remaining offer participants length := by
  -- The process that moved is a participant, since its phase changed.
  have moved {process : Process} {phase later : Phase} (was : state.phase process = phase)
      (becomes : next.phase = Function.update state.phase process later) (differ : later ≠ phase) :
      process ∈ participants ∧
        ∑ other ∈ participants,
            (next.phase other).remaining length (offer other).isSome +
            phase.remaining length (offer process).isSome =
          ∑ other ∈ participants, (state.phase other).remaining length (offer other).isSome +
            later.remaining length (offer process).isSome := by
    have inside : process ∈ participants := by
      by_contra absent
      have same := outside process absent
      rw [becomes, Function.update_self, was] at same
      exact differ same
    refine ⟨inside, ?_⟩
    have summed := sum_update state.phase later
      (fun other phase => phase.remaining length (offer other).isSome) inside
    rwa [← becomes, was] at summed
  cases step with
  | @withdraw process idle nothing =>
      obtain ⟨_, summed⟩ := moved idle rfl (by simp)
      simp only [Phase.remaining_idle, Phase.remaining_done, nothing, Option.isSome_none,
        Bool.false_eq_true, if_false] at summed
      simp only [State.remaining]
      omega
  | @enter process record idle offers =>
      obtain ⟨_, summed⟩ := moved idle rfl (by simp)
      simp only [Phase.remaining_idle, Phase.remaining_racing, offers, Option.isSome_some,
        if_true] at summed
      simp only [State.remaining]
      omega
  | @win process racing down =>
      obtain ⟨inside, summed⟩ := moved racing rfl (by simp)
      have holds : (offer process).isSome := by
        rcases invariant with unpublished | ⟨winner, record, published⟩
        · have contender := unpublished.quiet process
          rw [racing] at contender
          rcases contender with ⟨record, offers⟩
          rw [offers]
          rfl
        · rw [published.up] at down
          cases down
      have held : ∃ process ∈ participants, (offer process).isSome := ⟨process, inside, holds⟩
      simp only [Phase.remaining_racing, Phase.remaining_copying] at summed
      simp only [State.remaining, down, held, and_self, if_true, Bool.true_eq_false, false_and,
        if_false]
      omega
  | @lose process racing up =>
      obtain ⟨_, summed⟩ := moved racing rfl (by simp)
      simp only [Phase.remaining_racing, Phase.remaining_done] at summed
      simp only [State.remaining]
      omega
  | @write process index record value copying offers cell =>
      obtain ⟨below, _⟩ := List.getElem?_eq_some_iff.mp cell
      have recordLength := offerLength process record offers
      obtain ⟨_, summed⟩ := moved copying rfl (by simp)
      simp only [Phase.remaining_copying] at summed
      simp only [State.remaining]
      omega
  | @finish process index record copying offers complete =>
      have recordLength := offerLength process record offers
      have within : index ≤ length := by
        obtain ⟨record, published⟩ := invariant.published_of_copying copying
        rcases published.copied with ⟨index', within, copying', _⟩ | ⟨done, _⟩
        · obtain rfl : index = index' := by simpa using copying.symm.trans copying'
          exact offerLength process record published.offers ▸ within
        · simp [done] at copying
      obtain ⟨_, summed⟩ := moved copying rfl (by simp)
      simp only [Phase.remaining_copying, Phase.remaining_done] at summed
      simp only [State.remaining]
      omega

omit [DecidableEq Process] in
theorem remaining_start (cells : List Value) :
    (start cells).remaining offer participants length =
      participants.card + (participants.filter fun process => (offer process).isSome).card +
        if ∃ process ∈ participants, (offer process).isSome then length + 1 else 0 := by
  have single : ∀ process : Process,
      (if (offer process).isSome then 2 else 1) = 1 + if (offer process).isSome then 1 else 0 := by
    intro process
    split <;> rfl
  simp only [State.remaining, start, Phase.remaining_idle, true_and, single,
    Finset.sum_add_distrib, ← Finset.card_eq_sum_ones, Finset.card_filter]

omit [DecidableEq Process] in
/-- No step is left exactly when all participants are done. -/
theorem Invariant.remaining_eq_zero_iff (invariant : Invariant offer before state) :
    state.remaining offer participants length = 0 ↔
      ∀ process ∈ participants, state.phase process = .done := by
  rw [State.remaining, Nat.add_eq_zero_iff, Finset.sum_eq_zero_iff]
  constructor
  · intro zero process member
    have none := zero.1 process member
    cases phase : state.phase process with
    | idle =>
        rw [phase, Phase.remaining_idle] at none
        split at none <;> cases none
    | racing => simp [phase] at none
    | copying next => simp [phase] at none
    | done => rfl
  · intro settled
    refine ⟨fun process member => by rw [settled process member, Phase.remaining_done], ?_⟩
    rw [if_neg]
    rintro ⟨down, process, member, holds⟩
    rcases invariant with unpublished | ⟨winner, record, published⟩
    · rw [unpublished.offer_of_done (settled process member)] at holds
      cases holds
    · rw [published.up] at down
      cases down

end ExactSteps

end OpenClHash.Library.Publication
