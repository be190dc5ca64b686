import OpenClHash.Kernel.WorkItem

/-!
Owns one launch of the kernel as a step relation on shared memory: the two buffers, the
work items, and the steps of one work item from its private search through
`atomic_cmpxchg` to the byte writes of the report loop. Steps of different work items
interleave in any order.
-/

namespace OpenClHash.Device

open OpenClHash.Kernel

/-- The two buffers all work items share. -/
structure Memory where
  foundFlag : BitVec 32
  target : List Char
deriving DecidableEq, Repr

/-- An enqueued launch. The kernel was built with `LETTER_COUNT`, its letter counts fit
that length, and an NDRange is never empty. -/
structure Launch (letterCount : Nat) (targetHash : BitVec 64) where
  lettersFromGlobalId : BitVec 32
  cpuIterI : BitVec 32
  lettersToIterOver : BitVec 32
  workItems : Nat
  nonempty : 0 < workItems
  fits : Fits letterCount ⟨targetHash, lettersFromGlobalId, cpuIterI, lettersToIterOver⟩

/-- Where a work item is in the kernel. -/
inductive Phase where
  | searching
  | reporting (data : Data)
  | copying (data : Data) (i : Nat)
  | finished
  | faulted (fault : Fault)
deriving DecidableEq, Repr

/-- Shared memory, the work items, and which of them wrote `target` so far. -/
structure State where
  memory : Memory
  phase : Nat → Phase
  writers : List Nat

/-- `atomic_cmpxchg(p, cmp, val)`: the value read and the value left behind. -/
def atomicCmpxchg (old cmp val : BitVec 32) : BitVec 32 × BitVec 32 :=
  (old, if old = cmp then val else old)

namespace State

/-- All work items before their first step. -/
def enqueue (memory : Memory) : State where
  memory := memory
  phase := fun _ => .searching
  writers := []

/-- The state with one work item moved to another phase. -/
def goto (state : State) (item : Nat) (phase : Phase) : State :=
  { state with phase := Function.update state.phase item phase }

end State

namespace Launch

variable {letterCount : Nat} {targetHash : BitVec 64} (launch : Launch letterCount targetHash)

def args : Arguments where
  targetHash := targetHash
  lettersFromGlobalId := launch.lettersFromGlobalId
  cpuIterI := launch.cpuIterI
  lettersToIterOver := launch.lettersToIterOver

/-- `target[i] = data[i]`. -/
def copyLetter (item : Nat) (data : Data) (i : Nat) (state : State) : State :=
  match load data (BitVec.ofNat 32 i) with
  | .error fault => state.goto item (.faulted fault)
  | .ok letter =>
      if i < state.memory.target.length then
        { memory := { state.memory with target := state.memory.target.set i letter }
          phase := Function.update state.phase item (.copying data (i + 1))
          writers := item :: state.writers }
      else
        state.goto item (.faulted .outOfBounds)

/-- The next step of a work item, if it has one. -/
def advance (item : Nat) (state : State) : Option State :=
  if item < launch.workItems then
    match state.phase item with
    | .searching =>
        match search letterCount launch.args (BitVec.ofNat 32 item) with
        | .ok (some data) => some (state.goto item (.reporting data))
        | .ok none => some (state.goto item .finished)
        | .error fault => some (state.goto item (.faulted fault))
    | .reporting data =>
        let (oldValue, newValue) := atomicCmpxchg state.memory.foundFlag 0#32 1#32
        let exchanged := { state with memory := { state.memory with foundFlag := newValue } }
        if oldValue = 0#32 then
          some (exchanged.goto item (.copying data 0))
        else
          some (exchanged.goto item .finished)
    | .copying data i =>
        if i < letterCount then
          some (copyLetter item data i state)
        else
          some (state.goto item .finished)
    | .finished | .faulted _ => none
  else
    none

/-- One step of some work item. -/
def Step (state next : State) : Prop := ∃ item, launch.advance item state = some next

/-- Every work item has run to completion. -/
def Completed (state : State) : Prop := ∀ item < launch.workItems, state.phase item = .finished

instance (state : State) : Decidable (launch.Completed state) :=
  inferInstanceAs (Decidable (∀ item < launch.workItems, state.phase item = .finished))

/-- The state after a schedule, which names the work item that takes each step; a work
item without a step left is passed over. -/
def runSchedule : List Nat → State → State
  | [], state => state
  | item :: rest, state => runSchedule rest ((launch.advance item state).getD state)

/-- The buffers after a launch under a schedule, if the schedule completes it. -/
def run (schedule : List Nat) (memory : Memory) : Option Memory :=
  let final := launch.runSchedule schedule (State.enqueue memory)
  if launch.Completed final then some final.memory else none

/-! ### What a step does -/

/-- The steps of a work item, by what they do to the state. -/
inductive Advances (item : Nat) (state : State) : State → Prop where
  | find {data : Data} (phase : state.phase item = .searching)
      (found : search letterCount launch.args (BitVec.ofNat 32 item) = .ok (some data)) :
      Advances item state (state.goto item (.reporting data))
  | giveUp (phase : state.phase item = .searching)
      (found : search letterCount launch.args (BitVec.ofNat 32 item) = .ok none) :
      Advances item state (state.goto item .finished)
  | fault {fault : Fault} (phase : state.phase item = .searching)
      (failed : search letterCount launch.args (BitVec.ofNat 32 item) = .error fault) :
      Advances item state (state.goto item (.faulted fault))
  | win {data : Data} (phase : state.phase item = .reporting data)
      (down : state.memory.foundFlag = 0#32) :
      Advances item state
        (({ state with memory := { state.memory with foundFlag := 1#32 } } : State).goto item
          (.copying data 0))
  | lose {data : Data} (phase : state.phase item = .reporting data)
      (up : state.memory.foundFlag ≠ 0#32) :
      Advances item state (state.goto item .finished)
  | copy {data : Data} {i : Nat} (phase : state.phase item = .copying data i)
      (below : i < letterCount) : Advances item state (copyLetter item data i state)
  | finish {data : Data} {i : Nat} (phase : state.phase item = .copying data i)
      (complete : ¬ i < letterCount) : Advances item state (state.goto item .finished)

theorem advance_cases {item : Nat} {state next : State}
    (advances : launch.advance item state = some next) :
    item < launch.workItems ∧ launch.Advances item state next := by
  unfold advance at advances
  split at advances
  case isFalse => cases advances
  case isTrue inside =>
    refine ⟨inside, ?_⟩
    cases phase : state.phase item with
    | searching =>
        simp only [phase] at advances
        cases searched : search letterCount launch.args (BitVec.ofNat 32 item) with
        | error fault =>
            simp only [searched, Option.some.injEq] at advances
            exact advances ▸ .fault phase searched
        | ok result =>
            cases result with
            | none =>
                simp only [searched, Option.some.injEq] at advances
                exact advances ▸ .giveUp phase searched
            | some data =>
                simp only [searched, Option.some.injEq] at advances
                exact advances ▸ .find phase searched
    | reporting data =>
        simp only [phase, atomicCmpxchg] at advances
        by_cases down : state.memory.foundFlag = 0#32
        · simp only [down, ↓reduceIte, Option.some.injEq] at advances
          exact advances ▸ .win phase down
        · simp only [if_neg down, Option.some.injEq] at advances
          exact advances ▸ .lose phase down
    | copying data i =>
        simp only [phase] at advances
        by_cases below : i < letterCount
        · simp only [if_pos below, Option.some.injEq] at advances
          exact advances ▸ .copy phase below
        · simp only [if_neg below, Option.some.injEq] at advances
          exact advances ▸ .finish phase below
    | finished => simp [phase] at advances
    | faulted fault => simp [phase] at advances

end Launch

end OpenClHash.Device
