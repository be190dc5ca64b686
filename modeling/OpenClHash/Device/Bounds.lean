import OpenClHash.Device.Runs

/-!
Owns the bounds of the kernel's memory accesses. The two tables and the private array are
accessed inside and no cell is read before it is written, whatever the split, the shifted
`int` and the global id; a launch over a target buffer of one word keeps its stores inside
it, whatever the flag holds and however the work items interleave.
-/

namespace OpenClHash.Device

open OpenClHash.Kernel Relation

/-! ### Private memory -/

/-- Every cell of the array was written, with a letter of the alphabet. -/
def Spelled (letterCount : Nat) (data : Data) : Prop :=
  ∃ word, IsWord letterCount word ∧ data = word.map some

/-- No access of a work item before its report is a fault, in whatever iteration its search
ends, and at every comparison its array is spelled. -/
structure PrivateInBounds (letterCount : Nat) (args : Arguments) (globalId : BitVec 32) :
    Prop where
  searched : ∃ result, search letterCount args globalId = .ok result ∧
    ∀ data, result = some data → Spelled letterCount data
  compared : ∀ i, ∃ data hashValue, comparedAt letterCount args globalId i = .ok (data, hashValue) ∧
    Spelled letterCount data

/-- The split in terms of the `int` parameters of the kernel. -/
theorem fits_of_signed {letterCount : Nat} {args : Arguments} (isInt : letterCount < 2 ^ 31)
    (globalNonnegative : 0 ≤ args.lettersFromGlobalId.toInt)
    (iterNonnegative : 0 ≤ args.lettersToIterOver.toInt)
    (split : args.lettersFromGlobalId.toInt + args.lettersToIterOver.toInt ≤ letterCount) :
    Fits letterCount args where
  isInt := isInt
  split := by
    rw [BitVec.toInt_pos_iff] at globalNonnegative iterNonnegative
    rw [BitVec.toInt_eq_toNat_of_lt globalNonnegative,
      BitVec.toInt_eq_toNat_of_lt iterNonnegative] at split
    exact_mod_cast split

section Private

variable {letterCount : Nat} {args : Arguments}

theorem spelled_examined (fits : Fits letterCount args) (globalId : BitVec 32) (i : Nat) :
    Spelled letterCount (written (examinedDigits letterCount args globalId i)) := by
  refine ⟨spell (examinedDigits letterCount args globalId i), ?_, rfl⟩
  have isWord := isWord_spell (examinedDigits letterCount args globalId i)
  rwa [examinedDigits_length globalId fits i] at isWord

theorem private_inBounds (fits : Fits letterCount args) (globalId : BitVec 32) :
    PrivateInBounds letterCount args globalId where
  searched := by
    refine ⟨_, search_eq globalId fits, ?_⟩
    intro data found
    obtain ⟨i, _, rfl⟩ := Option.map_eq_some_iff.mp found
    exact spelled_examined fits globalId i
  compared := fun i => ⟨_, _, comparedAt_eq globalId fits i, spelled_examined fits globalId i⟩

end Private

/-! ### Shared memory -/

section Shared

variable {letterCount : Nat} {targetHash : BitVec 64} {launch : Launch letterCount targetHash}
  {state next : State}

/-- The target buffer holds a word, and each work item past its search holds its record. -/
structure InBounds (launch : Launch letterCount targetHash) (state : State) : Prop where
  room : state.memory.target.length = letterCount
  holds : ∀ item, PhaseHolds launch item (state.phase item)

theorem InBounds.goto (inBounds : InBounds launch state) {item : Nat} {phase : Phase}
    (holds : PhaseHolds launch item phase) : InBounds launch (state.goto item phase) where
  room := inBounds.room
  holds := (Function.forall_update_iff _ (PhaseHolds launch)).mpr
    ⟨holds, fun other _ => inBounds.holds other⟩

/-- A step keeps the accesses in bounds, and changes the target by at most one letter of the
alphabet inside the word. -/
theorem InBounds.advance (inBounds : InBounds launch state) {item : Nat}
    (advances : launch.advance item state = some next) :
    InBounds launch next ∧
      (next.memory.target = state.memory.target ∨
        ∃ i < letterCount, ∃ letter ∈ letters,
          next.memory.target = state.memory.target.set i letter) := by
  have holds := inBounds.holds item
  obtain ⟨_, step⟩ := launch.advance_cases advances
  cases step with
  | find phase found =>
      rw [launch.search_eq_offer, Except.ok.injEq] at found
      obtain ⟨word, offers, rfl⟩ := Option.map_eq_some_iff.mp found
      exact ⟨inBounds.goto ⟨word, offers, rfl⟩, .inl rfl⟩
  | giveUp phase found => exact ⟨inBounds.goto trivial, .inl rfl⟩
  | fault phase failed =>
      rw [launch.search_eq_offer] at failed
      cases failed
  | win phase down =>
      rw [phase] at holds
      have raised : InBounds launch
          { state with memory := { state.memory with foundFlag := 1#32 } } :=
        ⟨inBounds.room, inBounds.holds⟩
      exact ⟨raised.goto holds, .inl rfl⟩
  | lose phase up => exact ⟨inBounds.goto trivial, .inl rfl⟩
  | @copy data i phase below =>
      rw [phase] at holds
      rcases holds with ⟨word, offers, rfl⟩
      obtain ⟨length, alphabet⟩ := (launch.offer_isWord offers).1
      have inWord : i < word.length := by omega
      rw [copyLetter_eq offers inBounds.room inWord]
      have moved : InBounds launch (state.goto item (.copying (word.map some) (i + 1))) :=
        inBounds.goto ⟨word, offers, rfl⟩
      exact ⟨⟨by simpa using inBounds.room, moved.holds⟩,
        .inr ⟨i, below, word[i], alphabet _ (List.getElem_mem inWord), rfl⟩⟩
  | finish phase complete => exact ⟨inBounds.goto trivial, .inl rfl⟩

theorem inBounds_of_run {memory : Memory} (room : memory.target.length = letterCount)
    (run : ReflTransGen launch.Step (State.enqueue memory) state) : InBounds launch state := by
  induction run with
  | refl => exact ⟨room, fun _ => trivial⟩
  | tail _ step inductionHypothesis =>
      rcases step with ⟨item, advances⟩
      exact (inductionHypothesis.advance advances).1

theorem InBounds.not_faulted (inBounds : InBounds launch state) (item : Nat) (fault : Fault) :
    state.phase item ≠ .faulted fault := by
  intro phase
  have holds := inBounds.holds item
  rwa [phase] at holds

theorem InBounds.spelled (inBounds : InBounds launch state) {item : Nat} {data : Data}
    (carries : state.phase item = .reporting data ∨ ∃ i, state.phase item = .copying data i) :
    Spelled letterCount data := by
  have holds := inBounds.holds item
  rcases carries with phase | ⟨i, phase⟩ <;>
  · rw [phase] at holds
    rcases holds with ⟨word, offers, rfl⟩
    exact ⟨word, (launch.offer_isWord offers).1, rfl⟩

end Shared

/-- Every access of the kernel is in bounds and reads what was written before, and what a
work item copies is an array it spelled. -/
theorem kernel_inBounds :
    (∀ (letterCount : Nat) (args : Arguments) (globalId : BitVec 32), letterCount < 2 ^ 31 →
      0 ≤ args.lettersFromGlobalId.toInt → 0 ≤ args.lettersToIterOver.toInt →
      args.lettersFromGlobalId.toInt + args.lettersToIterOver.toInt ≤ letterCount →
      PrivateInBounds letterCount args globalId) ∧
    ∀ (letterCount : Nat) (targetHash : BitVec 64) (launch : Launch letterCount targetHash)
      (memory : Memory) (state : State), memory.target.length = letterCount →
      ReflTransGen launch.Step (State.enqueue memory) state → ∀ item,
        (∀ fault, state.phase item ≠ .faulted fault) ∧
        (∀ data, (state.phase item = .reporting data ∨ ∃ i, state.phase item = .copying data i) →
          Spelled letterCount data) ∧
        ∀ next, launch.advance item state = some next →
          next.memory.target = state.memory.target ∨
            ∃ i < letterCount, ∃ letter ∈ letters,
              next.memory.target = state.memory.target.set i letter := by
  constructor
  · intro letterCount args globalId isInt globalNonnegative iterNonnegative split
    exact private_inBounds (fits_of_signed isInt globalNonnegative iterNonnegative split) globalId
  · intro letterCount targetHash launch memory state room run item
    have inBounds := inBounds_of_run room run
    exact ⟨inBounds.not_faulted item, fun _ => inBounds.spelled,
      fun _ advances => (inBounds.advance advances).2⟩

/-- A host index with its sign bit set, and a run of two work items. -/
theorem kernel_inBounds_bothMatch :
    PrivateInBounds 3 ⟨260#64, 1#32, 0x80000000#32, 1#32⟩ 5#32 ∧
      bothMatchRun.current.phase 1 ≠ .faulted .outOfBounds := by
  have run : ReflTransGen bothMatch.Step (State.enqueue ⟨0#32, ['\x00']⟩) bothMatchRun.current :=
    runSchedule_reachable [0, 1, 1, 1, 1, 0] _
  obtain ⟨privately, shared⟩ := kernel_inBounds
  exact ⟨privately 3 _ 5#32 (by decide) (by decide) (by decide) (by decide),
    (shared 1 260#64 bothMatch ⟨0#32, ['\x00']⟩ _ rfl run 1).1 .outOfBounds⟩

end OpenClHash.Device
