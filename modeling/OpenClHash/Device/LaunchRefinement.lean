import OpenClHash.Device.Launch
import OpenClHash.Library.Publication

/-!
Owns the refinement of a launch by single-winner publication: a work item's record is
the first word of its share that hashes to the target, and each of its steps is a step
of the publication protocol. No work item ever faults.
-/

namespace OpenClHash.Device

open OpenClHash.Kernel OpenClHash.Library

namespace Launch

variable {letterCount : Nat} {targetHash : BitVec 64} (launch : Launch letterCount targetHash)

theorem args_fits : Fits letterCount launch.args := launch.fits

/-! ### What a work item reports -/

/-- The digits a work item examines in iteration `i`. -/
def examined (item i : Nat) : List (Fin 16) :=
  examinedDigits letterCount launch.args (BitVec.ofNat 32 item) i

/-- The first word, in index order, that a work item finds to hash to the target. -/
def offer (item : Nat) : Option (List Char) :=
  ((List.range (combinations launch.args).toNat).find? fun i =>
    digitHash 7#64 (launch.examined item i) = targetHash).map fun i =>
      spell (launch.examined item i)

theorem search_eq_offer (item : Nat) :
    search letterCount launch.args (BitVec.ofNat 32 item) =
      .ok ((launch.offer item).map fun word => word.map some) := by
  rw [search_eq _ launch.args_fits, offer, Option.map_map]
  rfl

theorem offer_isWord {item : Nat} {word : List Char} (offers : launch.offer item = some word) :
    IsWord letterCount word ∧ wordHash word = .ok targetHash := by
  obtain ⟨i, found, rfl⟩ := Option.map_eq_some_iff.mp offers
  have length : (launch.examined item i).length = letterCount :=
    examinedDigits_length _ launch.args_fits i
  have hit := List.find?_some found
  rw [decide_eq_true_eq] at hit
  constructor
  · have isWord := isWord_spell (launch.examined item i)
    rwa [length] at isWord
  · rw [wordHash_spell, hit]

theorem offer_eq_none_iff (item : Nat) :
    launch.offer item = none ↔
      ∀ i < (combinations launch.args).toNat,
        digitHash 7#64 (launch.examined item i) ≠ targetHash := by
  simp [offer]

/-! ### The abstraction -/

end Launch

/-- The protocol phase of a work item. -/
def Phase.abstract : Phase → Publication.Phase
  | .searching => .idle
  | .reporting _ => .racing
  | .copying _ i => .copying i
  | .finished => .done
  | .faulted _ => .done

/-- The protocol state of a launch. -/
def State.abstract (state : State) : Publication.State Nat Char where
  flag := state.memory.foundFlag = 1#32
  cells := state.memory.target
  phase := Phase.abstract ∘ state.phase
  writers := state.writers

theorem State.abstract_goto (state : State) (item : Nat) (phase : Phase) :
    (state.goto item phase).abstract =
      { state.abstract with
        phase := Function.update state.abstract.phase item phase.abstract } := by
  simp only [State.abstract, State.goto, Function.comp_update]
  rfl

section Refinement

variable {letterCount : Nat} {targetHash : BitVec 64} (launch : Launch letterCount targetHash)

/-- The private array of a work item past its search holds its record. -/
def PhaseHolds (item : Nat) : Phase → Prop
  | .searching => True
  | .reporting data => ∃ word, launch.offer item = some word ∧ data = word.map some
  | .copying data _ => ∃ word, launch.offer item = some word ∧ data = word.map some
  | .finished => True
  | .faulted _ => False

/-- What every state of a launch satisfies beside the protocol invariant. -/
structure WellFormed (state : State) : Prop where
  flag : state.memory.foundFlag = 0#32 ∨ state.memory.foundFlag = 1#32
  room : state.memory.target.length = letterCount
  holds : ∀ item, PhaseHolds launch item (state.phase item)
  outside : ∀ item, launch.workItems ≤ item → state.phase item = .searching

variable {launch} {state : State}

variable (launch) in
theorem wellFormed_enqueue {memory : Memory} (down : memory.foundFlag = 0#32)
    (room : memory.target.length = letterCount) :
    WellFormed launch (State.enqueue memory) where
  flag := Or.inl down
  room := room
  holds := fun _ => trivial
  outside := fun _ _ => rfl

theorem WellFormed.goto (wellFormed : WellFormed launch state) {item : Nat}
    (inside : item < launch.workItems) {phase : Phase} (holds : PhaseHolds launch item phase) :
    WellFormed launch (state.goto item phase) where
  flag := wellFormed.flag
  room := wellFormed.room
  holds := (Function.forall_update_iff _ (PhaseHolds launch)).mpr
    ⟨holds, fun other _ => wellFormed.holds other⟩
  outside := by
    intro other beyond
    change Function.update state.phase item phase other = .searching
    rw [Function.update_of_ne (by omega)]
    exact wellFormed.outside other beyond

theorem WellFormed.raise (wellFormed : WellFormed launch state) :
    WellFormed launch
      { state with memory := { state.memory with foundFlag := 1#32 } } where
  flag := Or.inr rfl
  room := wellFormed.room
  holds := wellFormed.holds
  outside := wellFormed.outside

theorem WellFormed.abstract_phase (item : Nat) :
    state.abstract.phase item = (state.phase item).abstract := rfl

theorem load_map_some {word : List Char} {i : Nat} (small : word.length < 2 ^ 32)
    (below : i < word.length) :
    load (word.map some) (BitVec.ofNat 32 i) = .ok word[i] := by
  have index : (BitVec.ofNat 32 i).toNat = i := by
    rw [BitVec.toNat_ofNat, Nat.mod_eq_of_lt (by omega)]
  simp [load, index, below]

/-- Over a target buffer of one word, the report loop copies a letter of the record. -/
theorem copyLetter_eq {item i : Nat} {word : List Char}
    (offers : launch.offer item = some word) (room : state.memory.target.length = letterCount)
    (inWord : i < word.length) :
    Launch.copyLetter item (word.map some) i state =
      { memory := { state.memory with target := state.memory.target.set i word[i] }
        phase := Function.update state.phase item (.copying (word.map some) (i + 1))
        writers := item :: state.writers } := by
  have isInt := launch.fits.isInt
  have length := (launch.offer_isWord offers).1.1
  have inTarget : i < state.memory.target.length := by omega
  simp only [Launch.copyLetter, load_map_some (by omega : word.length < 2 ^ 32) inWord,
    if_pos inTarget]

/-- Every step of a launch is a step of the protocol and keeps the launch well formed. -/
theorem advance_refines (wellFormed : WellFormed launch state) {item : Nat} {next : State}
    (advances : launch.advance item state = some next) :
    Publication.Step launch.offer state.abstract next.abstract ∧ WellFormed launch next := by
  have holds := wellFormed.holds item
  obtain ⟨inside, step⟩ := launch.advance_cases advances
  have abstractPhase {phase : Phase} (same : state.phase item = phase) :
      state.abstract.phase item = phase.abstract := by
    rw [WellFormed.abstract_phase, same]
  cases step with
  | find phase found =>
      rw [launch.search_eq_offer, Except.ok.injEq] at found
      obtain ⟨word, offers, rfl⟩ := Option.map_eq_some_iff.mp found
      rw [State.abstract_goto]
      exact ⟨.enter (abstractPhase phase) offers, wellFormed.goto inside ⟨word, offers, rfl⟩⟩
  | giveUp phase found =>
      rw [launch.search_eq_offer, Except.ok.injEq, Option.map_eq_none_iff] at found
      rw [State.abstract_goto]
      exact ⟨.withdraw (abstractPhase phase) found, wellFormed.goto inside trivial⟩
  | fault phase failed =>
      rw [launch.search_eq_offer] at failed
      cases failed
  | win phase down =>
      rw [phase] at holds
      rw [State.abstract_goto]
      exact ⟨.win (abstractPhase phase) (by simp [State.abstract, down]),
        wellFormed.raise.goto inside holds⟩
  | lose phase up =>
      have raised := wellFormed.flag.resolve_left up
      rw [State.abstract_goto]
      exact ⟨.lose (abstractPhase phase) (by simp [State.abstract, raised]),
        wellFormed.goto inside trivial⟩
  | @copy data i phase below =>
      rw [phase] at holds
      rcases holds with ⟨word, offers, rfl⟩
      have length := (launch.offer_isWord offers).1.1
      have inWord : i < word.length := by omega
      rw [copyLetter_eq offers wellFormed.room inWord]
      constructor
      · have step := Publication.Step.write (abstractPhase phase) offers
          (List.getElem?_eq_getElem inWord)
        simpa only [State.abstract, Function.comp_update, Phase.abstract] using step
      · have moved : WellFormed launch (state.goto item (.copying (word.map some) (i + 1))) :=
          wellFormed.goto inside ⟨word, offers, rfl⟩
        exact ⟨moved.flag, by simpa using wellFormed.room, moved.holds, moved.outside⟩
  | finish phase complete =>
      rw [phase] at holds
      rcases holds with ⟨word, offers, rfl⟩
      have length := (launch.offer_isWord offers).1.1
      rw [State.abstract_goto]
      exact ⟨.finish (abstractPhase phase) offers (by omega), wellFormed.goto inside trivial⟩

/-- A work item that has not run to completion has a next step. -/
theorem exists_advance (wellFormed : WellFormed launch state) {item : Nat}
    (inside : item < launch.workItems) (unfinished : state.phase item ≠ .finished) :
    ∃ next, launch.advance item state = some next := by
  have holds := wellFormed.holds item
  simp only [Launch.advance, if_pos inside]
  cases phase : state.phase item with
  | searching =>
      rw [launch.search_eq_offer]
      cases launch.offer item with
      | none => exact ⟨_, rfl⟩
      | some word => exact ⟨_, rfl⟩
  | reporting data =>
      dsimp only
      split <;> exact ⟨_, rfl⟩
  | copying data i =>
      dsimp only
      split <;> exact ⟨_, rfl⟩
  | finished => exact absurd phase unfinished
  | faulted fault =>
      rw [phase] at holds
      exact holds.elim

end Refinement

end OpenClHash.Device
