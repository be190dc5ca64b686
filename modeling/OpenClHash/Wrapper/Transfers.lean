import OpenClHash.Wrapper.Launches
import OpenClHash.Wrapper.Resources

/-!
Owns the ranges that `read_buffer` and `write_buffer` let through. Both compare the size of
a transfer with the size of the buffer, which stays what `allocate` was asked for, and pass
the offset on unseen.
-/

namespace OpenClHash.Wrapper

open OpenClHash.Sizing OpenClHash.Library.Fallible

/-! ### Transfers -/

/-- What a caller asks of a buffer: a range of it, or all of it. -/
inductive Transfer where
  | read (offset size : BitVec 64)
  | readWhole
  | write (offset size : BitVec 64) (source : List (BitVec 8))
  | writeWhole (source : List (BitVec 8))
  | zerosFloat

namespace Transfer

def perform (driver : Driver) (slot : Fin 32) (blocking : Bool) : Transfer → Cl Unit
  | .read offset size => readBuffer driver slot offset size blocking
  | .readWhole => Wrapper.readWhole driver slot blocking
  | .write offset size source => writeBuffer driver slot offset size source blocking
  | .writeWhole source => Wrapper.writeWhole driver slot source blocking
  | .zerosFloat => Wrapper.zerosFloat driver slot blocking

/-- The first byte of the range. -/
def offset : Transfer → BitVec 64
  | .read offset _ | .write offset _ _ => offset
  | .readWhole | .writeWhole _ | .zerosFloat => 0#64

/-- The length of the range in a buffer of `allocated` bytes. -/
def size (allocated : BitVec 64) : Transfer → BitVec 64
  | .read _ size | .write _ size _ => size
  | .readWhole | .writeWhole _ | .zerosFloat => allocated

/-- The message for a transfer that is refused. -/
def tooMuch : Transfer → String
  | .read _ _ | .readWhole => "Tried to read more then is allocated"
  | .write _ _ _ | .writeWhole _ | .zerosFloat => "Tried to write more then is allocated"

/-- The range ends inside the allocated bytes, without wrapping. -/
def Inside (allocated : BitVec 64) (transfer : Transfer) : Prop :=
  transfer.offset.toNat + (transfer.size allocated).toNat ≤ allocated.toNat

instance (allocated : BitVec 64) (transfer : Transfer) : Decidable (transfer.Inside allocated) :=
  inferInstanceAs (Decidable (_ ≤ _))

end Transfer

/-- The commands that copy between a buffer and the memory of the host. -/
def ClCall.isTransfer : ClCall → Bool
  | .enqueueReadBuffer _ _ _ _ _ | .enqueueWriteBuffer _ _ _ _ _ _ => true
  | _ => false

def Event.transfer : Event → Option ClCall
  | .call clCall _ _ => if clCall.isTransfer then some clCall else none
  | _ => none

/-- The transfers in a record. -/
def transfers (log : List Event) : List ClCall := log.filterMap Event.transfer

theorem transfers_tornDown (driver : Driver) (state : State) :
    transfers (state.tornDown driver).log = transfers state.log := by
  refine filterMap_tornDown ?_ ?_ driver state
  · rfl
  · intro call status releases
    cases call <;> first | rfl | exact absurd rfl releases

/-- A transfer that was issued is in the record. -/
theorem transfers_afterCall (driver : Driver) (state : State) {call : ClCall}
    (isTransfer : call.isTransfer = true) (failed : String) :
    transfers (endLog (afterCall driver call failed state)) = call :: transfers state.log := by
  have issued : transfers (state.issued driver call).log = call :: transfers state.log :=
    List.filterMap_cons_some (if_pos isTransfer)
  unfold afterCall
  split
  · exact issued
  · exact (transfers_tornDown driver _).trans issued

/-! ### Bounds -/

section Bounds

variable (driver : Driver) (slot : Fin 32) (blocking : Bool) (transfer : Transfer) (state : State)

/-- A transfer is enqueued only if its range lies inside the allocated bytes, and a range
that does not is refused before anything is enqueued. -/
structure StaysInside (allocated : BitVec 64) : Prop where
  enqueued : transfers (endLog ((transfer.perform driver slot blocking).run state)) ≠
    transfers state.log → transfer.Inside allocated
  refused : ¬ transfer.Inside allocated → (transfer.perform driver slot blocking).run state =
    .error (.runtimeError transfer.tooMuch) (state.tornDown driver)

variable {state}

theorem run_readBuffer (inBounds : state.InBounds) (initialized : state.initialized = true)
    (offset size : BitVec 64) :
    (readBuffer driver slot offset size blocking).run state =
      if size ≤ (state.allocations slot).size then
        afterCall driver (.enqueueReadBuffer state.clcommandQueue (state.allocations slot).handle
          blocking offset size) "Error in read buffer" state
      else .error (.runtimeError "Tried to read more then is allocated")
        (state.tornDown driver) := by
  unfold readBuffer
  rw [run_transfer driver inBounds, if_pos initialized]

theorem run_writeBuffer (inBounds : state.InBounds) (initialized : state.initialized = true)
    (offset size : BitVec 64) (source : List (BitVec 8)) :
    (writeBuffer driver slot offset size source blocking).run state =
      if size ≤ (state.allocations slot).size then
        afterCall driver (.enqueueWriteBuffer state.clcommandQueue (state.allocations slot).handle
          blocking offset size source) "Error in write buffer" state
      else .error (.runtimeError "Tried to write more then is allocated")
        (state.tornDown driver) := by
  unfold writeBuffer
  rw [run_transfer driver inBounds, if_pos initialized]

/-- The only check on a range is the one of its size. -/
theorem Transfer.run_perform (inBounds : state.InBounds) (initialized : state.initialized = true) :
    ∃ (call : ClCall) (failed : String), call.isTransfer = true ∧
      (transfer.perform driver slot blocking).run state =
        if transfer.size (state.allocations slot).size ≤ (state.allocations slot).size then
          afterCall driver call failed state
        else .error (.runtimeError transfer.tooMuch) (state.tornDown driver) := by
  have reads := run_readBuffer driver slot blocking inBounds initialized
  have writes := run_writeBuffer driver slot blocking inBounds initialized
  cases transfer with
  | read offset size => exact ⟨_, _, rfl, reads offset size⟩
  | readWhole =>
      refine ⟨_, _, ?_, (run_readWhole driver slot blocking state).trans (reads _ _)⟩
      rfl
  | write offset size source => exact ⟨_, _, rfl, writes offset size source⟩
  | writeWhole source =>
      refine ⟨_, _, ?_, (run_writeWhole driver slot source blocking state).trans (writes _ _ _)⟩
      rfl
  | zerosFloat =>
      refine ⟨_, _, ?_, (run_zerosFloat driver slot blocking state).trans (writes _ _ _)⟩
      rfl

theorem staysInside_iff (inBounds : state.InBounds) (initialized : state.initialized = true) :
    StaysInside driver slot blocking transfer state (state.allocations slot).size ↔
      (state.allocations slot).size < transfer.size (state.allocations slot).size ∨
        transfer.Inside (state.allocations slot).size := by
  obtain ⟨call, failed, isTransfer, ran⟩ :=
    transfer.run_perform driver slot blocking inBounds initialized
  generalize (state.allocations slot).size = allocated at ran ⊢
  constructor
  · intro stays
    by_cases fits : transfer.size allocated ≤ allocated
    · right
      apply stays.enqueued
      rw [ran, if_pos fits, transfers_afterCall driver state isTransfer]
      exact List.cons_ne_self _ _
    · exact .inl (BitVec.not_le.mp fits)
  · intro within
    rcases within with larger | inside
    · rw [if_neg (BitVec.not_le.mpr larger)] at ran
      refine ⟨?_, fun _ => ran⟩
      intro changed
      rw [ran] at changed
      exact absurd (transfers_tornDown driver state) changed
    · exact ⟨fun _ => inside, fun outside => absurd inside outside⟩

end Bounds

/-! ### Allocated buffers -/

/-- In a session of `driver`, `allocate` returned this buffer for `allocated` bytes, and
`session` is where a caller got from there. -/
def Allocated (driver : Driver) (session : Session) (slot : Fin 32) (allocated : BitVec 64) :
    Prop :=
  ∃ (garbage : Garbage) (earlier later : List Op) (before : Session) (flags : BitVec 64)
    (after : State), (Session.start garbage).run driver earlier = some before ∧
      (allocate driver flags allocated).run before.context = .ok slot after ∧
      (before.returned (.buffer slot) after).run driver later = some session

section Allocations

variable {driver : Driver} {state after : State} {session : Session} {slot : Fin 32}
  {flags allocated : BitVec 64}

/-- What a successful `allocate` leaves: a taken slot of that size in an initialized context. -/
theorem allocate_ok (inBounds : state.InBounds)
    (ran : (allocate driver flags allocated).run state = .ok slot after) :
    after.initialized = true ∧ slot.val < after.allocationCount ∧
      (after.allocations slot).size = allocated := by
  obtain ⟨marked, next, rfl⟩ := allocate_returned driver inBounds ran
  refine ⟨marked, Nat.lt_succ_of_le (Nat.le_of_eq next), ?_⟩
  show (Function.update state.allocations slot _ slot).size = allocated
  rw [Function.update_self]

/-- The recorded size and the mark of `init` survive whatever a caller does. -/
theorem Allocated.recorded (returned : Allocated driver session slot allocated) :
    session.context.InBounds ∧ session.context.initialized = true ∧
      (session.context.allocations slot).size = allocated := by
  rcases returned with ⟨garbage, earlier, later, before, flags, after, reached, ran, resumed⟩
  have validBefore := Session.run_valid (Session.valid_start garbage) reached
  have stepped : before.step driver (.allocate flags allocated) =
      some (before.returned (.buffer slot) after) := by
    have performed : ((Op.allocate flags allocated).perform driver).run before.context =
        .ok (.buffer slot) after := by
      rw [Op.perform, run_map, ran]
    rw [Session.step, if_pos ⟨nofun, nofun⟩, performed]
  have valid := Session.step_valid validBefore stepped
  obtain ⟨initialized, taken, size⟩ := allocate_ok validBefore.context.toInBounds ran
  have grown : Extends after session.context :=
    Session.run_preserves (fun _ _ _ longer effect => longer.trans effect.extends) valid
      (Extends.refl after) resumed
  exact ⟨(Session.run_valid valid resumed).context.toInBounds, grown.initialized initialized,
    (grown.size slot taken).trans size⟩

/-- The buffers that a caller has are those that `allocate` returned. -/
theorem exists_allocated {garbage : Garbage} {earlier later : List Op} {before : Session}
    (reached : (Session.start garbage).run driver earlier = some before)
    (resumed : before.run driver later = some session) (member : slot ∈ session.buffers) :
    slot ∈ before.buffers ∨ ∃ allocated, Allocated driver session slot allocated := by
  induction later generalizing before earlier with
  | nil =>
      cases resumed
      exact .inl member
  | cons op rest inductionHypothesis =>
      obtain ⟨next, stepped, resumedNext⟩ := Session.run_cases resumed
      have reachedNext : (Session.start garbage).run driver (earlier ++ [op]) = some next := by
        rw [Session.run_append, reached]
        show (before.step driver op).bind some = some next
        rw [stepped, Option.bind_some]
      rcases inductionHypothesis reachedNext resumedNext with now | allocated
      · rcases (Session.step_cases stepped).2 with ⟨value, context, ran, rfl⟩ | ⟨_, _, _, rfl⟩
        · cases value with
          | nothing | kernel _ => exact .inl now
          | buffer returned =>
              rcases List.mem_cons.mp now with rfl | before
              · obtain ⟨flags, allocated, ran⟩ := perform_from ran
                exact .inr ⟨allocated, garbage, earlier, rest, _, flags, context, reached, ran,
                  resumedNext⟩
              · exact .inl before
        · exact .inl now
      · exact .inr allocated

end Allocations

/-- A transfer stays inside its buffer exactly if its size alone is refused or its true end
lies inside, as it does for the whole-buffer overloads and for `zeros_float`. -/
theorem transfers_inside_iff {driver : Driver} {session : Session} {slot : Fin 32}
    {allocated : BitVec 64} (returned : Allocated driver session slot allocated)
    (transfer : Transfer) (blocking : Bool) :
    StaysInside driver slot blocking transfer session.context allocated ↔
      allocated < transfer.size allocated ∨ transfer.Inside allocated := by
  obtain ⟨inBounds, initialized, rfl⟩ := returned.recorded
  exact staysInside_iff driver slot blocking transfer inBounds initialized

/-- A buffer of a session of `init` and `allocate`, once it is evaluated. -/
theorem exists_buffer (size : BitVec 64)
    (evaluated : ((Session.start (.filled 0)).run (.succeeding (squareDevice 1024#64))
      [.init, .allocate 1#64 size]).map (fun session =>
        ((session.context.allocations 0).size, session.buffers)) = some (size, [0])) :
    ∃ session, Allocated (.succeeding (squareDevice 1024#64)) session 0 size := by
  obtain ⟨session, ran, known⟩ := Option.map_eq_some_iff.mp evaluated
  obtain ⟨recordedSize, buffers⟩ := Prod.mk.inj known
  have member : 0 ∈ session.buffers := buffers ▸ List.mem_cons_self
  have start : (Session.start (.filled 0)).run (.succeeding (squareDevice 1024#64)) [] =
      some (.start (.filled 0)) := rfl
  rcases exists_allocated start ran member with none | ⟨allocated, returned⟩
  · cases none
  · obtain ⟨_, _, recorded⟩ := returned.recorded
    rw [recordedSize] at recorded
    exact ⟨session, recorded ▸ returned⟩

/-- A buffer of 9 bytes, like the one that `main` allocates. -/
theorem exists_nineBytes :
    ∃ session, Allocated (.succeeding (squareDevice 1024#64)) session 0 9#64 :=
  exists_buffer 9#64 (by decide +kernel)

/-- Nine bytes from byte 1 on are enqueued to be read. -/
theorem transfers_reach_beyond :
    ¬ ∀ (driver : Driver) (session : Session) (slot : Fin 32) (allocated : BitVec 64)
      (transfer : Transfer) (blocking : Bool), Allocated driver session slot allocated →
      StaysInside driver slot blocking transfer session.context allocated := by
  intro always
  obtain ⟨session, returned⟩ := exists_nineBytes
  have stays := always _ session 0 9#64 (.read 1#64 9#64) true returned
  obtain ⟨inBounds, initialized, size⟩ := returned.recorded
  have within := (staysInside_iff _ _ _ _ inBounds initialized).mp (size.symm ▸ stays)
  rw [size] at within
  exact absurd within (by decide)

theorem transfers_inside_zeros :
    ∃ session, StaysInside (.succeeding (squareDevice 1024#64)) 0 true .zerosFloat
      (Session.context session) 9#64 := by
  obtain ⟨session, returned⟩ := exists_nineBytes
  exact ⟨session, (transfers_inside_iff returned .zerosFloat true).mpr (.inr (by decide))⟩

end OpenClHash.Wrapper
