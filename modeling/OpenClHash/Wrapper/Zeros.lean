import OpenClHash.Library.Deferral
import OpenClHash.Wrapper.Transfers

/-!
Owns `zeros_float`: its vector holds as many zeros as whole floats fit in the buffer and is
gone when the call returns, and the transfer copies as many bytes as the buffer has when the
queue of the context gets to it.
-/

namespace OpenClHash.Wrapper

open OpenClHash.Sizing OpenClHash.Library OpenClHash.Library.Fallible

/-! ### The command queue -/

namespace Event

/-- What the device does later. -/
def queued : Event → Bool
  | .call (.enqueueReadBuffer _ _ _ _ _) _ _ | .call (.enqueueWriteBuffer _ _ _ _ _ _) _ _
  | .call (.enqueueNDRangeKernel _ _ _ _ _) _ _ | .call (.releaseMemObject _) _ _ => true
  | _ => false

/-- A call that returns when the queue is empty. -/
def waits : Event → Bool
  | .call (.enqueueReadBuffer _ _ blocking _ _) status _
  | .call (.enqueueWriteBuffer _ _ blocking _ _ _) status _ => blocking && decide (status = 0#32)
  | .call (.finish _) status _ => decide (status = 0#32)
  | _ => false

end Event

/-- The queue of a context. -/
def commandQueue : Deferral.Discipline Event where
  queued := Event.queued
  waits := Event.waits

/-! ### What a transfer copies -/

/-- The memory at a pointer to a vector: its bytes while it lives, and whatever is there behind
them or later. -/
def hostMemory (source : List (BitVec 8)) (lives : Bool) (other : Nat → BitVec 8) (i : Nat) :
    BitVec 8 :=
  if lives then source.getD i (other i) else other i

/-- A buffer after a transfer of `size` bytes of `memory` to its `offset`. -/
def written (memory buffer : Nat → BitVec 8) (offset size i : Nat) : BitVec 8 :=
  if offset ≤ i ∧ i < offset + size then memory (i - offset) else buffer i

/-- The transfer reads nothing but the vector, and clears a buffer of `length` bytes whatever
the buffer and other memory held. -/
structure Clears (source : List (BitVec 8)) (lives : Bool) (offset size length : Nat) : Prop where
  inside : size ≤ if lives then source.length else 0
  zero : ∀ other buffer i, i < length →
    written (hostMemory source lives other) buffer offset size i = 0#8

theorem clears_replicate_iff {zeros length : Nat} {lives : Bool} :
    Clears (List.replicate zeros 0#8) lives 0 length length ↔
      length ≤ if lives then zeros else 0 := by
  constructor
  · intro clears
    simpa using clears.inside
  · intro enough
    refine ⟨by simpa using enough, ?_⟩
    intro other buffer i below
    cases lives with
    | false => exact absurd (below.trans_le enough) (Nat.not_lt_zero i)
    | true =>
        have copied : 0 ≤ i ∧ i < 0 + length := by omega
        have inside : i < zeros := below.trans_le enough
        rw [written, if_pos copied, hostMemory, if_pos rfl, List.getD_eq_getElem?_getD,
          List.getElem?_replicate_of_lt (by omega)]
        rfl

/-! ### The transfer of `zeros_float` -/

/-- When the device may copy a write that ends the record: while the vector lives, and after the
call if the write can still be queued then. -/
def MayCopy (log : List Event) (lives : Bool) : Prop :=
  lives = true ∨ ∃ backlog, commandQueue.Pending log backlog ∧ log ∈ backlog

/-- What is promised of a call of `zeros_float` that returned: its transfer clears the buffer of
`allocated` bytes from memory that it owns, whenever the device copies. -/
def ClearsBuffer (allocated : BitVec 64) (slot : Fin 32) (before after : State) : Prop :=
  ∃ blocking offset size source,
    after.log = .call (.enqueueWriteBuffer before.clcommandQueue (before.allocations slot).handle
      blocking offset size source) 0#32 .null :: before.log ∧
    ∀ lives, MayCopy after.log lives → Clears source lives offset.toNat size.toNat allocated.toNat

section Buffer

variable {driver : Driver} {state after : State} {slot : Fin 32} {blocking : Bool} {value : Unit}

/-- What a call that returned left in the record. -/
theorem zerosFloat_log (inBounds : state.InBounds)
    (ran : (zerosFloat driver slot blocking).run state = .ok value after) :
    after.log = .call (.enqueueWriteBuffer state.clcommandQueue (state.allocations slot).handle
      blocking 0#64 (state.allocations slot).size
      (List.replicate (4 * ((state.allocations slot).size.toNat / 4)) 0#8)) 0#32 .null ::
        state.log := by
  rw [run_zerosFloat] at ran
  obtain ⟨success, _, rfl⟩ := transfer_returned _ inBounds ran
  show Event.call _ (driver.status state.log.length) .null :: state.log = _
  rw [success]

/-- The write can be queued when the call returns unless the call waited. -/
theorem mayCopy_write_iff {older : List Event} {queue buffer : Handle} {offset size : BitVec 64}
    {source : List (BitVec 8)} {lives : Bool} :
    MayCopy (.call (.enqueueWriteBuffer queue buffer blocking offset size source) 0#32 .null ::
      older) lives ↔ lives = true ∨ blocking = false := by
  refine or_congr_right ?_
  rw [Deferral.exists_pending_iff, Deferral.goesOn_self_iff]
  simp [commandQueue, Event.queued, Event.waits]

theorem clearsBuffer_iff (inBounds : state.InBounds)
    (ran : (zerosFloat driver slot blocking).run state = .ok value after) :
    ClearsBuffer (state.allocations slot).size slot state after ↔
      (state.allocations slot).size = 0#64 ∨
        4 ∣ (state.allocations slot).size.toNat ∧ blocking = true := by
  have log := zerosFloat_log inBounds ran
  have promised : ClearsBuffer (state.allocations slot).size slot state after ↔
      ∀ lives, lives = true ∨ blocking = false → (state.allocations slot).size.toNat ≤
        if lives then 4 * ((state.allocations slot).size.toNat / 4) else 0 := by
    constructor
    · intro promised lives copies
      obtain ⟨_, _, _, _, same, clears⟩ := promised
      cases same.symm.trans log
      rw [log] at clears
      exact clears_replicate_iff.mp (clears lives (mayCopy_write_iff.mpr copies))
    · intro enough
      refine ⟨_, _, _, _, log, ?_⟩
      intro lives copies
      rw [log, mayCopy_write_iff] at copies
      exact clears_replicate_iff.mpr (enough lives copies)
  rw [promised, ← BitVec.toNat_inj]
  cases blocking <;> simp <;> omega

end Buffer

/-- It does so exactly on buffers of whole floats and if it waits. -/
theorem zerosFloat_clears_iff {driver : Driver} {session : Session} {slot : Fin 32}
    {allocated : BitVec 64} {blocking : Bool} {value : Unit} {after : State}
    (returned : Allocated driver session slot allocated)
    (ran : (zerosFloat driver slot blocking).run session.context = .ok value after) :
    ClearsBuffer allocated slot session.context after ↔
      allocated = 0#64 ∨ 4 ∣ allocated.toNat ∧ blocking = true := by
  obtain ⟨inBounds, _, rfl⟩ := returned.recorded
  exact clearsBuffer_iff inBounds ran

/-- A call that OpenCL accepts returns. -/
theorem zerosFloat_accepted (driver : Driver) {state : State} (inBounds : state.InBounds)
    (initialized : state.initialized = true) (success : driver.status state.log.length = 0#32)
    (slot : Fin 32) (blocking : Bool) :
    ∃ after, (zerosFloat driver slot blocking).run state = .ok () after := by
  rw [run_zerosFloat, run_writeBuffer driver slot blocking inBounds initialized,
    if_pos (BitVec.le_refl _), afterCall, if_pos success]
  exact ⟨_, rfl⟩

/-- Of the 9 bytes of the buffer that `main` allocates 8 come from the vector. -/
theorem zerosFloat_reads_beyond :
    ¬ ∀ (driver : Driver) (session : Session) (slot : Fin 32) (allocated : BitVec 64)
      (blocking : Bool) (after : State), Allocated driver session slot allocated →
      (zerosFloat driver slot blocking).run session.context = .ok () after →
      ClearsBuffer allocated slot session.context after := by
  intro clears
  obtain ⟨session, returned⟩ := exists_nineBytes
  obtain ⟨inBounds, initialized, size⟩ := returned.recorded
  obtain ⟨after, ran⟩ := zerosFloat_accepted (.succeeding (squareDevice 1024#64)) inBounds
    initialized rfl 0 true
  have cleared := clears _ _ _ _ true after returned ran
  rw [← size, clearsBuffer_iff inBounds ran, size] at cleared
  exact absurd cleared (by decide)

theorem zerosFloat_clears_two :
    ∃ session after, ClearsBuffer 8#64 0 (Session.context session) after := by
  obtain ⟨session, returned⟩ := exists_buffer 8#64 (by decide +kernel)
  obtain ⟨inBounds, initialized, _⟩ := returned.recorded
  obtain ⟨after, ran⟩ := zerosFloat_accepted (.succeeding (squareDevice 1024#64)) inBounds
    initialized rfl 0 true
  exact ⟨session, after, (zerosFloat_clears_iff returned ran).mpr (.inr (by decide))⟩

/-! ### After the call -/

end OpenClHash.Wrapper
