import OpenClHash.Host.Main
import OpenClHash.System.Objects
import OpenClHash.Wrapper.Transfers

/-!
Owns `main` of `Main_cl.cpp` as a program over the wrapper: its calls in their order, the bytes
that its blocking reads deliver, and what it makes of them. `main` catches no exception, and
`exit` ends it without running the destructor of the context.
-/

namespace OpenClHash.System

open OpenClHash.Kernel OpenClHash.Host OpenClHash.Wrapper OpenClHash.Library.Fallible

/-- What `main` knows when it ends: the launches it made and the string it printed behind
`found: `, if it did. -/
structure Report where
  launches : Nat
  found : Option (List Char)
deriving DecidableEq, Repr

def sourceFile : String := "src/kernel/open_cl_kernel.cl"

/-- `-D LETTER_COUNT=` and the number. -/
def buildOptions (letterCount : Nat) : String := "-D LETTER_COUNT=" ++ toString letterCount

section Program

variable (driver : Driver) (platform : Platform) (split : Split) (targetHash : BitVec 64)

/-- A blocking read of a whole buffer: the bytes it holds once the queue got there. It does not
return if the queue never does. -/
def readBack (slot : Fin 32) : Cl (Option (List (BitVec 8))) := do
  readWhole driver slot true
  let state ← get
  return (platform.after state.log).bind fun objects =>
    (objects.buffers (state.allocations slot).handle).map Buffer.contents

/-- `main` up to its loop. -/
def prepare : Cl Pointers := do
  let size := BitVec.ofNat 64 split.letterCount
  init driver
  let gpuBuf ← allocate driver 2#64 size
  writeBuffer driver gpuBuf 0#64 size (List.replicate (split.letterCount + 1) 0#8) true
  let gpuFlag ← allocate driver 1#64 4#64
  writeBuffer driver gpuFlag 0#64 4#64 (List.replicate 4 0#8) true
  let kernel ← createKernel driver sourceFile (some (buildOptions split.letterCount)) "main"
  return { gpuBuf := gpuBuf, gpuFlag := gpuFlag, kernel := kernel }

/-- The arguments of iteration `i` and its launch. -/
def launchIteration (pointers : Pointers) (i : Nat) : Cl Unit := do
  (pushes split targetHash pointers i).forM fun op => do
    let _ ← op.perform driver
  execute driver pointers.kernel 1#32 [(split.config targetHash).globalWorkSize] (some [256#64])

/-- The loop from iteration `i` with `remaining` iterations to `repeatCnt`. -/
def searchLoop (pointers : Pointers) : Nat → Nat → Cl (Option Report)
  | 0, i => return some { launches := i, found := none }
  | remaining + 1, i => do
      launchIteration driver split targetHash pointers i
      match ← readBack driver platform pointers.gpuFlag with
      | none => return none
      | some cpuFlag =>
          if readInt cpuFlag ≠ 0#32 then
            match ← readBack driver platform pointers.gpuBuf with
            | none => return none
            | some cpuBuf =>
                return some {
                  launches := i + 1
                  found := some (resultString split.letterCount (cpuBuf.map charOf)) }
          else
            searchLoop pointers remaining (i + 1)

/-- `main`. -/
def program : Cl (Option Report) := do
  let pointers ← prepare driver split
  searchLoop driver platform split targetHash pointers (split.config targetHash).repeatCnt.toNat 0

end Program

/-! ### Blocking reads -/

section Reads

variable {driver : Driver} {platform : Platform} {state after : Wrapper.State} {slot : Fin 32}

/-- What a blocking read delivers is what the buffer holds, and it leaves the objects alone. -/
theorem readBack_returned (inBounds : state.InBounds) {objects : Objects} {buffer : Buffer}
    (known : platform.after state.log = some objects)
    (present : objects.buffers (state.allocations slot).handle = some buffer)
    (whole : (state.allocations slot).size.toNat = buffer.size)
    {read : Option (List (BitVec 8))} {next : Wrapper.State}
    (ran : (readBack driver platform slot).run state = .ok read next) :
    next = state.issued driver (.enqueueReadBuffer state.clcommandQueue
        (state.allocations slot).handle true 0#64 (state.allocations slot).size) ∧
      read = some buffer.contents ∧ platform.after next.log = some objects := by
  let call : ClCall := .enqueueReadBuffer state.clcommandQueue (state.allocations slot).handle
    true 0#64 (state.allocations slot).size
  have later : platform.after (state.issued driver call).log = some objects := by
    apply after_call known
    simp only [call, Platform.perform, present, Option.bind_eq_bind, Option.bind_some]
    rw [show (0#64).toNat = 0 from rfl, read_all whole]
    rfl
  have delivered : (platform.after (state.issued driver call).log).bind (fun objects =>
      (objects.buffers (state.allocations slot).handle).map Buffer.contents) =
        some buffer.contents := by
    rw [later, Option.bind_some, present, Option.map_some]
  unfold readBack at ran
  rw [run_bind, run_readWhole] at ran
  cases transferred : (readBuffer driver slot 0#64 (state.allocations slot).size true).run
      state with
  | ok value between =>
      rw [transferred] at ran
      obtain ⟨_, _, rfl⟩ := transfer_returned _ inBounds transferred
      dsimp only at ran
      rw [run_get_bind] at ran
      cases ran
      exact ⟨rfl, delivered, later⟩
  | error failure between =>
      rw [transferred] at ran
      cases ran

end Reads

end OpenClHash.System
