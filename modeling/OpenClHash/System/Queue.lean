import OpenClHash.Library.Deferral
import OpenClHash.System.Store

/-!
Owns the command queue between the host and the device. A transfer, a launch and the end of a
memory object wait in the queue until the device gets to them, in the order of their calls; a
launch runs the kernel with the arguments it was enqueued with, and a write copies what its host
memory holds then, which the platform tells. Everything else happens at the call. A blocking
transfer and `clFinish` return when the queue is empty.

The record replayed at once is what any such queue amounts to, whenever it catches up.
-/

namespace OpenClHash.System

open OpenClHash.Host OpenClHash.Wrapper
open OpenClHash.Library OpenClHash.Library.Regions OpenClHash.Library.Fallible Relation

/-! ### The queue -/

/-- A command of the queue, with the record and the kernels at the time of its call. -/
structure Command where
  event : Event
  older : List Event
  kernels : Handle → Option Nat

def Objects.withKernels (kernels : Handle → Option Nat) (objects : Objects) : Objects :=
  { objects with kernels := kernels }

/-- The device performs a command. -/
def Platform.performLater (platform : Platform) (command : Command) (objects : Objects) :
    Option Objects :=
  (platform.happen command.older command.event (objects.withKernels command.kernels)).map
    (Objects.withKernels objects.kernels)

/-- OpenCL with a queue that may lag behind the host. -/
def Platform.queue (platform : Platform) : Deferral.Machine Objects Event Command where
  toDiscipline := commandQueue
  start := {}
  happen := platform.happen
  capture := fun older event objects =>
    { event := event, older := older, kernels := objects.kernels }
  perform := platform.performLater

/-- The objects after a record of which `pending` is still queued. -/
abbrev Lags (platform : Platform) (log : List Event) (objects : Objects)
    (pending : List Command) : Prop :=
  platform.queue.Lags log objects pending

section Commands

variable {platform : Platform} {older : List Event} {event : Event} {objects next other : Objects}

/-- The objects with the buffers that a command touches, and the launches, as `next` has them. -/
def Objects.moved (touched : List Handle) (next objects : Objects) : Objects :=
  { objects with
    buffers := fun handle => if handle ∈ touched then next.buffers handle else
      objects.buffers handle
    launches := next.launches }

/-- The buffer that a call creates. -/
def Event.makes : Event → Option Handle
  | .call (.createBuffer _ _ _) status result => if status = 0#32 then some result else none
  | _ => none

end Commands

/-! ### New buffers -/

/-- The buffer that a call gives back. -/
def Event.ends : Event → Option Handle
  | .call (.releaseMemObject buffer) _ _ => some buffer
  | _ => none

section Lawful

variable {platform : Platform} {older newer : List Event} {event later : Event} {objects : Objects}

end Lawful

/-! ### Records of a session -/

section Sessions

variable {driver : Driver} {platform : Platform} {state next : Wrapper.State}

variable {garbage : Garbage} {ops : List Op} {session : Session}

namespace Op

end Op

variable {log : List Event} {objects caught : Objects} {pending : List Command}

end Sessions

end OpenClHash.System
