import TwinRing.Direction.Request
import TwinRing.Direction.Role
import TwinRing.Error
/-!
# Directions

What callers and the worker of one direction share: the request slot, two
flags for the worker, and a flag that tells callers of a success. Callers
and worker change it under one mutex, so each of their critical sections
is one function here, from a direction to a direction.
-/

namespace TwinRing

/-- **The shared state of one direction.** -/
structure Direction where
  /-- The side of the ring that its worker drives. -/
  role : Role
  /-- The length of every buffer that it accepts. -/
  elementSize : UInt64
  /-- Something waits for the worker: a request, or the end. -/
  ready : Bool := false
  /-- The direction has been shut down. -/
  exit : Bool := false
  /-- The request slot. -/
  request : Request := .empty
  /-- The last request has finished with an element moved, and its result
  has not been collected. -/
  complete : Bool := false

namespace Direction

/-! ## Sections of the callers -/

/-- **Issue a request.** A buffer of the wrong length is refused at once;
then a shut-down direction refuses everything; then the slot decides. A
request on its way is never replaced. A finished one may be, unless it
holds an element that was read: that element is no longer in the ring. -/
def submit (d : Direction) (buffer : Bytes) : Except ChannelError Unit × Direction :=
  if buffer.length ≠ d.elementSize.toNat then
    (.error (.elementSize d.elementSize.toNat buffer.length), d)
  else if d.exit then (.error .closed, d)
  else if d.request.isOutstanding then (.error .requestPending, d)
  else if d.role = .reader ∧ d.request.holdsElement then (.error .uncollectedResult, d)
  else (.ok (), { d with request := .pending buffer, ready := true, complete := false })

/-- **Collect a finished request**, which frees the slot. -/
def takeFinished (d : Direction) : Option Transfer × Direction :=
  match d.request with
  | .finished result => (some result, { d with request := .empty, complete := false })
  | .empty => (none, d)
  | .pending _ => (none, d)
  | .servicing => (none, d)

/-- **Shut the direction down.** The worker is given a reason to look. -/
def signalExit (d : Direction) : Direction := { d with exit := true, ready := true }

/-! ## Sections of the worker -/

/-- What the worker finds when it looks. -/
inductive Found
  | nothing
  | exit
  | noRequest
  | request (buffer : Bytes)
  deriving DecidableEq

/-- **Look for something to do.** The worker takes its call as answered
before it looks at the shutdown, so that neither hides the other. -/
def pickUp (d : Direction) : Found × Direction :=
  if d.ready then
    let d := { d with ready := false }
    if d.exit then (.exit, d)
    else
      match d.request with
      | .pending buffer => (.request buffer, { d with request := .servicing })
      | .empty => (.noRequest, d)
      | .servicing => (.noRequest, d)
      | .finished _ => (.noRequest, d)
  else (.nothing, d)

/-- **Hand a result back.** -/
def publish (d : Direction) (result : Transfer) : Direction :=
  { d with request := .finished result, complete := result.transferred }

/-! ## Showing -/

/-- The part of a direction that the mutex guards, as a diagnostic message
shows it. -/
def shown (d : Direction) : Text.Shown :=
  .fields "SlotState"
    [("ready", .flag d.ready), ("exit", .flag d.exit), ("request", d.request.shown)] false

end Direction

end TwinRing
