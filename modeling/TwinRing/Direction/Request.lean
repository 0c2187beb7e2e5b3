import TwinRing.Segment.Word
import TwinRing.Text.Shown
/-!
# Requests

Each direction has one slot for one request. A request is issued by a
caller, picked up by the worker, finished by it, and collected by a caller
or replaced by the next request.
-/

namespace TwinRing

/-- **What became of a request**, with the caller's buffer. -/
structure Transfer where
  /-- Whether the element crossed the ring. If not, the ring had no room
  for it, or no element to give. -/
  transferred : Bool
  /-- The buffer of the caller; after an element was read, that element. -/
  buffer : Bytes
  deriving DecidableEq

/-- **The slot of one direction.** -/
inductive Request
  /-- There is no request. -/
  | empty
  /-- A caller has issued a request; the worker has not picked it up. -/
  | pending (buffer : Bytes)
  /-- The worker has the buffer and is at the ring. -/
  | servicing
  /-- The worker is done; nobody has collected the result. -/
  | finished (result : Transfer)
  deriving DecidableEq

namespace Transfer

/-- A result as a diagnostic message shows it. -/
def shown (t : Transfer) : Text.Shown :=
  .fields "Transfer" [("transferred", .flag t.transferred), ("buffer", .bytes t.buffer)] false

end Transfer

namespace Request

/-- Whether the request is on its way, so that it must not be replaced. -/
def isOutstanding : Request → Bool
  | .pending _ => true
  | .servicing => true
  | .empty => false
  | .finished _ => false

/-- Whether the slot holds the result of a request that crossed the ring. -/
def holdsElement : Request → Bool
  | .finished result => result.transferred
  | .empty => false
  | .pending _ => false
  | .servicing => false

/-- A slot as a diagnostic message shows it. -/
def shown : Request → Text.Shown
  | .empty => .word "Empty"
  | .pending buffer => .applied "Pending" [.bytes buffer]
  | .servicing => .word "Servicing"
  | .finished result => .applied "Finished" [result.shown]

end Request

end TwinRing
