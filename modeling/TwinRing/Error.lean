import TwinRing.OsError
/-!
# Errors

What can go wrong with a segment, and what can go wrong with a channel
built on two of them. Every error names its cause; the wording is in one
function for each kind of error. A channel error that comes from a segment
speaks with the segment's voice.
-/

namespace TwinRing

/-- **What can go wrong with a segment.** -/
inductive SegmentError
  /-- The name given is not the name of any segment. -/
  | invalidName (given : String)
  /-- No ring has this shape, for the reason given. -/
  | invalidGeometry (reason : String)
  /-- The segment could not be opened, created, sized or measured. -/
  | openFailed (name : String) (cause : OsError)
  /-- The segment was opened but could not be mapped. -/
  | mapFailed (name : String) (cause : OsError)
  /-- The segment exists and is smaller than it has to be. -/
  | sizeMismatch (name : String) (expected actual : Nat)
  /-- The lock of a new segment could not be made. -/
  | lockFailed (cause : OsError)
  /-- The name could not be removed. -/
  | unlinkFailed (name : String) (cause : OsError)
  deriving DecidableEq, Repr

/-- **What can go wrong with a channel.** -/
inductive ChannelError
  /-- One of its segments failed. -/
  | segment (cause : SegmentError)
  /-- The buffer is not one element long. -/
  | elementSize (expected actual : Nat)
  /-- The request before it has not been finished. -/
  | requestPending
  /-- The element read before has not been collected. -/
  | uncollectedResult
  /-- The channel has been shut down. -/
  | closed
  /-- A worker could not be started. -/
  | spawnFailed (cause : OsError)
  deriving DecidableEq, Repr

namespace SegmentError

/-- The message of a segment error. -/
def message : SegmentError → String
  | .invalidName given => "invalid segment name " ++ Text.quoted given
  | .invalidGeometry reason => "invalid queue geometry: " ++ reason
  | .openFailed name cause =>
    "failed to open shared memory segment " ++ name ++ ": " ++ cause.message
  | .mapFailed name cause =>
    "failed to map shared memory segment " ++ name ++ ": " ++ cause.message
  | .sizeMismatch name expected actual =>
    "shared memory segment " ++ name ++ " holds " ++ Nat.repr actual ++
      " bytes, expected at least " ++ Nat.repr expected
  | .lockFailed cause => "failed to initialise process-shared lock: " ++ cause.message
  | .unlinkFailed name cause =>
    "failed to unlink shared memory segment " ++ name ++ ": " ++ cause.message

/-- The error of the system that lies behind, if there is one. -/
def cause? : SegmentError → Option OsError
  | .openFailed _ cause => some cause
  | .mapFailed _ cause => some cause
  | .lockFailed cause => some cause
  | .unlinkFailed _ cause => some cause
  | .invalidName _ => none
  | .invalidGeometry _ => none
  | .sizeMismatch _ _ _ => none

/-- A segment error as a diagnostic message shows it. -/
def shown : SegmentError → Text.Shown
  | .invalidName given => .applied "InvalidName" [.text given]
  | .invalidGeometry reason => .applied "InvalidGeometry" [.text reason]
  | .openFailed name cause =>
    .fields "Open" [("name", .text name), ("source", cause.shown)] false
  | .mapFailed name cause =>
    .fields "Map" [("name", .text name), ("source", cause.shown)] false
  | .sizeMismatch name expected actual =>
    .fields "SizeMismatch"
      [("name", .text name), ("expected", .number expected), ("actual", .number actual)] false
  | .lockFailed cause => .applied "Lock" [cause.shown]
  | .unlinkFailed name cause =>
    .fields "Unlink" [("name", .text name), ("source", cause.shown)] false

end SegmentError

namespace ChannelError

/-- The message of a channel error. -/
def message : ChannelError → String
  | .segment cause => cause.message
  | .elementSize expected actual =>
    "element is " ++ Nat.repr actual ++ " bytes, this direction carries " ++
      Nat.repr expected ++ "-byte elements"
  | .requestPending => "a request is already outstanding on this direction"
  | .uncollectedResult => "the last element read on this direction has not been collected"
  | .closed => "channel has been shut down"
  | .spawnFailed cause => "failed to spawn worker thread: " ++ cause.message

/-- The error of the system that lies behind, if there is one. -/
def cause? : ChannelError → Option OsError
  | .segment cause => cause.cause?
  | .spawnFailed cause => some cause
  | .elementSize _ _ => none
  | .requestPending => none
  | .uncollectedResult => none
  | .closed => none

/-- A channel error as a diagnostic message shows it. -/
def shown : ChannelError → Text.Shown
  | .segment cause => .applied "Shm" [cause.shown]
  | .elementSize expected actual =>
    .fields "ElementSize" [("expected", .number expected), ("actual", .number actual)] false
  | .requestPending => .word "RequestPending"
  | .uncollectedResult => .word "UncollectedResult"
  | .closed => .word "Closed"
  | .spawnFailed cause => .applied "Spawn" [cause.shown]

end ChannelError

end TwinRing
