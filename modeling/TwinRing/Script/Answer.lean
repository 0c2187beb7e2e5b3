import TwinRing.Channel
/-!
# Answers

What a step of a script comes to. A step that makes no sense where it
stands is refused: nothing is done, and the script goes on.
-/

namespace TwinRing

namespace Script

/-- **Why a step was refused.** -/
inductive Refusal
  /-- No segment is open under that id. -/
  | noSuchSegment
  /-- No ring is open under that id. -/
  | noSuchRing
  /-- No channel is open under that id. -/
  | noSuchChannel
  /-- No job runs under that id. -/
  | noSuchJob
  /-- It would touch bytes that are not mapped. -/
  | outOfRange
  /-- There is no step of that name. -/
  | unknownStep
  /-- It lacks the part of that name. -/
  | missing (part : String)
  /-- There is no worker to wait for. -/
  | noWorker
  /-- There is no blocking call to wait for. -/
  | noTransfer
  /-- A worker was started already. -/
  | workerRunning
  /-- The element is not as long as the buffer that it is for. -/
  | otherLength
  deriving DecidableEq

namespace Refusal

/-- The words for a refusal. -/
def message : Refusal → String
  | .noSuchSegment => "no such shm"
  | .noSuchRing => "no such ring"
  | .noSuchChannel => "no such channel"
  | .noSuchJob => "no such job"
  | .outOfRange => "out of range"
  | .unknownStep => "unknown step"
  | .missing part => part
  | .noWorker => "no worker"
  | .noTransfer => "no transfer"
  | .workerRunning => "worker already running"
  | .otherLength => "source slice length does not match destination slice length"

end Refusal

/-- How full a ring is, as three questions to it found it. -/
structure Occupancy where
  length : UInt64
  empty : Bool
  full : Bool

namespace Occupancy

/-- Ask a ring the three questions. -/
def ask (v : View) (s : Store) : Occupancy × Store :=
  let (length, s) := v.length s
  let (empty, s) := v.isEmpty s
  let (full, s) := v.isFull s
  (⟨length, empty, full⟩, s)

end Occupancy

/-- **What a step comes to.** -/
inductive Answer
  | done
  | ok
  | flag (value : Bool)
  | number (value : UInt64)
  | text (value : String)
  | bytes (value : Bytes)
  | refused (why : Refusal)
  | segmentFailed (cause : SegmentError)
  | channelFailed (cause : ChannelError)
  | getFailed (cause : ChannelError) (buffer : Bytes)
  | segmentOpened (h : Handle)
  | segment (h : Handle)
  | ring (v : View)
  | descriptorOpen
  | lockTried (made taken : Except OsError Unit)
  | enqueued (moved : Bool) (length : UInt64)
  | dequeued (moved : Bool) (buffer : Bytes) (length : UInt64)
  | dequeuedOnly (moved : Bool) (buffer : Bytes)
  | filled (accepted : Nat) (length : UInt64)
  | drained (elements : List Bytes) (length : UInt64)
  | length (value : UInt64)
  | occupancy (o : Occupancy)
  | ringState (o : Occupancy) (read write : UInt64) (band? : Option Bytes)
  | relayed (received : Nat) (ordered : Bool) (length : UInt64)
  | built (c : Channel)
  | got (buffer : Bytes)
  | result (t? : Option Transfer)
  | channelState (inbound outbound : Occupancy) (c : Channel)
  | channel (c : Channel)
  | streamed (elements : List Bytes) (pushed : Except ChannelError Unit)
  | direction (d : Direction)
  | transferred (buffer : Bytes)

namespace Answer

/-- The answer for something that succeeds without a word. -/
def ofSegment : Except SegmentError Unit → Answer
  | .ok _ => .ok
  | .error e => .segmentFailed e

/-- The answer for something on a channel that succeeds without a word. -/
def ofChannel : Except ChannelError Unit → Answer
  | .ok _ => .ok
  | .error e => .channelFailed e

/-- The answer for a blocking push that has returned. -/
def ofPush : Except ChannelError Bytes → Answer
  | .ok _ => .ok
  | .error e => .channelFailed e

/-- The answer for a blocking get that has returned, into a buffer. -/
def ofGet (buffer : Bytes) (result : Except ChannelError Bytes) : Answer :=
  match Channel.fill? buffer result with
  | some (.ok _, buffer) => .got buffer
  | some (.error e, buffer) => .getFailed e buffer
  | none => .refused .otherLength

end Answer

end Script

end TwinRing
