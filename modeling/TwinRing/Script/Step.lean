import TwinRing.Script.Answer
import TwinRing.Script.Pattern
/-!
# Steps

What a session can be told to do: open something under an id, do something
with what is open, or change the world around it.
-/

namespace TwinRing

namespace Script

/-- **A step on an open segment.** -/
inductive SegmentStep
  /-- Look at the handle. -/
  | info
  /-- Give the handle up. -/
  | drop
  /-- Read so many bytes from an offset on. -/
  | read (offset length : Nat)
  /-- Write bytes from an offset on. -/
  | write (offset : Nat) (bytes : Bytes)
  /-- Close the descriptor behind the handle's back. -/
  | closeDescriptor
  /-- Make the lock and take it, and perhaps ruin it while it is held. -/
  | tryLock (ruin : Bool)
  /-- Show the handle. -/
  | debug (overLines : Bool)

/-- **A step on an open ring.** -/
inductive RingStep
  | info
  | drop
  | destroy (unlink : Bool)
  | enqueue (element : Bytes)
  | dequeue (into : Destination)
  | fill (seed count : Nat)
  | drain (count : Nat)
  | clear
  | state (band : Bool)
  | poke (read write : UInt64)
  | setLock (lock : Lock)
  | debug (overLines : Bool)
  | descriptor
  | closeDescriptor
  | relay (target : String) (count : Nat)

/-- **A step on an open channel.** -/
inductive ChannelStep
  /-- A blocking push. -/
  | pushSync (element : Bytes)
  /-- A blocking get. -/
  | getSync (into : Destination)
  /-- Hand an element to the writer. -/
  | pushAsync (element : Bytes)
  /-- Hand a buffer to the reader. -/
  | getAsync (into : Destination)
  /-- Ask whether the last push has put its element in. -/
  | pushDone
  /-- Ask whether the last get has taken an element out. -/
  | getDone
  /-- Collect the finished push. -/
  | pushResult
  /-- Collect the finished get. -/
  | getResult
  /-- Discard all that is unread in the inbound ring. -/
  | clearIn
  /-- Discard all that is unread in the outbound ring. -/
  | clearOut
  /-- Look at both rings and the flags. -/
  | state
  /-- Look at what the channel was built from. -/
  | info
  /-- Show the channel. -/
  | debug (overLines : Bool)
  /-- Shut both directions down. -/
  | shutdown
  /-- Ask whether both directions are shut down. -/
  | isShutdown
  /-- Take the channel down. -/
  | drop
  /-- A blocking push beside the session, which goes on once so many of its
  attempts were refused. -/
  | pushBeside (job : String) (element : Bytes) (attempts : Nat)
  /-- A blocking get beside the session, likewise. -/
  | getBeside (job : String) (into : Destination) (attempts : Nat)
  /-- Push the patterns of so many seeds from another thread, and get as
  many elements from another channel. -/
  | stream (target : String) (count seed : Nat)

/-- **A step of a session.** A step on something open is read only after
the thing was found. -/
inductive Step
  | openSegment (id name : String) (size : UInt64)
  | segment (id : String) (step : Except Refusal SegmentStep)
  | openRing (id name : String) (geometry : Geometry)
  | ring (id : String) (step : Except Refusal RingStep)
  | openChannel (id : String) (config : Config)
  | channel (id : String) (step : Except Refusal ChannelStep)
  | unlink (name : String)
  | join (job : String)
  | fault (f : Fault)
  | refused (why : Refusal)

end Script

end TwinRing
