import TwinRing.Retry
import TwinRing.Ring.Geometry
/-!
# Configurations

What a channel is built from: for each direction the name and the shape of
its ring, whether the ring is cleared at the start, and the retry policy.
The two ends of a channel need the same configuration with the directions
exchanged.

A configuration is put together by a builder, which starts from defaults
and takes settings one after the other. A retry policy that nobody has set
follows from the poll delay, and from the last value given to it, whenever
that was given.
-/

namespace TwinRing

/-- **What a channel is built from.** -/
structure Config where
  /-- The name of the inbound ring, as given. -/
  inName : String
  /-- The name of the outbound ring, as given. -/
  outName : String
  /-- How many elements the inbound ring holds. -/
  inCapacity : UInt64
  /-- How many elements the outbound ring holds. -/
  outCapacity : UInt64
  /-- The size of an inbound element. -/
  inElementSize : UInt64
  /-- The size of an outbound element. -/
  outElementSize : UInt64
  /-- The delay that unset retry policies follow from. -/
  pollDelay : Duration
  /-- Whether the inbound ring is cleared at the start. -/
  clearIn : Bool
  /-- Whether the outbound ring is cleared at the start. -/
  clearOut : Bool
  /-- How a blocking push retries. -/
  pushRetry : RetryPolicy
  /-- How a blocking get retries. -/
  getRetry : RetryPolicy
  deriving DecidableEq

namespace Config

/-- The shape of the inbound ring. -/
def inGeometry (c : Config) : Geometry := ⟨c.inCapacity, c.inElementSize⟩

/-- The shape of the outbound ring. -/
def outGeometry (c : Config) : Geometry := ⟨c.outCapacity, c.outElementSize⟩

/-- A configuration as a diagnostic message shows it. -/
def shown (c : Config) : Text.Shown :=
  .fields "ChannelConfig"
    [("in_name", .text c.inName), ("out_name", .text c.outName),
      ("in_capacity", .number c.inCapacity.toNat),
      ("out_capacity", .number c.outCapacity.toNat),
      ("in_element_size", .number c.inElementSize.toNat),
      ("out_element_size", .number c.outElementSize.toNat),
      ("poll_delay", c.pollDelay.shown), ("clear_in", .flag c.clearIn),
      ("clear_out", .flag c.clearOut), ("push_retry", c.pushRetry.shown),
      ("get_retry", c.getRetry.shown)] false

end Config

/-- The delay between retries unless another is set, in microseconds. -/
def defaultPollDelay : UInt64 := 1000

/-- **A configuration in the making.** -/
structure Builder where
  /-- The name of the inbound ring. -/
  inName : String := "/dmxp_in"
  /-- The name of the outbound ring. -/
  outName : String := "/dmxp_out"
  /-- How many elements the inbound ring holds. -/
  inCapacity : UInt64 := 1024
  /-- How many elements the outbound ring holds. -/
  outCapacity : UInt64 := 1024
  /-- The size of an inbound element. -/
  inElementSize : UInt64 := 64
  /-- The size of an outbound element. -/
  outElementSize : UInt64 := 64
  /-- The delay that unset retry policies follow from. -/
  pollDelay : Duration := Duration.ofMicroseconds defaultPollDelay
  /-- Whether the inbound ring is cleared at the start. -/
  clearIn : Bool := true
  /-- Whether the outbound ring is cleared at the start. -/
  clearOut : Bool := true
  /-- How a blocking push retries, if that was set. -/
  pushRetry : Option RetryPolicy := none
  /-- How a blocking get retries, if that was set. -/
  getRetry : Option RetryPolicy := none
  deriving DecidableEq

/-- **One instruction to a builder.** -/
inductive Setting
  | reset
  | opposite
  | inName (name : String)
  | outName (name : String)
  | inCapacity (capacity : UInt64)
  | outCapacity (capacity : UInt64)
  | capacity (capacity : UInt64)
  | inElementSize (size : UInt64)
  | outElementSize (size : UInt64)
  | elementSize (size : UInt64)
  | pollDelay (delay : Duration)
  | pollDelayMicroseconds (us : UInt64)
  | clearIn (clear : Bool)
  | clearOut (clear : Bool)
  | pushRetry (policy : RetryPolicy)
  | getRetry (policy : RetryPolicy)
  deriving DecidableEq

namespace Builder

/-- **The builder for the other end of the channel.** What belongs to one
direction goes to the other; the poll delay and the retry policies are the
same at both ends. -/
def opposite (b : Builder) : Builder where
  inName := b.outName
  outName := b.inName
  inCapacity := b.outCapacity
  outCapacity := b.inCapacity
  inElementSize := b.outElementSize
  outElementSize := b.inElementSize
  pollDelay := b.pollDelay
  clearIn := b.clearOut
  clearOut := b.clearIn
  pushRetry := b.pushRetry
  getRetry := b.getRetry

/-- The builder after one instruction. -/
def apply (b : Builder) : Setting → Builder
  | .reset => {}
  | .opposite => b.opposite
  | .inName name => { b with inName := name }
  | .outName name => { b with outName := name }
  | .inCapacity capacity => { b with inCapacity := capacity }
  | .outCapacity capacity => { b with outCapacity := capacity }
  | .capacity capacity => { b with inCapacity := capacity, outCapacity := capacity }
  | .inElementSize size => { b with inElementSize := size }
  | .outElementSize size => { b with outElementSize := size }
  | .elementSize size => { b with inElementSize := size, outElementSize := size }
  | .pollDelay delay => { b with pollDelay := delay }
  | .pollDelayMicroseconds us => { b with pollDelay := .ofMicroseconds us }
  | .clearIn clear => { b with clearIn := clear }
  | .clearOut clear => { b with clearOut := clear }
  | .pushRetry policy => { b with pushRetry := some policy }
  | .getRetry policy => { b with getRetry := some policy }

/-- The builder after a list of instructions. -/
def applyAll (b : Builder) (settings : List Setting) : Builder := settings.foldl apply b

/-- The builders after each of a list of instructions. -/
def trace (b : Builder) : List Setting → List Builder
  | [] => []
  | setting :: rest => b.apply setting :: (b.apply setting).trace rest

/-- **The configuration that was put together.** An unset push retry backs
off up to the poll delay; an unset get retry sleeps the poll delay. -/
def config (b : Builder) : Config where
  inName := b.inName
  outName := b.outName
  inCapacity := b.inCapacity
  outCapacity := b.outCapacity
  inElementSize := b.inElementSize
  outElementSize := b.outElementSize
  pollDelay := b.pollDelay
  clearIn := b.clearIn
  clearOut := b.clearOut
  pushRetry := b.pushRetry.getD (.backoff b.pollDelay)
  getRetry := b.getRetry.getD (.fixed b.pollDelay)

/-- A policy that may be unset, as a diagnostic message shows it. -/
def shownPolicy? : Option RetryPolicy → Text.Shown
  | none => .word "None"
  | some policy => .applied "Some" [policy.shown]

/-- A builder as a diagnostic message shows it. -/
def shown (b : Builder) : Text.Shown :=
  .fields "ChannelBuilder"
    [("in_name", .text b.inName), ("out_name", .text b.outName),
      ("in_capacity", .number b.inCapacity.toNat),
      ("out_capacity", .number b.outCapacity.toNat),
      ("in_element_size", .number b.inElementSize.toNat),
      ("out_element_size", .number b.outElementSize.toNat),
      ("poll_delay", b.pollDelay.shown), ("clear_in", .flag b.clearIn),
      ("clear_out", .flag b.clearOut), ("push_retry", shownPolicy? b.pushRetry),
      ("get_retry", shownPolicy? b.getRetry)] false

end Builder

namespace Config

/-- The configuration from nine values in order; the rest are defaults. -/
def ofParts (inName outName : String) (inCapacity outCapacity inElementSize outElementSize : UInt64)
    (pollDelayMicroseconds : UInt64) (clearIn clearOut : Bool) : Config :=
  (({} : Builder).applyAll
    [.inName inName, .outName outName, .inCapacity inCapacity, .outCapacity outCapacity,
      .inElementSize inElementSize, .outElementSize outElementSize,
      .pollDelayMicroseconds pollDelayMicroseconds, .clearIn clearIn, .clearOut clearOut]).config

end Config

end TwinRing
