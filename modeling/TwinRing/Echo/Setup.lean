import TwinRing.Channel
import TwinRing.Digest
/-!
# Echo programs — what both agree on

Two programs try a channel out between them. The sender sends digests and
expects each to come back; the responder sends back whatever it gets.
Both build the same channel, each its own end of it.
-/

namespace TwinRing

namespace Echo

/-- How many elements each ring holds. -/
def capacity : UInt64 := 256

/-- The size of an element: that of a digest. -/
def elementSize : UInt64 := 32

/-- The shape of both rings. -/
def geometry : Geometry := ⟨capacity, elementSize⟩

/-- What both ends are built from. -/
def builder : Builder := ({} : Builder).applyAll [.elementSize elementSize, .capacity capacity]

/-- The sender's end. Both rings are cleared, so nothing that an earlier
run left behind is taken for an echo. -/
def senderConfig : Config := builder.config

/-- The responder's end. Its inbound ring is not cleared, for the sender
may have begun already. -/
def responderConfig : Config := (builder.applyAll [.opposite, .clearIn false]).config

/-- Message number `i`: the digest of a text that has the number in it. -/
def message (i : Nat) : Bytes := Digest.ofText ("message_" ++ Nat.repr i)

/-! ## What a program prints -/

/-- A line of output. -/
inductive Line
  /-- A line that is the same in every run. -/
  | fixed (text : String)
  /-- A line whose text is followed by a measured time. -/
  | timed (text : String)
  deriving DecidableEq

/-- What a program has printed. -/
structure Output where
  lines : List Line := []
  complaints : List String := []

namespace Output

/-- One more line. -/
def say (o : Output) (text : String) : Output := { o with lines := o.lines ++ [.fixed text] }

/-- One more line that ends in a time. -/
def sayTimed (o : Output) (text : String) : Output :=
  { o with lines := o.lines ++ [.timed text] }

/-- One more line of complaint. -/
def complain (o : Output) (text : String) : Output :=
  { o with complaints := o.complaints ++ [text] }

/-- The complaint with which a program ends that an error has stopped. -/
def fail (o : Output) (e : ChannelError) : Output := o.complain ("Error: " ++ e.shown.flat)

end Output

/-- A program that has ended. -/
structure Exit where
  /-- Its exit code; a program that the system has ended has none. -/
  code? : Option Nat
  /-- What it printed. -/
  output : Output

end Echo

end TwinRing
