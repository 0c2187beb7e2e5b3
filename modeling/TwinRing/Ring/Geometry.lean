import TwinRing.Error
import TwinRing.Segment.Word
/-!
# Ring geometry

A ring of so many elements of so many bytes each lies in a segment of its
own. The segment begins with a header: the lock, then the read index, then
the write index. The data band follows and takes the rest. Both sides of a
ring must agree on its geometry; nothing in the segment records it.
-/

namespace TwinRing

/-! ## The header -/

namespace Header

/-- Where the lock starts. -/
def lock : Nat := 0

/-- Where the read index lies: how many bytes were ever taken out. -/
def readIndex : Nat := 40

/-- Where the write index lies: how many bytes were ever put in. -/
def writeIndex : Nat := 48

/-- The size of the header, and so the start of the band. -/
def size : Nat := 56

/-- The alignment that the header needs. -/
def alignment : Nat := 8

end Header

/-! ## The shape -/

/-- **The shape of a ring.** -/
structure Geometry where
  /-- How many elements it holds at most. -/
  capacity : UInt64
  /-- How many bytes each of them has. -/
  elementSize : UInt64
  deriving DecidableEq

namespace Geometry

/-- The size of the segment for a ring of this shape, if it is a word. -/
def segmentSize? (g : Geometry) : Option UInt64 :=
  let total := g.capacity.toNat * g.elementSize.toNat + Header.size
  if total < UInt64.size then some (UInt64.ofNat total) else none

/-- The size of the band, as a word. -/
def bandSize (g : Geometry) : UInt64 := g.capacity * g.elementSize

/-- **The size of the segment for a ring of this shape**, or what is wrong
with the shape. -/
def segmentSize (g : Geometry) : Except SegmentError UInt64 :=
  if g.capacity = 0 then .error (.invalidGeometry "capacity must be at least one element")
  else if g.elementSize = 0 then .error (.invalidGeometry "element size must be non-zero")
  else
    match g.segmentSize? with
    | none => .error (.invalidGeometry "segment size overflows usize")
    | some size => .ok size

/-- How many of so many bytes fit between a position in the band and its
end; the rest goes to the start of the band. -/
def fitting (g : Geometry) (position length : Nat) : Nat :=
  min (g.bandSize.toNat - position) length

end Geometry

end TwinRing
