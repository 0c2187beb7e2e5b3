import TwinRing.Direction.Role
import TwinRing.Ring.Geometry
import TwinRing.Segment.Lock
/-!
# Rings

A bounded first-in-first-out queue of equal-sized elements in the memory
of an object. The two indices count bytes, those ever put in and those
ever taken out, and only ever grow; their distance is what is unread, and
an index modulo the size of the band is a position in it. An element that
would run past the end of the band goes on at its start.

Every operation takes the lock first. What an attempt to move an element
came to is told apart by its cause, of which callers mostly need to know
no more than whether the element was moved.
-/

namespace TwinRing

/-- **What became of an attempt to move one element.** -/
inductive Attempt
  /-- The element was moved. -/
  | moved
  /-- The buffer is not one element long; nothing was looked at. -/
  | wrongLength
  /-- The lock could not be taken; nothing was looked at. -/
  | lockFailed
  /-- The ring had no room for the element, or no element to give. -/
  | refused
  deriving DecidableEq

namespace Attempt

/-- Whether the element was moved. -/
def isMoved (a : Attempt) : Bool := a == .moved

end Attempt

namespace Ring

/-- How many bytes were ever taken out. -/
def readIndex (o : Object) : UInt64 := o.wordAt Header.readIndex

/-- How many bytes were ever put in. -/
def writeIndex (o : Object) : UInt64 := o.wordAt Header.writeIndex

/-- The object with both indices set. -/
def setIndices (read write : UInt64) (o : Object) : Object :=
  (o.setWord Header.readIndex read).setWord Header.writeIndex write

/-! ## The band -/

/-- Write bytes into the band from a position on. -/
def copyIn (g : Geometry) (position : Nat) (bytes : Bytes) (o : Object) : Object :=
  let n := g.fitting position bytes.length
  let o := o.write (Header.size + position) (bytes.take n)
  if n < bytes.length then o.write Header.size (bytes.drop n) else o

/-- Read so many bytes of the band from a position on. -/
def copyOut (g : Geometry) (position length : Nat) (o : Object) : Bytes :=
  let n := g.fitting position length
  o.read (Header.size + position) n ++ o.read Header.size (length - n)

/-- The whole band as it lies in memory. -/
def band (g : Geometry) (o : Object) : Bytes := o.read Header.size g.bandSize.toNat

/-! ## Operations -/

/-- **Put one element in.** The distance of the indices is taken modulo
the word, and room is left as long as it is below the size of the band. -/
def enqueue (g : Geometry) (element : Bytes) (o : Object) : Attempt × Object :=
  if element.length ≠ g.elementSize.toNat then (.wrongLength, o)
  else if o.lock = .broken then (.lockFailed, o)
  else
    let read := readIndex o
    let write := writeIndex o
    if g.bandSize ≤ write - read then (.refused, o)
    else
      let o := copyIn g (write % g.bandSize).toNat element o
      (.moved, o.setWord Header.writeIndex (write + g.elementSize))

/-- **Take the oldest element out** into a buffer, which is left as it is
when nothing is taken. There is an element as long as the read index is
below the write index. -/
def dequeue (g : Geometry) (buffer : Bytes) (o : Object) : Attempt × Bytes × Object :=
  if buffer.length ≠ g.elementSize.toNat then (.wrongLength, buffer, o)
  else if o.lock = .broken then (.lockFailed, buffer, o)
  else
    let read := readIndex o
    let write := writeIndex o
    if write ≤ read then (.refused, buffer, o)
    else
      let element := copyOut g (read % g.bandSize).toNat buffer.length o
      (.moved, element, o.setWord Header.readIndex (read + g.elementSize))

/-- **Discard all that is unread.** The band stays as it is. Nothing
happens if the lock cannot be taken. -/
def clear (o : Object) : Object :=
  if o.lock = .broken then o else o.setWord Header.readIndex (writeIndex o)

/-- **How many elements are unread**; none, if the lock cannot be taken. -/
def length (g : Geometry) (o : Object) : UInt64 :=
  if o.lock = .broken then 0 else (writeIndex o - readIndex o) / g.elementSize

/-- Whether no element is unread. -/
def isEmpty (g : Geometry) (o : Object) : Bool := length g o == 0

/-- Whether as many elements are unread as the ring holds. -/
def isFull (g : Geometry) (o : Object) : Bool := g.capacity ≤ length g o

/-- **What a worker does with a buffer**: a writer puts it in, a reader
has it filled. -/
def serve (role : Role) (g : Geometry) (buffer : Bytes) (o : Object) : Attempt × Bytes × Object :=
  match role with
  | .writer =>
    let (attempt, o) := enqueue g buffer o
    (attempt, buffer, o)
  | .reader => dequeue g buffer o

end Ring

end TwinRing
