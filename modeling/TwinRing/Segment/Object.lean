import TwinRing.Segment.Word
/-!
# Segment objects

The memory behind a segment name: so many bytes, all zero when the object
is new.
-/

namespace TwinRing

/-- **The memory behind a segment name.** Only bytes that were ever
written are stored; all others are zero. -/
structure Object where
  /-- How many bytes the object has. -/
  size : Nat := 0
  /-- The stored bytes, from offset zero on. -/
  cells : Array UInt8 := #[]

namespace Object

/-- The byte at an offset. -/
def byteAt (o : Object) (offset : Nat) : UInt8 := o.cells.getD offset 0

/-- The bytes from an offset on. -/
def read (o : Object) (offset length : Nat) : Bytes :=
  (List.range length).map fun i => o.byteAt (offset + i)

/-- Stored bytes with a run of bytes laid over them from an offset on;
what lies past their end is dropped. -/
def overlay (cells : Array UInt8) (offset : Nat) : Bytes → Array UInt8
  | [] => cells
  | b :: rest => overlay (cells.setIfInBounds offset b) (offset + 1) rest

/-- Stored bytes made up to a length with zeros. -/
def padded (cells : Array UInt8) (length : Nat) : Array UInt8 :=
  if cells.size < length then cells ++ Array.replicate (length - cells.size) 0 else cells

/-- The object with a run of bytes written from an offset on. -/
def write (o : Object) (offset : Nat) (bytes : Bytes) : Object :=
  { o with cells := overlay (padded o.cells (offset + bytes.length)) offset bytes }

/-- The word at an offset. -/
def wordAt (o : Object) (offset : Nat) : UInt64 := Word.ofBytes (o.read offset 8)

/-- The object with a word written at an offset. -/
def setWord (o : Object) (offset : Nat) (w : UInt64) : Object := o.write offset (Word.toBytes w)

end Object

end TwinRing
