import TwinRing.Segment.Word
/-!
# Patterns

Test data without a table: a run of bytes that follows from a seed, so
that runs of different seeds differ and a run shows where it was cut.
-/

namespace TwinRing

namespace Script

/-- The pattern of a seed: so many bytes, each one more than the one
before, from 31 times the seed on, all modulo 256. -/
def pattern (seed length : Nat) : Bytes :=
  (List.range length).map fun i => UInt8.ofNat (31 * seed + i)

/-- A buffer for an element that is to be read. -/
structure Destination where
  /-- Its length, unless it is that of an element. -/
  length? : Option Nat := none
  /-- The byte it is filled with before. -/
  fill : UInt8 := 0

namespace Destination

/-- The buffer itself, where elements have so many bytes. -/
def buffer (d : Destination) (elementSize : Nat) : Bytes :=
  List.replicate (d.length?.getD elementSize) d.fill

end Destination

end Script

end TwinRing
