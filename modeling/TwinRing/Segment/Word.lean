/-!
# Words in memory

A 64-bit word takes eight bytes, the lowest first. Reading back what was
written gives the word again.
-/

namespace TwinRing

/-- A run of bytes. -/
abbrev Bytes := List UInt8

namespace Word

/-- The lowest `count` digits of a number to the base 256, the lowest
first. -/
def digits : Nat → Nat → Bytes
  | 0, _ => []
  | count + 1, n => UInt8.ofNat n :: digits count (n / 256)

/-- The eight bytes of a word, the lowest first. -/
def toBytes (w : UInt64) : Bytes := digits 8 w.toNat

/-- The number that a run of bytes stands for, the lowest byte first. -/
def value : Bytes → Nat
  | [] => 0
  | b :: rest => b.toNat + 256 * value rest

/-- The word that a run of bytes stands for. -/
def ofBytes (bs : Bytes) : UInt64 := UInt64.ofNat (value bs)

end Word

end TwinRing
