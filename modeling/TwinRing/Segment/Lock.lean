import TwinRing.Segment.Object
/-!
# The lock at the start of an object

The first forty bytes of an object may serve as a lock. They hold numbers
of four bytes each, and links at the end: the state of the lock, how often
its holder holds it, the holder, how many use it, and its kind. The kind
alone decides whether a free lock can be taken. One of zero bytes can, as
one that was made or released can; one whose kind was ruined cannot.
-/

namespace TwinRing

/-- Whether a lock can be taken. -/
inductive Lock
  /-- It can: it is all zero, newly made, or released. -/
  | sound
  /-- Every attempt to take it fails. -/
  | broken
  deriving DecidableEq

namespace Lock

/-! ## Where its parts lie -/

/-- How many bytes a lock takes. -/
def size : Nat := 40

/-- The number that tells whether the lock is held. -/
def stateOffset : Nat := 0

/-- The number of times its holder holds it. -/
def holdsOffset : Nat := 4

/-- The number of its holder. -/
def holderOffset : Nat := 8

/-- The number of those that use it. -/
def usersOffset : Nat := 12

/-- The byte that tells its kind. -/
def kindOffset : Nat := 16

/-- The links to the other locks of its holder. -/
def linksOffset : Nat := 24

/-- How many bytes the links take. -/
def linksSize : Nat := 16

/-! ## Kinds -/

/-- The kind of a plain lock within one process. -/
def plainKind : UInt8 := 0

/-- The kind of a plain lock that processes share. -/
def sharedKind : UInt8 := 0x80

/-- A kind that no lock has. -/
def ruinedKind : UInt8 := 0x7F

/-- The mode of a kind: all its bits but the highest, which tells whether
processes share the lock, and the lowest two, which tell what becomes of a
holder that takes it again. -/
def mode (kind : UInt8) : Nat := kind.toNat % 128 / 4

/-- Whether the holder may take a lock of a kind again. -/
def isNested (kind : UInt8) : Bool := kind.toNat % 4 == 1

/-- Whether a lock of a kind counts how often it is held. In the plain mode
it does so only if it may be taken again. -/
def countsHolds (kind : UInt8) : Bool := isNested kind || mode kind != 0

/-- Whether a lock of a kind is linked to the others of its holder, so that
it can be freed when its holder ends. -/
def isLinked (kind : UInt8) : Bool := mode kind == 4 || mode kind == 12

/-- **Whether a free lock of a kind can be taken.** That depends on the
mode, of which four can: the plain one, the linked one, the one that lends
its holder the urgency of those who wait, and the two together. -/
def ofKind (kind : UInt8) : Lock :=
  if mode kind ∈ [0, 4, 8, 12] then .sound else .broken

/-- The bytes of a free lock of a kind. -/
def made (kind : UInt8) : Bytes :=
  List.replicate kindOffset 0 ++ kind :: List.replicate (size - kindOffset - 1) 0

end Lock

namespace Object

/-- Whether the lock at the start can be taken. -/
def lock (o : Object) : Lock := Lock.ofKind (o.byteAt Lock.kindOffset)

/-- The object with a free lock of a kind made at its start. -/
def makeLock (o : Object) (kind : UInt8) : Object := o.write 0 (Lock.made kind)

/-- The object with the lock at its start ruined, or mended. -/
def setLock (o : Object) : Lock → Object
  | .sound => o.write Lock.kindOffset [Lock.sharedKind]
  | .broken => o.write Lock.kindOffset [Lock.ruinedKind]

/-- The number of four bytes at an offset. -/
def numberAt (o : Object) (offset : Nat) : Nat := Word.value (o.read offset 4)

/-- The object with a number of four bytes written at an offset. -/
def setNumber (o : Object) (offset n : Nat) : Object := o.write offset (Word.digits 4 n)

/-- **The object after the lock at its start was taken.** Which number the
holder has is chance, so it is not noted. -/
def takeLock (o : Object) : Object :=
  let kind := o.byteAt Lock.kindOffset
  let o := o.setNumber Lock.stateOffset 1
  let o := if Lock.countsHolds kind then o.setNumber Lock.holdsOffset 1 else o
  o.setNumber Lock.usersOffset (o.numberAt Lock.usersOffset + 1)

/-- **The object after the lock at its start was released.** It has no
holder and no links; a lock that cannot be taken again leaves its count of
holds as it is. To add the largest number of four bytes takes one user
away, for the sum is turned over. -/
def releaseLock (o : Object) : Object :=
  let kind := o.byteAt Lock.kindOffset
  let o := o.setNumber Lock.stateOffset 0
  let o := if Lock.isNested kind then o.setNumber Lock.holdsOffset 0 else o
  let o := o.setNumber Lock.holderOffset 0
  let o := if Lock.isLinked kind then
      o.write Lock.linksOffset (List.replicate Lock.linksSize 0)
    else o
  o.setNumber Lock.usersOffset (o.numberAt Lock.usersOffset + 0xFFFFFFFF)

end Object

end TwinRing
