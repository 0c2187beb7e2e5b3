import TwinRing.Segment.Store
/-!
# Segment handles

What a successful open gives its caller: a mapping of the first so many
bytes of an object, the descriptor it was opened with, and the name under
which it was found. A handle reads and writes the bytes it has mapped, and
every other handle on the same object sees what it wrote. Dropping a
handle gives back the mapping and the descriptor, and no more: the name
stays bound and the bytes stay as they are.
-/

namespace TwinRing

/-- **A handle on a segment.** -/
structure Handle where
  /-- The name it was opened under. -/
  name : SegmentName
  /-- How many bytes are mapped. -/
  size : UInt64
  /-- Whether this open created the segment. -/
  creator : Bool
  /-- The number of its descriptor. -/
  descriptor : Nat
  /-- The number of its object. -/
  object : Nat

namespace Handle

/-- Whether so many bytes from an offset on are mapped. -/
def covers (h : Handle) (offset length : Nat) : Bool := offset + length ≤ h.size.toNat

/-- The mapped bytes from an offset on. -/
def read (h : Handle) (s : Store) (offset length : Nat) : Bytes :=
  (s.object h.object).read offset length

/-- The store with bytes written from an offset on. -/
def write (h : Handle) (s : Store) (offset : Nat) (bytes : Bytes) : Store :=
  s.modifyObject h.object fun o => o.write offset bytes

/-- Close the descriptor and keep the mapping. -/
def closeDescriptor (h : Handle) (s : Store) : Store := (s.close h.descriptor).2

/-- **Give the handle up.** Both parts are given back whatever becomes of
the other, and each failure is reported. -/
def drop (h : Handle) (s : Store) : Store :=
  let s := match s.unmap h.object with
    | (.ok _, s) => s
    | (.error e, s) => s.report (.unmapFailed h.name e)
  match s.close h.descriptor with
  | (.ok _, s) => s
  | (.error e, s) => s.report (.closeFailed h.name e)

/-! ## The lock at the start of the object -/

/-- **Make the lock.** Each of the calls on the way may fail, and then the
lock is what it was before. -/
def initLock (h : Handle) (s : Store) : Except OsError Unit × Store :=
  match s.perform .lockAttributes with
  | (.error e, s) => (.error e, s)
  | (.ok _, s) =>
    match s.perform .lockSharing with
    | (.error e, s) => (.error e, s)
    | (.ok shared, s) =>
      match s.perform .lockInit with
      | (.error e, s) => (.error e, s)
      | (.ok false, s) => (.ok (), s)
      | (.ok true, s) =>
        (.ok (), s.modifyObject h.object fun o =>
          o.makeLock (if shared then Lock.sharedKind else Lock.plainKind))

/-- Whether the lock can be taken, and if not, the error. -/
def tryLock (h : Handle) (s : Store) : Except OsError Unit :=
  match (s.object h.object).lock with
  | .sound => .ok ()
  | .broken => .error .invalidArgument

/-- Take the lock, which must be one that can be taken. -/
def takeLock (h : Handle) (s : Store) : Store := s.modifyObject h.object Object.takeLock

/-- Release the lock. -/
def releaseLock (h : Handle) (s : Store) : Store := s.modifyObject h.object Object.releaseLock

/-- Ruin the lock, or mend it. -/
def setLock (h : Handle) (s : Store) (lock : Lock) : Store :=
  s.modifyObject h.object fun o => o.setLock lock

/-! ## Showing -/

/-- A handle as a diagnostic message shows it. The place of the mapping
and the number of the descriptor are chance and have stand-ins. -/
def shown (h : Handle) : Text.Shown :=
  .fields "PosixSharedMemory"
    [("ptr", .word "PTR"), ("size", .number h.size.toNat), ("fd", .word "FD"),
      ("name", .text h.name.full), ("created", .flag h.creator)] false

end Handle

end TwinRing
