import TwinRing.OsError
/-!
# Faults

Any system call may fail for reasons of its own. A fault says which call
is to fail, at which of its next uses and with which error. Faults wait in
a list; each use of a call counts down the first fault that waits for it,
and the fault strikes when its count runs out.
-/

namespace TwinRing

/-- The system calls that may be told to fail. -/
inductive SystemCall
  | openName
  | truncate
  | measure
  | map
  | unmap
  | unlink
  | lockAttributes
  | lockSharing
  | lockInit
  | spawn
  deriving DecidableEq

/-- A call that is to fail. -/
structure Fault where
  /-- The call. -/
  call : SystemCall
  /-- At which of its next uses; the very next one is the first. -/
  nth : Nat
  /-- The error it fails with. -/
  error : OsError
  deriving DecidableEq

namespace Fault

/-- **One use of a call.** The answer is the error that strikes it, if one
does, and the faults that still wait. -/
def strike (call : SystemCall) : List Fault → Option OsError × List Fault
  | [] => (none, [])
  | f :: rest =>
    if f.call = call then
      if f.nth ≤ 1 then (some f.error, rest) else (none, { f with nth := f.nth - 1 } :: rest)
    else
      let (error?, rest') := strike call rest
      (error?, f :: rest')

end Fault

end TwinRing
