import TwinRing.Direction.Role
import TwinRing.Segment.Name
import TwinRing.Text.Order
/-!
# The journal

What the library reports while it runs. Each report is an event with its
parts; its severity and its words follow from it. The caller's thread and
every worker keep lists of their own.
-/

namespace TwinRing

/-- How grave an event is. -/
inductive Severity
  | error
  | warning
  | debug
  | trace
  deriving DecidableEq

namespace Severity

/-- The word for a severity. -/
def label : Severity → String
  | .error => "ERROR"
  | .warning => "WARN"
  | .debug => "DEBUG"
  | .trace => "TRACE"

end Severity

/-- **Something worth reporting.** -/
inductive Event
  /-- A segment was created with so many bytes. -/
  | created (name : SegmentName) (size : Nat)
  /-- So many bytes of an existing segment were opened. -/
  | opened (name : SegmentName) (size : Nat)
  /-- A name was removed. -/
  | unlinked (name : SegmentName)
  /-- A name could not be removed after its segment failed. -/
  | cleanupFailed (cause : SegmentError)
  /-- A mapping could not be given back. -/
  | unmapFailed (name : SegmentName) (cause : OsError)
  /-- A descriptor could not be closed. -/
  | closeFailed (name : SegmentName) (cause : OsError)
  /-- All unread elements of a ring were discarded. -/
  | cleared (name : SegmentName)
  /-- The lock of a ring could not be taken. -/
  | lockFailed (name : SegmentName) (cause : OsError)
  /-- A lock could not be released. -/
  | releaseFailed (cause : OsError)
  /-- A channel was built, on an inbound and an outbound ring, each of so
  many elements of so many bytes. -/
  | channelUp (inbound : SegmentName) (inCapacity inElementSize : Nat)
      (outbound : SegmentName) (outCapacity outElementSize : Nat)
  /-- A channel was taken down. -/
  | channelDown (inbound outbound : SegmentName)
  /-- A worker began. -/
  | workerStarted (role : Role) (name : SegmentName)
  /-- A worker finished a request, with or without moving an element. -/
  | workerServed (role : Role) (name : SegmentName) (transferred : Bool)
  /-- A worker ended. -/
  | workerStopped (role : Role) (name : SegmentName)
  deriving DecidableEq

namespace Event

/-- How grave an event is. -/
def severity : Event → Severity
  | .created .. | .opened .. | .unlinked .. | .cleared .. | .channelUp .. | .channelDown ..
  | .workerStarted .. | .workerStopped .. => .debug
  | .cleanupFailed .. | .unmapFailed .. | .closeFailed .. => .warning
  | .lockFailed .. | .releaseFailed .. => .error
  | .workerServed .. => .trace

/-- The words for a ring: its name and its shape. -/
def ringText (name : SegmentName) (capacity elementSize : Nat) : String :=
  name.full ++ " (" ++ Nat.repr capacity ++ "x" ++ Nat.repr elementSize ++ "B)"

/-- The words for an event. A descriptor has no number worth telling. -/
def text : Event → String
  | .created name size =>
    "created shared memory segment " ++ name.full ++ " (" ++ Nat.repr size ++ " bytes, fd _)"
  | .opened name size =>
    "opened shared memory segment " ++ name.full ++ " (" ++ Nat.repr size ++ " bytes, fd _)"
  | .unlinked name => "unlinked shared memory segment " ++ name.full
  | .cleanupFailed cause => cause.message
  | .unmapFailed name cause => "munmap of " ++ name.full ++ " failed: " ++ cause.message
  | .closeFailed name cause => "close of " ++ name.full ++ " failed: " ++ cause.message
  | .cleared name => "cleared " ++ name.full
  | .lockFailed name cause => "failed to lock " ++ name.full ++ ": " ++ cause.message
  | .releaseFailed cause => "failed to release process-shared lock: " ++ cause.message
  | .channelUp inbound inCapacity inElementSize outbound outCapacity outElementSize =>
    "channel up: in=" ++ ringText inbound inCapacity inElementSize ++
      " out=" ++ ringText outbound outCapacity outElementSize
  | .channelDown inbound outbound =>
    "channel down: in=" ++ inbound.full ++ " out=" ++ outbound.full
  | .workerStarted role name => role.label ++ " worker started on " ++ name.full
  | .workerServed role name transferred =>
    role.label ++ " worker on " ++ name.full ++ ": transferred=" ++
      (if transferred then "true" else "false")
  | .workerStopped role name => role.label ++ " worker stopped on " ++ name.full

/-- The line for an event: severity, then words. -/
def line (e : Event) : String := e.severity.label ++ " " ++ e.text

end Event

/-- **What was reported.** -/
structure Journal where
  /-- By the caller's thread, oldest first. -/
  main : Array Event := #[]
  /-- By the workers that have ended, each with its role, oldest first. -/
  workers : List (Role × List Event) := []

namespace Journal

/-- The journal with one more event of the caller's thread. -/
def add (j : Journal) (e : Event) : Journal := { j with main := j.main.push e }

/-- The journal with one more event of the caller's thread, if there is
one. -/
def add? (j : Journal) : Option Event → Journal
  | some e => j.add e
  | none => j

/-- The journal with the events of a worker that has ended. -/
def addWorker (j : Journal) (role : Role) (events : List Event) : Journal :=
  { j with workers := (role, events) :: j.workers }

/-- The name of the thread of a worker. -/
def threadName (role : Role) : String := "dmxp-" ++ role.label

/-- The lines of the caller's thread. -/
def mainLines (j : Journal) : List String := j.main.toList.map Event.line

/-- The lines of the workers: those of one worker in its own order, and
the workers in ascending order of their lines, since which of them ended
first is chance. -/
def workerLines (j : Journal) : List (List String) :=
  (j.workers.map fun w => w.2.map fun e => threadName w.1 ++ ": " ++ e.line).mergeSort
    Text.listsInOrder

end Journal

end TwinRing
