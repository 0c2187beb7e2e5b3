import TwinRing.Direction.Handshake
import TwinRing.Ring.View
/-!
# Lanes

One direction of a channel with the ring it works on. The worker goes to
the ring with a buffer and comes back with what became of it; all else is
the handshake's. A lane is settled when nobody on it can take a step: the
worker sleeps or has ended, and every blocking call sleeps or has
returned. What a caller sees who waits for that does not depend on the
order in which the threads took their steps.
-/

namespace TwinRing

/-- **One direction and its ring.** -/
structure Lane where
  view : View
  handshake : Handshake
  events : Array Event := #[]

namespace Lane

/-- A lane on a ring, with no worker. -/
def ofView (view : View) (role : Role) (elementSize : UInt64) : Lane :=
  { view, handshake := { direction := { role, elementSize } } }

/-- The shared state of the direction. -/
def direction (l : Lane) : Direction := l.handshake.direction

/-- The side of the ring that the worker drives. -/
def role (l : Lane) : Role := l.direction.role

/-- The lane with its handshake changed. -/
def onHandshake (l : Lane) (change : Handshake → Handshake) : Lane :=
  { l with handshake := change l.handshake }

/-! ## Steps -/

/-- Start a worker. -/
def spawn (l : Lane) : Lane :=
  { l with
    handshake := { l.handshake with worker := some .looking }
    events := l.events.push (.workerStarted l.role l.view.name) }

/-- The reports that the worker leaves after it has been at the ring. -/
def serviceEvents (l : Lane) (attempt : Attempt) : List Event :=
  (l.view.attemptReport? attempt).toList ++
    [.workerServed l.role l.view.name attempt.isMoved]

/-- **The next step of the worker.** -/
def workerStep (l : Lane) (s : Store) : Lane × Store :=
  match l.handshake.worker with
  | some (.serving buffer) =>
    let ((attempt, buffer), s) := s.updateObject l.view.handle.object fun o =>
      let (attempt, buffer, o) := Ring.serve l.role l.view.geometry buffer o
      ((attempt, buffer), o)
    ({ l with
        handshake := l.handshake.served ⟨attempt.isMoved, buffer⟩
        events := l.events.appendList (l.serviceEvents attempt) },
      s)
  | some .leaving =>
    ({ l with
        handshake := l.handshake.workerStep
        events := l.events.push (.workerStopped l.role l.view.name) }, s)
  | _ => (l.onHandshake Handshake.workerStep, s)

/-- **The next step of the blocking call with a ticket.** -/
def callStep (l : Lane) (ticket : Nat) : Lane := l.onHandshake fun h => h.callStep ticket

/-! ## Running -/

/-- One step of some thread that can take one, the worker first; nothing,
if the lane is settled. -/
def stepAny (l : Lane) (s : Store) : Option (Lane × Store) :=
  match l.handshake.worker with
  | some phase =>
    if phase.isQuiet then stepCall else some (l.workerStep s)
  | none => stepCall
where
  /-- One step of the first blocking call that can take one. -/
  stepCall : Option (Lane × Store) :=
    (l.handshake.calls.find? fun c => !c.isQuiet).map fun c => (l.callStep c.ticket, s)

/-- At most so many steps, until the lane is settled. -/
def steps : Nat → Lane → Store → Lane × Store
  | 0, l, s => (l, s)
  | n + 1, l, s =>
    match l.stepAny s with
    | none => (l, s)
    | some (l, s) => steps n l s

/-- How many steps a lane is given to settle: one attempt of a call takes
at most nine, and a call makes at most twelve before it sleeps. -/
def stepBound (l : Lane) : Nat := 128 * (l.handshake.calls.length + 1)

/-- **Let all threads of the lane act until it is settled.** -/
def settle (l : Lane) (s : Store) : Lane × Store := steps l.stepBound l s

/-- Let a span of time pass, and settle. -/
def elapse (l : Lane) (span : Duration) (s : Store) : Lane × Store :=
  (l.onHandshake (Handshake.elapse span)).settle s

/-! ## What a caller does -/

/-- Issue a request and let it be served. -/
def submit (l : Lane) (buffer : Bytes) (s : Store) : Except ChannelError Unit × Lane × Store :=
  let (result, h) := l.handshake.submit buffer
  (result, { l with handshake := h }.settle s)

/-- Collect a finished request. -/
def takeResult (l : Lane) : Option Transfer × Lane :=
  let (t?, h) := l.handshake.takeResult
  (t?, { l with handshake := h })

/-- Start a blocking call; no thread acts yet. -/
def call (l : Lane) (buffer : Bytes) (policy : RetryPolicy) : Nat × Lane :=
  let (ticket, h) := l.handshake.begin buffer policy
  (ticket, { l with handshake := h })

/-- Start a blocking call and let it run until it has returned or sleeps. -/
def begin (l : Lane) (buffer : Bytes) (policy : RetryPolicy) (s : Store) : Nat × Lane × Store :=
  let (ticket, l) := l.call buffer policy
  (ticket, l.settle s)

/-- Shut the direction down and let everyone notice. -/
def signalExit (l : Lane) (s : Store) : Lane × Store :=
  (l.onHandshake Handshake.signalExit).settle s

/-- **Shut the direction down and wait for the worker to end.** What it
has reported goes to the journal. -/
def join (l : Lane) (s : Store) : Lane × Store :=
  let (l, s) := l.signalExit s
  ({ l with handshake := { l.handshake with worker := none }, events := #[] },
    s.reportWorker l.role l.events.toList)

end Lane

end TwinRing
