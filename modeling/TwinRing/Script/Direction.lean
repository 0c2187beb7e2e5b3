import TwinRing.Script.Answer
import TwinRing.Script.Pattern
/-!
# Scripts for one direction

A direction and a ring, driven step by step. No worker acts until one is
started; from then on the script lets the lane settle after each step. A
blocking call that is started goes on beside the script until it has
returned or sleeps. While it is out, the script does not wait for anyone
after a step, so its steps follow each other before a thread that they
woke can act; all threads act again when the script waits for the call.
-/

namespace TwinRing

namespace Script

/-- **A step of a script for one direction.** -/
inductive DirectionStep
  | submit (buffer : Bytes)
  | take
  | isComplete
  | state
  | debug
  | setRequest (r : Request)
  | setReady (value : Bool)
  | exit
  | spawn
  | join
  | transfer (buffer : Bytes) (policy : RetryPolicy)
  | transferStart (buffer : Bytes) (policy : RetryPolicy)
  | transferJoin
  | enqueue (element : Bytes)
  | dequeue (into : Destination)
  | length
  | refused (why : Refusal)

/-- A direction under a script. -/
structure DirectionRun where
  /-- The direction, its worker and its ring. -/
  lane : Lane
  /-- The store that the ring is in. -/
  store : Store
  /-- The blocking call beside the script, if there is one. -/
  ticket? : Option Nat := none

namespace DirectionRun

/-- The run with its lane and its store changed. -/
def withLane (r : DirectionRun) (next : Lane × Store) : DirectionRun :=
  { r with lane := next.1, store := next.2 }

/-- The run with its lane changed. The lane settles, unless a blocking call
is out. -/
def acting (r : DirectionRun) (lane : Lane) : DirectionRun :=
  match r.ticket? with
  | none => r.withLane (lane.settle r.store)
  | some _ => { r with lane }

/-- Wait for the blocking call with a ticket. All threads act, and if the
call then sleeps, its time passes. -/
def await (r : DirectionRun) (ticket : Nat) : Answer × DirectionRun :=
  let r := r.withLane (r.lane.settle r.store)
  let r := match r.lane.handshake.nap? ticket with
    | some span => r.withLane (r.lane.elapse span r.store)
    | none => r
  let answer := match r.lane.handshake.result? ticket with
    | some (.ok buffer) => Answer.transferred buffer
    | some (.error e) => .channelFailed e
    | none => .done
  (answer, { r with lane := r.lane.onHandshake fun h => h.forget ticket })

/-- The run with the shared state changed past all rules. -/
def setDirection (r : DirectionRun) (change : Direction → Direction) : DirectionRun :=
  { r with lane := r.lane.onHandshake fun h => { h with direction := change h.direction } }

/-- **One step.** -/
def step (r : DirectionRun) : DirectionStep → Answer × DirectionRun
  | .submit buffer =>
    let (result, handshake) := r.lane.handshake.submit buffer
    (.ofChannel result, r.acting { r.lane with handshake })
  | .take =>
    let (t?, lane) := r.lane.takeResult
    (.result t?, { r with lane })
  | .isComplete => (.flag r.lane.direction.complete, r)
  | .state => (.direction r.lane.direction, r)
  | .debug => (.text r.lane.direction.shown.flat, r)
  | .setRequest request => (.done, r.setDirection fun d => { d with request })
  | .setReady ready => (.done, r.setDirection fun d => { d with ready })
  | .exit => (.done, r.acting (r.lane.onHandshake Handshake.signalExit))
  | .spawn =>
    match r.lane.handshake.worker with
    | some _ => (.refused .workerRunning, r)
    | none => (.done, r.acting r.lane.spawn)
  | .join =>
    match r.lane.handshake.worker with
    | none => (.refused .noWorker, r)
    | some _ => (.flag true, r.withLane (r.lane.join r.store))
  | .transfer buffer policy =>
    let (ticket, next) := r.lane.begin buffer policy r.store
    (r.withLane next).await ticket
  | .transferStart buffer policy =>
    let (ticket, next) := r.lane.begin buffer policy r.store
    (.done, { r.withLane next with ticket? := some ticket })
  | .transferJoin =>
    match r.ticket? with
    | none => (.refused .noTransfer, r)
    | some ticket => { r with ticket? := none }.await ticket
  | .enqueue element =>
    let (attempt, store) := r.lane.view.enqueue element r.store
    (.flag attempt.isMoved, { r with store })
  | .dequeue into =>
    let buffer := into.buffer r.lane.view.geometry.elementSize.toNat
    let (attempt, buffer, store) := r.lane.view.dequeue buffer r.store
    (.dequeuedOnly attempt.isMoved buffer, { r with store })
  | .length =>
    let (n, store) := r.lane.view.length r.store
    (.number n, { r with store })
  | .refused why => (.refused why, r)

/-- All steps in order. -/
def answers (r : DirectionRun) : List DirectionStep → List Answer
  | [] => []
  | step :: rest =>
    let (answer, r) := r.step step
    answer :: r.answers rest

end DirectionRun

/-- The name of the ring that a script for one direction works on. -/
def directionRing : String := "/dmxp_direction"

/-- **Run a script for one direction**, of a role and an element size, on
a new ring. -/
def runDirection (role : Role) (elementSize : UInt64) (ring : Geometry)
    (steps : List DirectionStep) : Except SegmentError (List Answer) :=
  match ({} : Store).openRing directionRing ring with
  | (.error e, _) => .error e
  | (.ok view, store) =>
    .ok ({ lane := Lane.ofView view role elementSize, store : DirectionRun }.answers steps)

end Script

end TwinRing
