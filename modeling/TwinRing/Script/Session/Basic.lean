import TwinRing.Script.Answer
import TwinRing.Script.Registry
/-!
# Sessions — state and waiting

Segments, rings and channels over one store. Every handle has an id, and
ids of segments, of rings and of channels do not meet.

A blocking call may run beside the session as a job. It goes on until it
has returned or sleeps, and again whenever the session waits for something
itself, since waiting is what lets time pass. A session waits no longer
than it has to: of the sleeps under way the shortest ends first, and a
longer one only if nothing came of the shorter.
-/

namespace TwinRing

namespace Script

/-- A blocking call beside the session. -/
structure Job where
  channel : String
  role : Role
  ticket : Nat
  buffer : Bytes := []
  outcome? : Option (Except ChannelError Bytes) := none

/-- **A session.** -/
structure Session where
  store : Store := {}
  segments : Registry Handle := []
  rings : Registry View := []
  channels : Registry Channel := []
  takenDown : List String := []
  jobs : Registry Job := []

namespace Session

/-- The session with its store changed. -/
def onStore (w : Session) (change : Store → Store) : Session :=
  { w with store := change w.store }

/-- The session with a channel and the store changed. -/
def withChannel (w : Session) (id : String) (next : Channel × Store) : Session :=
  { w with channels := w.channels.put id next.1, store := next.2 }

/-- The session with a new store, and the answer that follows from it. -/
def answering (w : Session) (answer : Answer × Store) : Answer × Session :=
  (answer.1, { w with store := answer.2 })

/-! ## Waiting -/

/-- What a blocking call on a channel has returned, if it has. -/
def result? (w : Session) (id : String) (role : Role) (ticket : Nat) :
    Option (Except ChannelError Bytes) :=
  (w.channels.find? id).bind fun c => c.result? role ticket

/-- The session without a blocking call on a channel. -/
def forget (w : Session) (id : String) (role : Role) (ticket : Nat) : Session :=
  match w.channels.find? id with
  | none => w
  | some c => { w with channels := w.channels.put id (c.forget ticket role) }

/-- Let a span of time pass for some channels, one after the other. -/
def elapseAll (span : Duration) : Registry Channel → Store → Registry Channel × Store
  | [], s => ([], s)
  | (id, c) :: rest, s =>
    let (c, s) := c.elapse span s
    let (rest, s) := elapseAll span rest s
    ((id, c) :: rest, s)

/-- Let a span of time pass. -/
def elapse (w : Session) (span : Duration) : Session :=
  let (channels, store) := elapseAll span w.channels w.store
  { w with channels, store }

/-- The sleeps between attempts that are under way. -/
def naps (w : Session) : List Duration := w.channels.flatMap fun entry => entry.2.naps

/-- The shortest sleep under way that is longer than what was waited
already. -/
def nextNap? (w : Session) (waited? : Option Duration) : Option Duration :=
  Duration.shortest? (w.naps.filter fun nap =>
    match waited? with
    | none => true
    | some waited => waited.total < nap.total)

/-- How many blocking calls have returned and were not looked at. -/
def returnedCount (w : Session) : Nat :=
  w.channels.foldl (fun n entry => n + entry.2.returnedCount) 0

/-- How many blocking calls there are. -/
def callCount (w : Session) : Nat :=
  w.channels.foldl (fun n entry => n + entry.2.callCount) 0

/-- **Let time pass until the next sleep is over**, if there is one: what
was waited by then without any call's return, and the session after it. -/
def pass (w : Session) (waited? : Option Duration) : Option (Option Duration × Session) :=
  (w.nextNap? waited?).map fun span =>
    let later := w.elapse span
    (if later.returnedCount = w.returnedCount then some span else none, later)

/-- Let time pass, at most so many times, until a blocking call has
returned, or until time brings no call any further. -/
def awaitWithin : Nat → Option Duration → Session → String → Role → Nat → Session
  | 0, _, w, _, _, _ => w
  | n + 1, waited?, w, id, role, ticket =>
    match w.result? id role ticket with
    | some _ => w
    | none =>
      match w.pass waited? with
      | none => w
      | some (waited?, w) => awaitWithin n waited? w id role ticket

/-- **Wait for a blocking call.** Between the returns of two calls each
sleep is waited for at most once, so the bound is the square of the number
of calls. -/
def await (w : Session) (id : String) (role : Role) (ticket : Nat) :
    Option (Except ChannelError Bytes) × Session :=
  let bound := (w.callCount + 1) * (w.callCount + 1)
  let w := awaitWithin bound none w id role ticket
  (w.result? id role ticket, w.forget id role ticket)

/-- Let a blocking call sleep so many times, unless it returns before. -/
def sleepThrough : Nat → Session → String → Role → Nat → Session
  | 0, w, _, _, _ => w
  | n + 1, w, id, role, ticket =>
    match (w.channels.find? id).bind fun c => c.nap? role ticket with
    | none => w
    | some span => sleepThrough n (w.elapse span) id role ticket

/-! ## Giving up -/

/-- Take a channel down. Jobs on it return. -/
def dropChannel (w : Session) (id : String) (c : Channel) : Session :=
  let (c, store) := c.shutdown w.store
  let jobs := w.jobs.map fun entry =>
    if entry.2.channel = id ∧ entry.2.outcome?.isNone then
      (entry.1, { entry.2 with outcome? := c.result? entry.2.role entry.2.ticket })
    else entry
  { w with
    store := c.drop store
    jobs
    channels := w.channels.remove id
    takenDown := id :: w.takenDown }

/-- Give everything up that is open: the channels, the rings, the
segments, each in order of their ids. -/
def close (w : Session) : Store :=
  let s := w.channels.inOrder.foldl (fun s c => c.drop s) w.store
  let s := w.rings.inOrder.foldl (fun s v => v.drop s) s
  w.segments.inOrder.foldl (fun s h => h.drop s) s

end Session

end Script

end TwinRing
