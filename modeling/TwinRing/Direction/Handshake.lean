import TwinRing.Direction.Basic
import TwinRing.Retry
/-!
# The handshake of callers and worker

One direction in motion: its shared state, its worker, and the blocking
calls that are under way on it. Each thread is known by the place it has
come to, and at each place it can do one thing before another thread may
act: enter a critical section, go to the ring, or give a notice.

There are two kinds of notice. One goes to the worker and says that
something is ready for it; one goes to all callers and says that something
is done. A notice reaches only those that sleep when it is given. Whoever
finds nothing to do in a critical section goes to sleep in leaving it, so
that no notice falls between the two.
-/

namespace TwinRing

/-! ## The worker -/

/-- **Where the worker is.** -/
inductive WorkerPhase
  /-- About to look for something to do. -/
  | looking
  /-- Asleep until something is ready. -/
  | asleep
  /-- About to go to the ring with a buffer. -/
  | serving (buffer : Bytes)
  /-- Back from the ring, about to hand the result back. -/
  | publishing (result : Transfer)
  /-- The result is handed back; the callers are to be told. -/
  | announcing
  /-- It has seen the shutdown; the callers are to be told. -/
  | leaving
  /-- It has ended. -/
  | stopped
  deriving DecidableEq

namespace WorkerPhase

/-- Whether the worker can do nothing until it gets a notice. -/
def isQuiet : WorkerPhase → Bool
  | .asleep => true
  | .stopped => true
  | .looking => false
  | .serving _ => false
  | .publishing _ => false
  | .announcing => false
  | .leaving => false

/-- The worker after a notice that something is ready. -/
def noticed : WorkerPhase → WorkerPhase
  | .asleep => .looking
  | .looking => .looking
  | .serving buffer => .serving buffer
  | .publishing result => .publishing result
  | .announcing => .announcing
  | .leaving => .leaving
  | .stopped => .stopped

end WorkerPhase

/-! ## A blocking call -/

/-- **Where a blocking call is.** -/
inductive CallPhase
  /-- About to issue a request. -/
  | submitting (buffer : Bytes)
  /-- The request is accepted; the worker is to be told. -/
  | calling
  /-- About to look for the result. -/
  | checking
  /-- Asleep until something is done. -/
  | asleep
  /-- The ring refused; a sleep before the next attempt is due. -/
  | pausing (buffer : Bytes) (delay : Duration)
  /-- Asleep until the time is up or something is done. -/
  | napping (buffer : Bytes) (delay : Duration)
  /-- Awake after the sleep between attempts. -/
  | roused (buffer : Bytes)
  /-- It has returned. -/
  | returned (result : Except ChannelError Bytes)

/-- **A blocking call**: it issues its buffer again and again until the
element has crossed the ring, or the direction is shut down. -/
structure Call where
  /-- The number it goes by. -/
  ticket : Nat
  /-- How far it has come with its retries. -/
  retrier : Retrier
  /-- Where it is. -/
  phase : CallPhase

namespace Call

/-- Whether the call can do nothing until it gets a notice or its time is
up. -/
def isQuiet (c : Call) : Bool :=
  match c.phase with
  | .asleep => true
  | .napping _ _ => true
  | .returned _ => true
  | .submitting _ => false
  | .calling => false
  | .checking => false
  | .pausing _ _ => false
  | .roused _ => false

/-- The call after a notice that something is done. -/
def noticed (c : Call) : Call :=
  match c.phase with
  | .asleep => { c with phase := .checking }
  | .napping buffer _ => { c with phase := .roused buffer }
  | _ => c

/-- How long its sleep between attempts is, while it sleeps. -/
def nap? (c : Call) : Option Duration :=
  match c.phase with
  | .napping _ delay => some delay
  | _ => none

/-- The call when a span of time has passed: its sleep between attempts is
over, unless that is longer. -/
def elapsed (span : Duration) (c : Call) : Call :=
  match c.phase with
  | .napping buffer delay =>
    if delay.total ≤ span.total then { c with phase := .roused buffer } else c
  | _ => c

/-- What the call has returned, if it has. -/
def result? (c : Call) : Option (Except ChannelError Bytes) :=
  match c.phase with
  | .returned result => some result
  | _ => none

/-- What the call does with a result that it has collected. An element
that has crossed ends the call; a refused one is tried again, after a
sleep if the policy wants one. -/
def collected (c : Call) (t : Transfer) : Call :=
  if t.transferred then { c with phase := .returned (.ok t.buffer) }
  else
    match c.retrier.nextDelay with
    | (none, retrier) => { c with retrier, phase := .submitting t.buffer }
    | (some delay, retrier) => { c with retrier, phase := .pausing t.buffer delay }

/-- **The next step of a call.** Looking for its result it takes one that
is there before it looks at the shutdown. The step that tells the worker
does nothing else; the notice itself is given by the handshake. -/
def step (d : Direction) (c : Call) : Direction × Call :=
  match c.phase with
  | .submitting buffer =>
    match d.submit buffer with
    | (.ok _, d) => (d, { c with phase := .calling })
    | (.error e, d) => (d, { c with phase := .returned (.error e) })
  | .calling => (d, { c with phase := .checking })
  | .checking =>
    match d.takeFinished with
    | (some t, d) => (d, c.collected t)
    | (none, d) =>
      if d.exit then (d, { c with phase := .returned (.error .closed) })
      else (d, { c with phase := .asleep })
  | .pausing buffer delay =>
    if d.exit then (d, { c with phase := .returned (.error .closed) })
    else (d, { c with phase := .napping buffer delay })
  | .roused buffer =>
    if d.exit then (d, { c with phase := .returned (.error .closed) })
    else (d, { c with phase := .submitting buffer })
  | .asleep => (d, c)
  | .napping _ _ => (d, c)
  | .returned _ => (d, c)

end Call

/-! ## Both together -/

/-- **One direction in motion.** -/
structure Handshake where
  /-- The shared state. -/
  direction : Direction
  /-- The worker, if one was started and has not been joined. -/
  worker : Option WorkerPhase := none
  /-- The blocking calls under way. -/
  calls : List Call := []
  /-- The number for the next blocking call. -/
  nextTicket : Nat := 0

namespace Handshake

/-- Tell the worker that something is ready. -/
def noticeWorker (h : Handshake) : Handshake :=
  { h with worker := h.worker.map WorkerPhase.noticed }

/-- Tell all callers that something is done. -/
def noticeCalls (h : Handshake) : Handshake := { h with calls := h.calls.map Call.noticed }

/-- **The next step of the worker**, its way to the ring apart. -/
def workerStep (h : Handshake) : Handshake :=
  match h.worker with
  | some .looking =>
    match h.direction.pickUp with
    | (.nothing, d) => { h with direction := d, worker := some .asleep }
    | (.exit, d) => { h with direction := d, worker := some .leaving }
    | (.noRequest, d) => { h with direction := d, worker := some .looking }
    | (.request buffer, d) => { h with direction := d, worker := some (.serving buffer) }
  | some (.publishing t) =>
    { h with direction := h.direction.publish t, worker := some .announcing }
  | some .announcing => { h.noticeCalls with worker := some .looking }
  | some .leaving => { h.noticeCalls with worker := some .stopped }
  | some (.serving _) => h
  | some .asleep => h
  | some .stopped => h
  | none => h

/-- The handshake after the worker has been at the ring. -/
def served (h : Handshake) (t : Transfer) : Handshake :=
  { h with worker := some (.publishing t) }

/-- **The next step of the blocking call with a ticket.** -/
def callStep (h : Handshake) (ticket : Nat) : Handshake :=
  match h.calls.find? (·.ticket == ticket) with
  | none => h
  | some c =>
    let (d, c') := c.step h.direction
    let h' := { h with
      direction := d
      calls := h.calls.map fun other => if other.ticket = ticket then c' else other }
    match c.phase with
    | .calling => h'.noticeWorker
    | _ => h'

/-! ## What a caller does in one go -/

/-- Issue a request and tell the worker. -/
def submit (h : Handshake) (buffer : Bytes) : Except ChannelError Unit × Handshake :=
  match h.direction.submit buffer with
  | (.ok _, d) => (.ok (), { h with direction := d }.noticeWorker)
  | (.error e, d) => (.error e, { h with direction := d })

/-- Collect a finished request. -/
def takeResult (h : Handshake) : Option Transfer × Handshake :=
  let (t?, d) := h.direction.takeFinished
  (t?, { h with direction := d })

/-- Shut the direction down, and tell the worker and all callers. -/
def signalExit (h : Handshake) : Handshake :=
  { h with direction := h.direction.signalExit }.noticeWorker.noticeCalls

/-- Start a blocking call. -/
def begin (h : Handshake) (buffer : Bytes) (policy : RetryPolicy) : Nat × Handshake :=
  (h.nextTicket,
    { h with
      calls := h.calls ++ [⟨h.nextTicket, ⟨policy, 0⟩, .submitting buffer⟩]
      nextTicket := h.nextTicket + 1 })

/-- What the blocking call with a ticket has returned, if it has. -/
def result? (h : Handshake) (ticket : Nat) : Option (Except ChannelError Bytes) :=
  (h.calls.find? (·.ticket == ticket)).bind Call.result?

/-- The handshake without the blocking call with a ticket. -/
def forget (h : Handshake) (ticket : Nat) : Handshake :=
  { h with calls := h.calls.filter fun c => c.ticket ≠ ticket }

/-- How long the blocking call with a ticket sleeps between attempts,
while it does. -/
def nap? (h : Handshake) (ticket : Nat) : Option Duration :=
  (h.calls.find? (·.ticket == ticket)).bind Call.nap?

/-- The sleeps between attempts. -/
def naps (h : Handshake) : List Duration := h.calls.filterMap Call.nap?

/-- Let a span of time pass: every sleep between attempts that is not
longer is over. -/
def elapse (span : Duration) (h : Handshake) : Handshake :=
  { h with calls := h.calls.map (Call.elapsed span) }

/-- How many blocking calls have returned. -/
def returnedCount (h : Handshake) : Nat := h.calls.countP fun c => c.result?.isSome

end Handshake

end TwinRing
