import TwinRing.Config
import TwinRing.Direction.Lane
/-!
# Channels

One end of a two-way channel: an inbound ring with a worker that takes
elements out for its callers, and an outbound ring with a worker that puts
their elements in. The other end has the same two rings the other way
round, in another process or in the same one.

A channel is built in a fixed order: the inbound ring, the outbound ring,
the clears, the two workers. Whatever fails, no worker is left running and
no ring is left open; what was created stays behind under its name.
-/

namespace TwinRing

/-- **One end of a two-way channel.** -/
structure Channel where
  config : Config
  inbound : Lane
  outbound : Lane

namespace Channel

/-! ## Building -/

/-- Clear a ring if asked to. -/
def clearIf (asked : Bool) (v : View) (s : Store) : Store := if asked then v.clear s else s

/-- Start the worker of a lane and let it settle. -/
def startWorker (l : Lane) (s : Store) : Except OsError Lane × Store :=
  match s.strike .spawn with
  | (some e, s) => (.error e, s)
  | (none, s) =>
    let (l, s) := l.spawn.settle s
    (.ok l, s)

/-- Start both workers on two open rings. If the second cannot be started,
the first is shut down and waited for. A failure gives up both rings, the
one that was opened last first. -/
def startWorkers (config : Config) (inView outView : View) (s : Store) :
    Except ChannelError Channel × Store :=
  let inbound := Lane.ofView inView .reader config.inElementSize
  let outbound := Lane.ofView outView .writer config.outElementSize
  match startWorker inbound s with
  | (.error e, s) => (.error (.spawnFailed e), inView.drop (outView.drop s))
  | (.ok inbound, s) =>
    match startWorker outbound s with
    | (.error e, s) =>
      let (_, s) := inbound.join s
      (.error (.spawnFailed e), inView.drop (outView.drop s))
    | (.ok outbound, s) =>
      (.ok { config, inbound, outbound },
        s.report (.channelUp
          inView.name config.inCapacity.toNat config.inElementSize.toNat
          outView.name config.outCapacity.toNat config.outElementSize.toNat))

/-- **Build a channel.** -/
def build (config : Config) (s : Store) : Except ChannelError Channel × Store :=
  match s.openRing config.inName config.inGeometry with
  | (.error e, s) => (.error (.segment e), s)
  | (.ok inView, s) =>
    match s.openRing config.outName config.outGeometry with
    | (.error e, s) => (.error (.segment e), inView.drop s)
    | (.ok outView, s) =>
      startWorkers config inView outView
        (clearIf config.clearOut outView (clearIf config.clearIn inView s))

/-! ## Requests -/

/-- **Hand an element to the writer.** It comes back with the result. -/
def pushAsync (c : Channel) (element : Bytes) (s : Store) :
    Except ChannelError Unit × Channel × Store :=
  let (result, outbound, s) := c.outbound.submit element s
  (result, { c with outbound }, s)

/-- **Hand a buffer to the reader.** It comes back with the result. -/
def getAsync (c : Channel) (buffer : Bytes) (s : Store) :
    Except ChannelError Unit × Channel × Store :=
  let (result, inbound, s) := c.inbound.submit buffer s
  (result, { c with inbound }, s)

/-- Whether the last push has put its element in and not been collected. -/
def pushIsComplete (c : Channel) : Bool := c.outbound.direction.complete

/-- Whether the last get has taken an element out and not been collected. -/
def getIsComplete (c : Channel) : Bool := c.inbound.direction.complete

/-- Collect the finished push, if there is one. -/
def pushResult (c : Channel) : Option Transfer × Channel :=
  let (t?, l) := c.outbound.takeResult
  (t?, { c with outbound := l })

/-- Collect the finished get, if there is one. -/
def getResult (c : Channel) : Option Transfer × Channel :=
  let (t?, l) := c.inbound.takeResult
  (t?, { c with inbound := l })

/-! ## Blocking calls -/

/-- Start a blocking push; no thread acts yet. -/
def callPush (c : Channel) (element : Bytes) : Nat × Channel :=
  let (ticket, outbound) := c.outbound.call element c.config.pushRetry
  (ticket, { c with outbound })

/-- Start a blocking get into a buffer of so many bytes; no thread acts
yet. The call works on a buffer of its own, so the caller's stays as it is
until there is an element. -/
def callGet (c : Channel) (length : Nat) : Nat × Channel :=
  let (ticket, inbound) := c.inbound.call (List.replicate length 0) c.config.getRetry
  (ticket, { c with inbound })

/-- **What a blocking get leaves in its caller's buffer** when it returns:
the element, or else what was in it. An element goes only into a buffer of
its own length; with another there is nothing that the get could do. -/
def fill? (buffer : Bytes) : Except ChannelError Bytes → Option (Except ChannelError Unit × Bytes)
  | .ok element => if element.length = buffer.length then some (.ok (), element) else none
  | .error e => some (.error e, buffer)

/-- Start a blocking push and let it run until it has returned or sleeps. -/
def beginPush (c : Channel) (element : Bytes) (s : Store) : Nat × Channel × Store :=
  let (ticket, c) := c.callPush element
  let (outbound, s) := c.outbound.settle s
  (ticket, { c with outbound }, s)

/-- Start a blocking get and let it run until it has returned or sleeps. -/
def beginGet (c : Channel) (length : Nat) (s : Store) : Nat × Channel × Store :=
  let (ticket, c) := c.callGet length
  let (inbound, s) := c.inbound.settle s
  (ticket, { c with inbound }, s)

/-- The lane whose worker has a role: pushes are on the writer's, gets on
the reader's. -/
def lane (c : Channel) : Role → Lane
  | .reader => c.inbound
  | .writer => c.outbound

/-- How long a blocking call on a lane sleeps between attempts, while it
does. -/
def nap? (c : Channel) (role : Role) (ticket : Nat) : Option Duration :=
  (c.lane role).handshake.nap? ticket

/-- What a blocking call on a lane has returned, if it has. -/
def result? (c : Channel) (role : Role) (ticket : Nat) : Option (Except ChannelError Bytes) :=
  (c.lane role).handshake.result? ticket

/-- The channel without a blocking call on a lane. -/
def forget (c : Channel) (ticket : Nat) : Role → Channel
  | .reader => { c with inbound := c.inbound.onHandshake fun h => h.forget ticket }
  | .writer => { c with outbound := c.outbound.onHandshake fun h => h.forget ticket }

/-! ## Rings and time -/

/-- Discard all that is unread in the inbound ring. -/
def clearIn (c : Channel) (s : Store) : Store := c.inbound.view.clear s

/-- Discard all that is unread in the outbound ring. -/
def clearOut (c : Channel) (s : Store) : Store := c.outbound.view.clear s

/-- The sleeps between attempts of the blocking calls on the channel. -/
def naps (c : Channel) : List Duration := c.inbound.handshake.naps ++ c.outbound.handshake.naps

/-- Let a span of time pass, and settle. -/
def elapse (c : Channel) (span : Duration) (s : Store) : Channel × Store :=
  let (inbound, s) := c.inbound.elapse span s
  let (outbound, s) := c.outbound.elapse span s
  ({ c with inbound, outbound }, s)

/-- How many blocking calls on the channel have returned. -/
def returnedCount (c : Channel) : Nat :=
  c.inbound.handshake.returnedCount + c.outbound.handshake.returnedCount

/-- How many blocking calls are on the channel. -/
def callCount (c : Channel) : Nat :=
  c.inbound.handshake.calls.length + c.outbound.handshake.calls.length

/-! ## Shutting down -/

/-- **Shut both directions down**, the inbound one first. -/
def shutdown (c : Channel) (s : Store) : Channel × Store :=
  let (inbound, s) := c.inbound.signalExit s
  let (outbound, s) := c.outbound.signalExit s
  ({ c with inbound, outbound }, s)

/-- Whether both directions have been shut down. -/
def isShutdown (c : Channel) : Bool := c.inbound.direction.exit && c.outbound.direction.exit

/-- **Take the channel down**: shut it down, wait for the workers, and
give up the inbound ring and then the outbound one. -/
def drop (c : Channel) (s : Store) : Store :=
  let (c, s) := c.shutdown s
  let (inbound, s) := c.inbound.join s
  let (outbound, s) := c.outbound.join s
  let s := s.report (.channelDown inbound.view.name outbound.view.name)
  outbound.view.drop (inbound.view.drop s)

/-! ## Showing -/

/-- A channel as a diagnostic message shows it. -/
def shown (c : Channel) : Text.Shown :=
  .fields "Channel"
    [("in", c.inbound.view.shown), ("out", c.outbound.view.shown),
      ("get_complete", .flag c.getIsComplete), ("push_complete", .flag c.pushIsComplete),
      ("poll_delay", c.config.pollDelay.shown)] false

end Channel

end TwinRing
