import TwinRing.Script.Session.Basic
import TwinRing.Script.Step
/-!
# Sessions — channels

Building a channel, and what can be done with an open one: requests,
blocking calls and jobs, and a stream from one channel to another with a
thread at each end.
-/

namespace TwinRing

namespace Script

namespace Session

/-- Build a channel under an id. -/
def openChannel (w : Session) (id : String) (config : Config) : Answer × Session :=
  match Channel.build config w.store with
  | (.error e, store) => (.channelFailed e, { w with store })
  | (.ok c, store) =>
    let w := { w with store }
    let w := match w.channels.find? id with
      | some old => w.dropChannel id old
      | none => w
    (.built c, { w with channels := w.channels.put id c })

/-- A blocking push, from beginning to end. -/
def push (w : Session) (id : String) (c : Channel) (element : Bytes) :
    Option (Except ChannelError Bytes) × Session :=
  let (ticket, next) := c.beginPush element w.store
  (w.withChannel id next).await id .writer ticket

/-- A blocking get, from beginning to end. -/
def get (w : Session) (id : String) (c : Channel) (length : Nat) :
    Option (Except ChannelError Bytes) × Session :=
  let (ticket, next) := c.beginGet length w.store
  (w.withChannel id next).await id .reader ticket

/-- A stream under way. -/
structure Stream where
  pushed : Nat := 0
  push? : Option Nat := none
  received : List Bytes := []
  get? : Option Nat := none
  failed? : Option ChannelError := none
  getFailed : Bool := false

/-- How many of a stream's calls have returned. -/
def Stream.progress (r : Stream) : Nat :=
  r.pushed + r.received.length + (if r.failed?.isSome then 1 else 0) +
    (if r.getFailed then 1 else 0)

/-- Whether the pushing side has something to do, of so many elements. -/
def Stream.isPushing (r : Stream) (count : Nat) : Bool :=
  r.pushed < count && r.failed?.isNone

/-- Whether the getting side has something to do, of so many elements. -/
def Stream.isGetting (r : Stream) (count : Nat) : Bool :=
  r.received.length < count && !r.getFailed

/-- The pushing side's part in a round of a stream: it starts a push if
none is out, and takes note of one that has returned. -/
def streamPush (w : Session) (id : String) (count seed : Nat) (r : Stream) : Stream × Session :=
  match w.channels.find? id with
  | none => (r, w)
  | some c =>
    if r.isPushing count then
      let (ticket, w) := match r.push? with
        | some ticket => (ticket, w)
        | none =>
          let element := pattern (seed + r.pushed) c.config.outElementSize.toNat
          let (ticket, next) := c.beginPush element w.store
          (ticket, w.withChannel id next)
      match w.result? id .writer ticket with
      | none => ({ r with push? := some ticket }, w)
      | some (.ok _) =>
        ({ r with pushed := r.pushed + 1, push? := none }, w.forget id .writer ticket)
      | some (.error e) =>
        ({ r with failed? := some e, push? := none }, w.forget id .writer ticket)
    else (r, w)

/-- The getting side's part in a round of a stream. -/
def streamGet (w : Session) (id : String) (count : Nat) (r : Stream) : Stream × Session :=
  match w.channels.find? id with
  | none => (r, w)
  | some c =>
    if r.isGetting count then
      let (ticket, w) := match r.get? with
        | some ticket => (ticket, w)
        | none =>
          let (ticket, next) := c.beginGet c.config.inElementSize.toNat w.store
          (ticket, w.withChannel id next)
      match w.result? id .reader ticket with
      | none => ({ r with get? := some ticket }, w)
      | some (.ok element) =>
        ({ r with received := r.received ++ [element], get? := none },
          w.forget id .reader ticket)
      | some (.error _) =>
        ({ r with get? := none, getFailed := true }, w.forget id .reader ticket)
    else (r, w)

/-- At most so many rounds of a stream, until both sides are done. After a
round in which neither got any further, time has to pass. -/
def streamRounds (source target : String) (count seed : Nat) :
    Nat → Option Duration → Stream → Session → Stream × Session
  | 0, _, r, w => (r, w)
  | n + 1, waited?, r, w =>
    if r.isPushing count || r.isGetting count then
      let (next, w) := w.streamPush source count seed r
      let (next, w) := w.streamGet target count next
      if next.progress = r.progress then
        match w.pass waited? with
        | none => (next, w)
        | some (waited?, w) => streamRounds source target count seed n waited? next w
      else streamRounds source target count seed n none next w
    else (r, w)

/-- Stream so many elements from one channel to another. Between two calls
that return, of the stream or beside it, each sleep is waited for at most
once. -/
def stream (w : Session) (source target : String) (count seed : Nat) : Answer × Session :=
  let bound := (2 * count + w.callCount + 2) * (w.callCount + 4)
  let (r, w) := streamRounds source target count seed bound none {} w
  let pushed := match r.failed? with
    | none => .ok ()
    | some e => .error e
  (.streamed r.received pushed, w)

/-- One step on an open channel. -/
def channelStep (w : Session) (id : String) (c : Channel) : ChannelStep → Answer × Session
  | .pushSync element =>
    let (result?, w) := w.push id c element
    (result?.elim .done Answer.ofPush, w)
  | .getSync into =>
    let buffer := into.buffer c.config.inElementSize.toNat
    let (result?, w) := w.get id c buffer.length
    (result?.elim .done (Answer.ofGet buffer), w)
  | .pushAsync element =>
    let (result, next) := c.pushAsync element w.store
    (.ofChannel result, w.withChannel id next)
  | .getAsync into =>
    let (result, next) := c.getAsync (into.buffer c.config.inElementSize.toNat) w.store
    (.ofChannel result, w.withChannel id next)
  | .pushDone => (.flag c.pushIsComplete, w)
  | .getDone => (.flag c.getIsComplete, w)
  | .pushResult =>
    let (t?, c) := c.pushResult
    (.result t?, w.withChannel id (c, w.store))
  | .getResult =>
    let (t?, c) := c.getResult
    (.result t?, w.withChannel id (c, w.store))
  | .clearIn => (.done, w.onStore c.clearIn)
  | .clearOut => (.done, w.onStore c.clearOut)
  | .state =>
    let (inbound, s) := Occupancy.ask c.inbound.view w.store
    let (outbound, s) := Occupancy.ask c.outbound.view s
    w.answering (.channelState inbound outbound c, s)
  | .info => (.channel c, w)
  | .debug overLines => (.text (c.shown.layout overLines), w)
  | .shutdown =>
    let (c, store) := c.shutdown w.store
    (.flag c.isShutdown, w.withChannel id (c, store))
  | .isShutdown => (.flag c.isShutdown, w)
  | .drop => (.flag true, w.dropChannel id c)
  | .pushBeside job element attempts =>
    let (ticket, next) := c.beginPush element w.store
    let naps := attempts - Retrier.eagerAttempts c.config.pushRetry
    let w := sleepThrough naps (w.withChannel id next) id .writer ticket
    (.done, { w with jobs := w.jobs.put job { channel := id, role := .writer, ticket } })
  | .getBeside job into attempts =>
    let buffer := into.buffer c.config.inElementSize.toNat
    let (ticket, next) := c.beginGet buffer.length w.store
    let naps := attempts - Retrier.eagerAttempts c.config.getRetry
    let w := sleepThrough naps (w.withChannel id next) id .reader ticket
    (.done, { w with jobs := w.jobs.put job { channel := id, role := .reader, ticket, buffer } })
  | .stream target count seed =>
    match w.channels.find? target with
    | none => (.refused .noSuchChannel, w)
    | some _ => w.stream id target count seed

/-- A step on a channel that was taken down. What shuts it down still
works. -/
def channelStepTakenDown (w : Session) : ChannelStep → Answer × Session
  | .shutdown => (.flag true, w)
  | .isShutdown => (.flag true, w)
  | _ => (.refused .noSuchChannel, w)

end Session

end Script

end TwinRing
