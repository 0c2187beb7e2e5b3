import TwinRing.Echo.Setup
/-!
# Echo programs — the responder

The responder gets an element and pushes it back, again and again, until
an interrupt shuts its channel down. An element that it has pushed back
counts as echoed. It looks at the first element, and says so if that is
not the first message of a sender that has just begun.
-/

namespace TwinRing

namespace Echo

/-- **Where the responder is.** -/
inductive ResponderPhase
  /-- It waits for its get to return. -/
  | getting (ticket : Nat)
  /-- It waits for its push to return. -/
  | pushing (ticket : Nat)
  /-- It has ended, with an exit code. -/
  | ended (code : Nat)

/-- **The responder.** -/
structure Responder where
  channel : Channel
  echoed : Nat := 0
  phase : ResponderPhase
  output : Output

namespace Responder

/-- The responder with a blocking get begun. -/
def beginGet (p : Responder) : Responder :=
  let (ticket, channel) := p.channel.callGet Digest.length
  { p with channel, phase := .getting ticket }

/-- The responder with a blocking push of an element begun. -/
def beginPush (p : Responder) (element : Bytes) : Responder :=
  let (ticket, channel) := p.channel.callPush element
  { p with channel, phase := .pushing ticket }

/-- The responder when a call has failed: a shutdown is how it ends, and
any other error stops it. -/
def fail (p : Responder) (e : ChannelError) : Responder :=
  if e = .closed then
    { p with
      phase := .ended 0
      output := p.output.say
        ("Pong: Shutting down after " ++ Nat.repr p.echoed ++ " echoes") }
  else { p with phase := .ended 1, output := p.output.fail e }

/-- What the responder notes about an element before it echoes it. -/
def noteElement (p : Responder) (element : Bytes) : Responder :=
  if p.echoed = 0 ∧ element ≠ message 0 then
    { p with
      output := p.output.complain
        "Pong: first element is not message_0, is a stale ping still running?" }
  else p

/-- What the responder notes about an element that it has echoed. -/
def noteEcho (p : Responder) : Responder :=
  let p := { p with echoed := p.echoed + 1 }
  if p.echoed % 100 = 0 then
    { p with output := p.output.say ("Echoed " ++ Nat.repr p.echoed ++ " messages") }
  else p

/-- **What the responder does when the call it waits for has returned**;
nothing, while it has not. -/
def react (p : Responder) : Option Responder :=
  match p.phase with
  | .ended _ => none
  | .getting ticket =>
    match p.channel.result? .reader ticket with
    | none => none
    | some (.error e) => some (p.fail e)
    | some (.ok element) =>
      let p := { p with channel := p.channel.forget ticket .reader }
      some ((p.noteElement element).beginPush element)
  | .pushing ticket =>
    match p.channel.result? .writer ticket with
    | none => none
    | some (.error e) => some (p.fail e)
    | some (.ok _) =>
      some { p with channel := p.channel.forget ticket .writer }.noteEcho.beginGet

/-- **Start the responder.** It ends at once if it cannot build its end. -/
def start (s : Store) : Except Exit Responder × Store :=
  match Channel.build responderConfig s with
  | (.error e, s) => (.error ⟨some 1, ({} : Output).fail e⟩, s)
  | (.ok channel, s) =>
    let output := (({} : Output).say
      ("Pong: " ++ channel.inbound.view.name.full ++ " -> " ++
        channel.outbound.view.name.full)).say "Press Ctrl+C to exit..."
    let p : Responder := { channel, phase := .ended 0, output }
    (.ok p.beginGet, s)

/-- An interrupt: the channel is shut down. -/
def interrupt (p : Responder) (s : Store) : Responder × Store :=
  let (channel, s) := p.channel.shutdown s
  ({ p with channel }, s)

/-- Let the responder and its workers act, at most so many times, until it
waits for the other end or has ended. -/
def runWithin : Nat → Responder → Store → Responder × Store
  | 0, p, s => (p, s)
  | n + 1, p, s =>
    let (channel, s) := p.channel.elapse p.channel.config.pollDelay s
    match { p with channel }.react with
    | none => ({ p with channel }, s)
    | some p => runWithin n p s

/-- **Let the responder and its workers act** until it waits for the other
end or has ended. What lies in its inbound ring bounds how long that
takes: each element takes two of its steps, and one may be on its way. -/
def run (p : Responder) (s : Store) : Responder × Store :=
  let waiting := Ring.length p.channel.inbound.view.geometry (p.channel.inbound.view.object s)
  runWithin (2 * waiting.toNat + 4) p s

/-- The end of the responder; one that has not ended is ended as by an
error. -/
def exit (p : Responder) (s : Store) : Exit × Store :=
  let code := match p.phase with
    | .ended code => code
    | .getting _ => 1
    | .pushing _ => 1
  (⟨some code, p.output⟩, p.channel.drop s)

end Responder

end Echo

end TwinRing
