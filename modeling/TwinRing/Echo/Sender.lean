import TwinRing.Echo.Count
import TwinRing.Echo.Setup
/-!
# Echo programs — the sender

The sender takes a number of messages from its command line. It pushes one
message after the other, and after each waits for the echo and compares.
It has at most one message on its way. An interrupt shuts its channel
down, and then whatever it waits for fails.
-/

namespace TwinRing

namespace Echo

/-- **Where the sender is.** -/
inductive SenderPhase
  /-- It waits for its push to return. -/
  | pushing (ticket : Nat)
  /-- It waits for its get to return. -/
  | getting (ticket : Nat)
  /-- It has ended, with an exit code. -/
  | ended (code : Nat)

/-- **The sender.** -/
structure Sender where
  channel : Channel
  /-- What it sends in each round. -/
  messages : Nat → Bytes
  total : Nat
  finished : Nat := 0
  matched : Nat := 0
  phase : SenderPhase
  output : Output

namespace Sender

/-- The sender with a blocking push of a message begun. -/
def beginPush (p : Sender) (element : Bytes) : Sender :=
  let (ticket, channel) := p.channel.callPush element
  { p with channel, phase := .pushing ticket }

/-- The sender with a blocking get begun. -/
def beginGet (p : Sender) : Sender :=
  let (ticket, channel) := p.channel.callGet Digest.length
  { p with channel, phase := .getting ticket }

/-- The sender when an error has stopped it. -/
def fail (p : Sender) (e : ChannelError) : Sender :=
  { p with phase := .ended 1, output := p.output.fail e }

/-- The sender at the beginning of a round: it pushes the next message, or
ends with a summary. -/
def nextRound (p : Sender) : Sender :=
  if p.finished < p.total then p.beginPush (p.messages p.finished)
  else
    { p with
      phase := .ended 0
      output := p.output.sayTimed
        ("Ping: " ++ Nat.repr p.matched ++ "/" ++ Nat.repr p.total ++ " echoes matched in ") }

/-- What the sender notes about the echo of the message on its way. -/
def noteEcho (p : Sender) (echo : Bytes) : Sender :=
  let p :=
    if echo = p.messages p.finished then { p with matched := p.matched + 1 }
    else
      { p with
        output := p.output.complain ("Ping: echo mismatch at message " ++ Nat.repr p.finished) }
  let p := { p with finished := p.finished + 1 }
  if p.finished % 100 = 0 then
    { p with
      output := p.output.say ("Round-tripped " ++ Nat.repr p.finished ++ " messages") }
  else p

/-- **What the sender does when the call it waits for has returned**;
nothing, while it has not. -/
def react (p : Sender) : Option Sender :=
  match p.phase with
  | .ended _ => none
  | .pushing ticket =>
    match p.channel.result? .writer ticket with
    | none => none
    | some (.error e) => some (p.fail e)
    | some (.ok _) =>
      some { p with channel := p.channel.forget ticket .writer }.beginGet
  | .getting ticket =>
    match p.channel.result? .reader ticket with
    | none => none
    | some (.error e) => some (p.fail e)
    | some (.ok echo) =>
      let p := { p with channel := p.channel.forget ticket .reader }
      some (p.noteEcho echo).nextRound

/-- The least number of bytes that is refused when a program asks for them
at once. -/
def memoryBound : Nat := 0x400000000

/-- Start the sender on so many of the messages, unless it cannot build
its end. -/
def startWith (messages : Nat → Bytes) (count : Nat) (output : Output) (s : Store) :
    Except Exit Sender × Store :=
  match Channel.build senderConfig s with
  | (.error e, s) => (.error ⟨some 1, output.fail e⟩, s)
  | (.ok channel, s) =>
    let output := output.say ("Ping: " ++ channel.outbound.view.name.full ++ " -> " ++
      channel.inbound.view.name.full)
    let p : Sender := { channel, messages, total := count, phase := .ended 0, output }
    (.ok p.nextRound, s)

/-- **Start the sender** with its command line, its own name apart. It
ends at once if it is not told a count, if no memory could hold so many
messages or none is granted for them, or if it cannot build its end. -/
def start (arguments : List String) (s : Store) : Except Exit Sender × Store :=
  match arguments with
  | [] => (.error ⟨some 1, ({} : Output).complain "Usage: ping <num_messages>"⟩, s)
  | text :: _ =>
    match countOfText text with
    | .error problem =>
      (.error ⟨some 101, ({} : Output).complain
        ("Invalid number of messages: " ++ problem.message)⟩, s)
    | .ok count =>
      let output := ({} : Output).say ("Ping: Precomputing " ++ Nat.repr count ++ " hashes...")
      let size := Digest.length * count
      if Store.sizeBound ≤ size then
        (.error ⟨some 101, output.complain "capacity overflow"⟩, s)
      else if memoryBound ≤ size then
        (.error ⟨none, output.complain
          ("memory allocation of " ++ Nat.repr size ++ " bytes failed")⟩, s)
      else startWith message count
        (output.sayTimed ("Ping: Precomputed " ++ Nat.repr count ++ " hashes in ")) s

/-- An interrupt: the channel is shut down. -/
def interrupt (p : Sender) (s : Store) : Sender × Store :=
  let (channel, s) := p.channel.shutdown s
  ({ p with channel }, s)

/-- Let the sender and its workers act, at most so many times, until it
waits for the other end or has ended. -/
def runWithin : Nat → Sender → Store → Sender × Store
  | 0, p, s => (p, s)
  | n + 1, p, s =>
    let (channel, s) := p.channel.elapse p.channel.config.pollDelay s
    match { p with channel }.react with
    | none => ({ p with channel }, s)
    | some p => runWithin n p s

/-- **Let the sender and its workers act** until it waits for the other
end or has ended. Each message takes two of its steps. -/
def run (p : Sender) (s : Store) : Sender × Store :=
  runWithin (2 * (p.total - p.finished) + 2) p s

/-- Whether the sender has ended. -/
def hasEnded (p : Sender) : Bool :=
  match p.phase with
  | .ended _ => true
  | .pushing _ => false
  | .getting _ => false

/-- The end of the sender; one that has not ended is ended as by an
error. -/
def exit (p : Sender) (s : Store) : Exit × Store :=
  let code := match p.phase with
    | .ended code => code
    | .pushing _ => 1
    | .getting _ => 1
  (⟨some code, p.output⟩, p.channel.drop s)

end Sender

end Echo

end TwinRing
