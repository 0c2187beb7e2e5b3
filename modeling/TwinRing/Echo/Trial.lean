import TwinRing.Echo.Responder
import TwinRing.Echo.Sender
/-!
# Echo programs — trials

Runs of the two programs, each alone, each against a peer that plays the
other end by hand, and both against each other.
-/

namespace TwinRing

namespace Echo

/-! ## The stage -/

/-- The store in which segments of given names and sizes exist. -/
def stage : List (String × UInt64) → Store → Store
  | [], s => s
  | (name, size) :: rest, s => stage rest (s.openNamed name size).2

/-- The rings that a peer holds: the one the sender pushes into, and the
one it gets from. -/
structure Peer where
  forward : View
  backward : View

/-- Open the rings for a peer. -/
def openPeer (s : Store) : Option Peer × Store :=
  match s.openRing senderConfig.outName geometry with
  | (.error _, s) => (none, s)
  | (.ok forward, s) =>
    match s.openRing senderConfig.inName geometry with
    | (.error _, s) => (none, s)
    | (.ok backward, s) => (some ⟨forward, backward⟩, s)

/-- Put elements into a ring. -/
def putAll (v : View) : List Bytes → Store → Store
  | [], s => s
  | element :: rest, s => putAll v rest (v.enqueue element s).2

/-- Take an element out of a ring, if there is one. -/
def take? (v : View) (s : Store) : Option Bytes × Store :=
  match v.dequeue (List.replicate Digest.length 0) s with
  | (.moved, element, s) => (some element, s)
  | (_, _, s) => (none, s)

/-! ## The sender -/

/-- How a peer treats the sender's messages. -/
structure Treatment where
  /-- The messages whose echo has one bit wrong. -/
  flipped : List Nat := []
  /-- The message at which the sender is interrupted. -/
  stop? : Option Nat := none

/-- The echo of message number `i` with the lowest bit of one byte
changed, that of byte `i` counted round the element. -/
def flip (i : Nat) (element : Bytes) : Bytes :=
  element.modify (i % element.length) fun b => b ^^^ 1

/-- Answer the sender's messages from number `i` on, at most so many:
what was received, and the sender afterwards. -/
def answerAll (peer : Peer) (t : Treatment) :
    Nat → Nat → Sender → Store → List Bytes × Sender × Store
  | 0, _, p, s => ([], p, s)
  | n + 1, i, p, s =>
    let (p, s) := p.run s
    match take? peer.forward s with
    | (none, s) => ([], p, s)
    | (some element, s) =>
      if t.stop? = some i then
        let (p, s) := p.interrupt s
        let (p, s) := p.run s
        ([element], p, s)
      else
        let echo := if i ∈ t.flipped then flip i element else element
        let (rest, p, s) :=
          answerAll peer t n (i + 1) p (peer.backward.enqueue echo s).2
        (element :: rest, p, s)

/-- **A trial of the sender**: how it ends, and what the peer received. -/
def trySender (arguments : List String) (segments : List (String × UInt64))
    (treatment? : Option Treatment) : Exit × List Bytes :=
  let s := stage segments {}
  let (peer?, s) := match treatment? with
    | none => (none, s)
    | some _ => openPeer s
  match Sender.start arguments s with
  | (.error exit, _) => (exit, [])
  | (.ok p, s) =>
    match peer? with
    | none =>
      let (p, s) := p.run s
      ((p.exit s).1, [])
    | some peer =>
      let (received, p, s) := answerAll peer (treatment?.getD {}) (p.total + 1) 0 p s
      ((p.exit s).1, received)

/-! ## The responder -/

/-- What a peer has for the responder. -/
structure Supply where
  /-- What lies in the responder's outbound ring before it starts. -/
  stale : List Bytes := []
  /-- What lies in its inbound ring before it starts. -/
  preload : List Bytes := []
  /-- What it is sent while it runs. -/
  sent : List Bytes := []
  /-- Whether its echoes are left where they are. -/
  stuck : Bool := false

/-- Take so many echoes. -/
def takeEchoes (peer : Peer) : Nat → Responder → Store → List Bytes × Responder × Store
  | 0, p, s => ([], p, s)
  | n + 1, p, s =>
    let (p, s) := p.run s
    match take? peer.backward s with
    | (none, s) => ([], p, s)
    | (some echo, s) =>
      let (rest, p, s) := takeEchoes peer n p s
      (echo :: rest, p, s)

/-- Send elements, and take the echo of each. -/
def sendAll (peer : Peer) : List Bytes → Responder → Store → List Bytes × Responder × Store
  | [], p, s => ([], p, s)
  | element :: rest, p, s =>
    let (echo, p, s) := takeEchoes peer 1 p (peer.forward.enqueue element s).2
    let (echoes, p, s) := sendAll peer rest p s
    (echo ++ echoes, p, s)

/-- How many elements were left in the responder's two rings. -/
structure Leftover where
  inbound : UInt64
  outbound : UInt64

/-- How a trial of the responder ends: with an exit, the echoes that were
taken, and, if there was a peer, what was left. -/
structure Response where
  /-- How the responder ended. -/
  exit : Exit
  /-- The echoes, in the order in which they were taken. -/
  echoes : List Bytes := []
  /-- What was left, if there was a peer. -/
  leftover? : Option Leftover := none

/-- What a peer finds in the two rings. -/
def leftover (peer : Peer) (s : Store) : Leftover :=
  let (inbound, s) := peer.forward.length s
  ⟨inbound, (peer.backward.length s).1⟩

/-- Interrupt the responder and let it end. -/
def endResponder (p : Responder) (s : Store) : Exit × Store :=
  let (p, s) := p.interrupt s
  let (p, s) := p.run s
  p.exit s

/-- The peer's part in a trial of the responder. -/
def supply (peer : Peer) (given : Supply) (p : Responder) (s : Store) :
    List Bytes × Responder × Store :=
  if given.stuck then
    let (p, s) := p.run s
    let (p, s) := p.run (putAll peer.forward given.sent s)
    ([], p, s)
  else
    let (first, p, s) := takeEchoes peer given.preload.length p s
    let (second, p, s) := sendAll peer given.sent p s
    (first ++ second, p, s)

/-- **A trial of the responder.** -/
def tryResponder (segments : List (String × UInt64)) (supply? : Option Supply) : Response :=
  let s := stage segments {}
  let given := supply?.getD {}
  let (peer?, s) := match supply? with
    | none => (none, s)
    | some _ => openPeer s
  let s := match peer? with
    | none => s
    | some peer => putAll peer.forward given.preload (putAll peer.backward given.stale s)
  match Responder.start s with
  | (.error exit, s) => { exit, leftover? := peer?.map fun peer => leftover peer s }
  | (.ok p, s) =>
    match peer? with
    | none =>
      let (p, s) := p.run s
      { exit := (endResponder p s).1 }
    | some peer =>
      let (echoes, p, s) := supply peer given p s
      let (exit, s) := endResponder p s
      { exit, echoes, leftover? := some (leftover peer s) }

/-! ## Both -/

/-- Let both programs act in turn, at most so many times, until the sender
has ended. -/
def exchange : Nat → Sender → Responder → Store → Sender × Responder × Store
  | 0, p, q, s => (p, q, s)
  | n + 1, p, q, s =>
    let (p, s) := p.run s
    if p.hasEnded then (p, q, s)
    else
      let (q, s) := q.run s
      exchange n p q s

/-- **A trial of both**: the responder starts and waits, the sender runs
with its command line to its end, and the responder is interrupted. Each
message takes one turn of both. -/
def tryBoth (arguments : List String) : Exit × Exit :=
  match Responder.start {} with
  | (.error exit, _) => (exit, exit)
  | (.ok q, s) =>
    let (q, s) := q.run s
    match Sender.start arguments s with
    | (.error exit, s) => (exit, (endResponder q s).1)
    | (.ok p, s) =>
      let (p, q, s) := exchange (p.total + 2) p q s
      let (exit, s) := p.exit s
      let (q, s) := q.run s
      (exit, (endResponder q s).1)

end Echo

end TwinRing
