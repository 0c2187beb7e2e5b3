import TwinRing.Script.Session.Basic
import TwinRing.Script.Step
/-!
# Sessions — rings

Opening a ring, and what can be done with an open one: besides single
elements, many at once, and a relay from one view to another with a thread
at each end.
-/

namespace TwinRing

namespace Script

namespace Session

/-- Open a ring under an id. -/
def openRing (w : Session) (id name : String) (g : Geometry) : Answer × Session :=
  match w.store.openRing name g with
  | (.error e, store) => (.segmentFailed e, { w with store })
  | (.ok v, store) =>
    let store := match w.rings.find? id with
      | some old => old.drop store
      | none => store
    (.ring v, { w with store, rings := w.rings.put id v })

/-- Put in the patterns of so many seeds, and count those that went in
along with those that did before. -/
def fill (v : View) (seed : Nat) : Nat → Nat → Store → Nat × Store
  | 0, accepted, s => (accepted, s)
  | n + 1, accepted, s =>
    let (attempt, s) := v.enqueue (pattern seed v.geometry.elementSize.toNat) s
    fill v (seed + 1) n (if attempt.isMoved then accepted + 1 else accepted) s

/-- Take out elements until there are so many or one is refused, and add
them to those that were taken before, the last one first. -/
def drainOnto (v : View) : Nat → List Bytes → Store → List Bytes × Store
  | 0, taken, s => (taken, s)
  | n + 1, taken, s =>
    match v.dequeue (List.replicate v.geometry.elementSize.toNat 0) s with
    | (.moved, element, s) => drainOnto v n (element :: taken) s
    | (_, _, s) => (taken, s)

/-- Take out elements until there are so many or one is refused. -/
def drain (v : View) (count : Nat) (s : Store) : List Bytes × Store :=
  let (taken, s) := drainOnto v count [] s
  (taken.reverse, s)

/-- A relay under way. -/
structure Relay where
  next : Nat := 0
  received : Nat := 0
  ordered : Bool := true

/-- One round of a relay of so many numbers: the sender tries to send one,
and the receiver to receive one. -/
def relayRound (source target : View) (count : Nat) (r : Relay) (s : Store) : Relay × Store :=
  let (r, s) :=
    if r.next < count then
      let (attempt, s) := source.enqueue (Word.toBytes (UInt64.ofNat r.next)) s
      (if attempt.isMoved then { r with next := r.next + 1 } else r, s)
    else (r, s)
  if r.received < count then
    let (attempt, number, s) := target.dequeue (List.replicate 8 0) s
    if attempt.isMoved then
      ({ r with
          received := r.received + 1
          ordered := r.ordered && Word.value number == r.received }, s)
    else (r, s)
  else (r, s)

/-- So many rounds of a relay. -/
def relayRounds (source target : View) (count : Nat) : Nat → Relay → Store → Relay × Store
  | 0, r, s => (r, s)
  | n + 1, r, s =>
    let (r, s) := relayRound source target count r s
    relayRounds source target count n r s

/-- Send so many numbers from one view to another. -/
def relay (source target : View) (count : Nat) (s : Store) : Answer × Store :=
  let (r, s) := relayRounds source target count (2 * count) {} s
  let (length, s) := target.length s
  (.relayed r.received r.ordered length, s)

/-- One step on an open ring. -/
def ringStep (w : Session) (id : String) (v : View) : RingStep → Answer × Session
  | .info => (.ring v, w)
  | .drop => (.flag true, { w with store := v.drop w.store, rings := w.rings.remove id })
  | .destroy unlink =>
    let (result, store) := v.destroy unlink w.store
    (.ofSegment result, { w with store, rings := w.rings.remove id })
  | .enqueue element =>
    let (attempt, s) := v.enqueue element w.store
    let (length, s) := v.length s
    w.answering (.enqueued attempt.isMoved length, s)
  | .dequeue into =>
    let (attempt, buffer, s) :=
      v.dequeue (into.buffer v.geometry.elementSize.toNat) w.store
    let (length, s) := v.length s
    w.answering (.dequeued attempt.isMoved buffer length, s)
  | .fill seed count =>
    let (accepted, s) := fill v seed count 0 w.store
    let (length, s) := v.length s
    w.answering (.filled accepted length, s)
  | .drain count =>
    let (elements, s) := drain v count w.store
    let (length, s) := v.length s
    w.answering (.drained elements length, s)
  | .clear =>
    let (length, s) := v.length (v.clear w.store)
    w.answering (.length length, s)
  | .state band =>
    let o := v.object w.store
    let (occupancy, s) := Occupancy.ask v w.store
    w.answering
      (.ringState occupancy (Ring.readIndex o) (Ring.writeIndex o)
        (if band then some (Ring.band v.geometry o) else none), s)
  | .poke read write =>
    let (occupancy, s) :=
      Occupancy.ask v (w.store.modifyObject v.handle.object (Ring.setIndices read write))
    w.answering (.occupancy occupancy, s)
  | .setLock lock =>
    let (occupancy, s) := Occupancy.ask v (v.handle.setLock w.store lock)
    w.answering (.occupancy occupancy, s)
  | .debug overLines => (.text (v.shown.layout overLines), w)
  | .descriptor => (.descriptorOpen, w)
  | .closeDescriptor => (.flag true, w.onStore v.handle.closeDescriptor)
  | .relay target count =>
    match w.rings.find? target with
    | none => (.refused .noSuchRing, w)
    | some receiver => w.answering (relay v receiver count w.store)

end Session

end Script

end TwinRing
