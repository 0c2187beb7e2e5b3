import TwinRing.Channel
import TwinRing.Proofs.Direction.Sender
import TwinRing.Proofs.Ring.Conduit
/-!
# Both ends — two channels on two rings

Two ends of one channel share nothing but the store. Each has two lanes,
one for what it sends and one for what it receives, and each lane has its
worker and one caller. A `Move` is one step of one of these threads, at
one end, on one lane. All the moves work on the one store, so what an end
sees of the other is what lies in the rings.

An end has no lanes before it is built (`Duplex.build`), which is the
building of a channel and nothing else.
-/

namespace TwinRing

/-- **One of the two ends.** -/
inductive End
  | near
  | far
  deriving DecidableEq

namespace End

def other : End → End
  | .near => .far
  | .far => .near

@[simp] theorem other_other (side : End) : side.other.other = side := by cases side <;> rfl

theorem eq_other_iff {side side' : End} : side = side'.other ↔ side ≠ side' := by
  cases side <;> cases side' <;> simp [other]

end End

/-- The end that sends what goes over a lane. -/
def Role.sender : Role → End → End
  | .writer, side => side
  | .reader, side => side.other

/-- **One step of some thread** on a lane of an end. -/
structure Move where
  side : End
  role : Role
  turn : Turn

/-- **Two ends over one store.** -/
structure Duplex where
  store : Store
  /-- The lanes of the ends that are built. -/
  lane? : End → Role → Option Course

namespace Duplex

/-- A store before either end is built. -/
def unbuilt (s : Store) : Duplex := ⟨s, fun _ _ => none⟩

/-- One end as a channel that was built, the other as it is. -/
def withChannel (d : Duplex) (side : End) (channel : Channel) (s : Store) : Duplex :=
  ⟨s, fun side' role =>
    if side' = side then some { lane := channel.lane role, store := s } else d.lane? side' role⟩

/-- **Build a channel at one end**, if that succeeds. -/
def build (d : Duplex) (side : End) (config : Config) : Option Duplex :=
  match Channel.build config d.store with
  | (.error _, _) => none
  | (.ok channel, s) => some (d.withChannel side channel s)

/-- Let a lane take a turn on the store as it is now. -/
def turned (d : Duplex) (c : Course) (t : Turn) : Course := { c with store := d.store }.soleTurn t

/-- **Let one thread take its step.** -/
def move (d : Duplex) (m : Move) : Duplex :=
  match d.lane? m.side m.role with
  | none => d
  | some c =>
    ⟨(d.turned c m.turn).store, fun side role =>
      if side = m.side ∧ role = m.role then some (d.turned c m.turn) else d.lane? side role⟩

/-- **Let the threads take their steps in an order.** -/
def run (d : Duplex) (moves : List Move) : Duplex := moves.foldl move d

/-- What holds at the start and is kept by every move holds after all. -/
theorem run_induction {P : Duplex → Prop} {d : Duplex} (moves : List Move) (init : P d)
    (step : ∀ d m, P d → P (d.move m)) : P (d.run moves) := by
  induction moves generalizing d with
  | nil => exact init
  | cons m rest ih => exact ih (step d m init)

/-! ## What is seen of it -/

def record (d : Duplex) (side : End) (role : Role) : List Deed :=
  (d.lane? side role).elim [] Course.record

/-- The elements of the pushes that were accepted at an end, in the order
of the calls. -/
def pushed (d : Duplex) (side : End) : List Bytes := pushes (d.record side .writer)

/-- The elements that the sending worker of an end has put in. -/
def sent (d : Duplex) (side : End) : List Bytes := puts (d.record side .writer)

/-- The elements that the receiving worker of an end has taken out. -/
def taken (d : Duplex) (side : End) : List Bytes := (d.record side .reader).flatMap Deed.dequeued

/-- The elements that the getting caller of an end was handed. -/
def delivered (d : Duplex) (side : End) : List Bytes :=
  (d.record side .reader).flatMap Deed.handedOut

/-- The element that is in the receiving worker's hand, or in the slot. -/
def underWay (d : Duplex) (side : End) : List Bytes :=
  (d.lane? side .reader).elim [] fun c => c.exchange.onItsWay

/-- The elements that are unread in the ring that an end receives from. -/
def unread (d : Duplex) (side : End) : List Bytes :=
  (d.lane? side .reader).elim [] fun c =>
    Ring.contents c.lane.view.geometry (c.lane.view.object d.store)

section Move

variable {d : Duplex} {m : Move} {c : Course}

theorem move_of_none (h : d.lane? m.side m.role = none) : d.move m = d := by rw [move, h]

theorem move_of_some (h : d.lane? m.side m.role = some c) :
    d.move m = ⟨(d.turned c m.turn).store, fun side role =>
      if side = m.side ∧ role = m.role then some (d.turned c m.turn) else d.lane? side role⟩ := by
  rw [move, h]

/-- The lane that moves is as its turn leaves it. -/
theorem lane?_move_self (h : d.lane? m.side m.role = some c) :
    (d.move m).lane? m.side m.role = some (d.turned c m.turn) := by
  rw [move_of_some h]
  exact if_pos ⟨rfl, rfl⟩

/-- The others are as they were. -/
theorem lane?_move_of_ne (h : d.lane? m.side m.role = some c) {side : End} {role : Role}
    (hne : ¬ (side = m.side ∧ role = m.role)) :
    (d.move m).lane? side role = d.lane? side role := by
  rw [move_of_some h]
  exact if_neg hne

theorem record_of_some {side : End} {role : Role} (h : d.lane? side role = some c) :
    d.record side role = c.record := by
  rw [record, h]
  rfl

end Move

end Duplex

end TwinRing
