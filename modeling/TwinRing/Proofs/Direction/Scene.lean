import TwinRing.Proofs.Direction.Vigil
/-!
# Lanes under way — all that a thread can do in one step

The scene of a vigil is what its threads can tell each other by: the
direction, the place of the worker, the places of the calls, the notices
that are owed, and the record. `Scene.Step` lists all that one thread can
do to it, guards included. What is proved of notices and sleepers is
proved against this list and never opens a section again.
-/

namespace TwinRing

/-! ## Scenes -/

/-- **What the threads of a lane can tell each other by.** -/
@[ext] structure Scene where
  direction : Direction
  worker : Option WorkerPhase
  call? : Nat → Option Call
  owed : List Pledge
  record : List Deed

/-- **Whose step an act is.** -/
inductive Thread
  /-- A caller that has no blocking call under way, or starts one. -/
  | caller
  | call (ticket : Nat)
  | worker
  /-- Whoever shuts down, gives a notice or moves the clock or the store. -/
  | outside
  deriving DecidableEq

def Act.thread : Act → Thread
  | .issue _ => .caller
  | .collect => .caller
  | .begin _ _ => .caller
  | .call ticket => .call ticket
  | .worker => .worker
  | .timeUp _ => .outside
  | .shutDown => .outside
  | .keep _ => .outside
  | .others _ => .outside

def Vigil.scene (v : Vigil) : Scene :=
  ⟨v.direction, v.worker, v.call?, v.owed, v.course.record⟩

namespace Scene

/-- A request is in the slot, and the worker's flag is up. -/
def accepting (x : Scene) (buffer : Bytes) : Scene :=
  { x with
    direction := { x.direction with request := .pending buffer, ready := true, complete := false } }

/-- The slot is free. -/
def freed (x : Scene) : Scene :=
  { x with direction := { x.direction with request := .empty, complete := false } }

/-- The call with a ticket is at another place. -/
def put (x : Scene) (k : Call) : Scene :=
  { x with call? := fun ticket => if ticket = k.ticket then some k else x.call? ticket }

def workerTold (x : Scene) : Scene := { x with worker := x.worker.map WorkerPhase.noticed }

def callersTold (x : Scene) : Scene :=
  { x with call? := fun ticket => (x.call? ticket).map Call.noticed }

def noting (x : Scene) (deeds : List Deed) : Scene := { x with record := x.record ++ deeds }

/-- **All that a thread can do in one step.** -/
inductive Step (x : Scene) : Thread → Scene → Prop
  /-- A caller is refused, or there is nothing for it. -/
  | refused : Step x .caller x
  | issues (buffer : Bytes) (requester : Option Nat)
      (length : buffer.length = x.direction.elementSize.toNat) (runs : x.direction.exit = false)
      (free : x.direction.request.isOutstanding = false) :
      Step x .caller
        { (x.accepting buffer).noting
            (Course.replacedDeeds requester x.direction.request ++ [.accepted none buffer]) with
          owed := x.owed ++ [.request] }
  | collects (owner : Option Nat) (t : Transfer) (done : x.direction.request = .finished t) :
      Step x .caller (x.freed.noting [.collected none owner t])
  | begins (ticket : Nat) (element : Bytes) (policy : RetryPolicy) (fresh : x.call? ticket = none) :
      Step x .caller
        ((x.put ⟨ticket, ⟨policy, 0⟩, .submitting element⟩).noting [.began ticket element])
  /-- A call that sleeps or has returned does nothing; nor does one that is
  not there. -/
  | quiet (ticket : Nat) (h : ∀ k, x.call? ticket = some k → k.isQuiet = true) :
      Step x (.call ticket) x
  | submits (ticket : Nat) (retrier : Retrier) (buffer : Bytes) (requester : Option Nat)
      (h : x.call? ticket = some ⟨ticket, retrier, .submitting buffer⟩)
      (length : buffer.length = x.direction.elementSize.toNat) (runs : x.direction.exit = false)
      (free : x.direction.request.isOutstanding = false) :
      Step x (.call ticket)
        (((x.accepting buffer).put ⟨ticket, retrier, .calling⟩).noting
          (Course.replacedDeeds requester x.direction.request ++
            [.accepted (some ticket) buffer]))
  /-- A call returns with an error: its request is refused, or it sees that
  the direction is shut down. -/
  | fails (ticket : Nat) (retrier : Retrier) (phase : CallPhase) (e : ChannelError)
      (h : x.call? ticket = some ⟨ticket, retrier, phase⟩)
      (awake : Call.isQuiet ⟨ticket, retrier, phase⟩ = false) (told : phase ≠ .calling)
      (cause : (∃ buffer, phase = .submitting buffer ∧
          x.direction.submit buffer = (.error e, x.direction)) ∨
        x.direction.exit = true ∧ e = .closed) :
      Step x (.call ticket)
        ((x.put ⟨ticket, retrier, .returned (.error e)⟩).noting [.returned ticket (.error e)])
  | tells (ticket : Nat) (retrier : Retrier)
      (h : x.call? ticket = some ⟨ticket, retrier, .calling⟩) :
      Step x (.call ticket) (x.workerTold.put ⟨ticket, retrier, .checking⟩)
  | takes (ticket : Nat) (retrier : Retrier) (owner : Option Nat) (t : Transfer)
      (h : x.call? ticket = some ⟨ticket, retrier, .checking⟩)
      (done : x.direction.request = .finished t) :
      Step x (.call ticket)
        ((x.freed.put (Call.collected ⟨ticket, retrier, .checking⟩ t)).noting
          (.collected (some ticket) owner t :: Call.outcome (some ticket) t))
  | fallsAsleep (ticket : Nat) (retrier : Retrier)
      (h : x.call? ticket = some ⟨ticket, retrier, .checking⟩)
      (nothing : ∀ t, x.direction.request ≠ .finished t) (runs : x.direction.exit = false) :
      Step x (.call ticket) (x.put ⟨ticket, retrier, .asleep⟩)
  | naps (ticket : Nat) (retrier : Retrier) (buffer : Bytes) (delay : Duration)
      (h : x.call? ticket = some ⟨ticket, retrier, .pausing buffer delay⟩)
      (runs : x.direction.exit = false) :
      Step x (.call ticket) (x.put ⟨ticket, retrier, .napping buffer delay⟩)
  | resumes (ticket : Nat) (retrier : Retrier) (buffer : Bytes)
      (h : x.call? ticket = some ⟨ticket, retrier, .roused buffer⟩)
      (runs : x.direction.exit = false) :
      Step x (.call ticket) (x.put ⟨ticket, retrier, .submitting buffer⟩)
  /-- What happens outside has nothing to do with the lane. -/
  | aside : Step x .outside x
  | timeUp (ticket : Nat) (retrier : Retrier) (buffer : Bytes) (delay : Duration)
      (h : x.call? ticket = some ⟨ticket, retrier, .napping buffer delay⟩) :
      Step x .outside (x.put ⟨ticket, retrier, .roused buffer⟩)
  | shutsDown :
      Step x .outside
        { x with direction := x.direction.signalExit, owed := x.owed ++ [.shutDown] }
  | keepsRequest (i : Nat) (h : x.owed[i]? = some .request) :
      Step x .outside { x.workerTold with owed := x.owed.eraseIdx i }
  | keepsShutDown (i : Nat) (h : x.owed[i]? = some .shutDown) :
      Step x .outside { x.workerTold with owed := x.owed.set i .callers }
  | keepsCallers (i : Nat) (h : x.owed[i]? = some .callers) :
      Step x .outside { x.callersTold with owed := x.owed.eraseIdx i }
  /-- A worker that sleeps or has ended does nothing. -/
  | idle (h : ∀ w, x.worker = some w → w.isQuiet = true) : Step x .worker x
  | rests (h : x.worker = some .looking) (down : x.direction.ready = false) :
      Step x .worker { x with worker := some .asleep }
  | leaves (h : x.worker = some .looking) (up : x.direction.ready = true)
      (ended : x.direction.exit = true) :
      Step x .worker
        { x with direction := { x.direction with ready := false }, worker := some .leaving }
  | picksUp (buffer : Bytes) (h : x.worker = some .looking) (up : x.direction.ready = true)
      (runs : x.direction.exit = false) (waits : x.direction.request = .pending buffer) :
      Step x .worker
        { x with
          direction := { x.direction with ready := false, request := .servicing }
          worker := some (.serving buffer) }
  | looksAgain (h : x.worker = some .looking) (up : x.direction.ready = true)
      (runs : x.direction.exit = false) (vain : ∀ buffer, x.direction.request ≠ .pending buffer) :
      Step x .worker
        { x with direction := { x.direction with ready := false }, worker := some .looking }
  | serves (owner : Option Nat) (buffer : Bytes) (attempt : Attempt) (after : Bytes)
      (h : x.worker = some (.serving buffer)) (length : after.length = buffer.length) :
      Step x .worker
        { x.noting [.served owner buffer attempt after] with
          worker := some (.publishing ⟨attempt.isMoved, after⟩) }
  | publishes (t : Transfer) (h : x.worker = some (.publishing t)) :
      Step x .worker { x with direction := x.direction.publish t, worker := some .announcing }
  | announces (h : x.worker = some .announcing) :
      Step x .worker { x.callersTold with worker := some .looking }
  | ends (h : x.worker = some .leaving) :
      Step x .worker { x.callersTold with worker := some .stopped }

/-- No step changes the role. -/
theorem Step.role_eq {x y : Scene} {who : Thread} (h : x.Step who y) :
    y.direction.role = x.direction.role := by
  cases h <;> rfl

end Scene

end TwinRing
