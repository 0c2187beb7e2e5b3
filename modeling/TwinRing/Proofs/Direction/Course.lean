import TwinRing.Direction.Lane
/-!
# Lanes under way — every order of steps

A lane is moved by many threads: its worker, the blocking calls, callers
that issue or collect a request in one go, whoever shuts it down, and all
others that have the ring open. A `Turn` is one step of one of them, and
`Course.turn` lets the lane take it, by the steps of the lane itself. What
holds after every list of turns holds in every order in which the threads
can act.

Two things are freer here than the threads are. A sleeper may be roused at
any turn, so no statement rests on when a notice is given or a time is up.
And the store may become any other store at any turn, so none rests on
what the other side of the ring does.

Beside the lane a course keeps a record of what callers and worker did,
and whose the last accepted request is. Neither is read by any step.
-/

namespace TwinRing

/-! ## Turns and deeds -/

/-- **One step of some thread.** -/
inductive Turn
  /-- The worker is started, if it was not. -/
  | spawn
  /-- A caller issues a request. -/
  | submit (buffer : Bytes)
  /-- A caller collects a finished request. -/
  | collect
  /-- Someone shuts the direction down. -/
  | shutDown
  /-- A blocking call starts. -/
  | begin (element : Bytes) (policy : RetryPolicy)
  /-- A blocking call takes its next step. -/
  | call (ticket : Nat)
  /-- A blocking call that sleeps is roused. -/
  | rouse (ticket : Nat)
  /-- The worker takes its next step. -/
  | worker
  /-- The worker is roused, if it sleeps. -/
  | rouseWorker
  /-- Others have changed the store. -/
  | others (s : Store)

/-- **What was done at a turn.** A caller is known by the ticket of its
blocking call; one that acts in one go has none. -/
inductive Deed
  /-- A blocking call started with an element. -/
  | began (ticket : Nat) (element : Bytes)
  /-- A request of a caller was accepted. -/
  | accepted (caller : Option Nat) (buffer : Bytes)
  /-- The result of someone's request was replaced by the next request. -/
  | replaced (owner : Option Nat) (result : Transfer)
  /-- The worker was at the ring for someone's request. -/
  | served (owner : Option Nat) (buffer : Bytes) (attempt : Attempt) (after : Bytes)
  /-- A caller collected the result of someone's request. -/
  | collected (caller owner : Option Nat) (result : Transfer)
  /-- A blocking call returned. -/
  | returned (ticket : Nat) (result : Except ChannelError Bytes)

/-- **A lane under way.** -/
structure Course where
  lane : Lane
  store : Store
  /-- Who issued the request that was accepted last. -/
  requester : Option Nat := none
  /-- What was done so far, oldest first. -/
  record : List Deed := []

namespace Course

/-- A new lane on a ring, before anything was done on it. -/
def start (view : View) (role : Role) (elementSize : UInt64) (s : Store) : Course :=
  { lane := Lane.ofView view role elementSize, store := s }

def direction (c : Course) : Direction := c.lane.direction

def worker (c : Course) : Option WorkerPhase := c.lane.handshake.worker

def call? (c : Course) (ticket : Nat) : Option Call :=
  c.lane.handshake.calls.find? (·.ticket == ticket)

/-! ## What is done -/

/-- The result that the next request would replace. -/
def replacedDeeds (requester : Option Nat) : Request → List Deed
  | .finished result => [.replaced requester result]
  | .empty => []
  | .pending _ => []
  | .servicing => []

/-- **What is noted of a request that replaces a result** is that result. -/
theorem mem_replacedDeeds_iff {requester : Option Nat} {request : Request} {deed : Deed} :
    deed ∈ replacedDeeds requester request ↔
      ∃ t, request = .finished t ∧ deed = .replaced requester t := by
  cases request with
  | finished t =>
    rw [replacedDeeds, List.mem_singleton]
    exact ⟨fun h => ⟨t, rfl, h⟩, fun ⟨_, ht, h⟩ => Request.finished.inj ht ▸ h⟩
  | _ => exact iff_of_false List.not_mem_nil fun ⟨_, ht, _⟩ => Request.noConfusion ht

/-- So what is true of every replaced result is true of all that is noted. -/
theorem forall_mem_replacedDeeds {P : Deed → Prop} {requester : Option Nat} {request : Request}
    (h : ∀ t, P (.replaced requester t)) : ∀ deed ∈ replacedDeeds requester request, P deed := by
  intro deed hd
  obtain ⟨t, -, rfl⟩ := mem_replacedDeeds_iff.1 hd
  exact h t

theorem filterMap_replacedDeeds {β : Type} {f : Deed → Option β} {requester : Option Nat}
    {request : Request} (h : ∀ t, f (.replaced requester t) = none) :
    (replacedDeeds requester request).filterMap f = [] :=
  List.filterMap_eq_nil_iff.2 (forall_mem_replacedDeeds h)

/-- What issuing a request does, and who is the last requester then. -/
def submitDeeds (d : Direction) (requester caller : Option Nat) (buffer : Bytes) :
    Option Nat × List Deed :=
  match (d.submit buffer).1 with
  | .ok _ => (caller, replacedDeeds requester d.request ++ [.accepted caller buffer])
  | .error _ => (requester, [])

def collectDeeds (d : Direction) (requester caller : Option Nat) : List Deed :=
  match d.takeFinished.1 with
  | some result => [.collected caller requester result]
  | none => []

/-- What a blocking call's next step does to its end. -/
def returnDeeds (d : Direction) (k : Call) : List Deed :=
  match k.result?, (k.step d).2.result? with
  | none, some result => [.returned k.ticket result]
  | _, _ => []

def callDeeds (d : Direction) (requester : Option Nat) (k : Call) : Option Nat × List Deed :=
  match k.phase with
  | .submitting buffer =>
    let (requester, deeds) := submitDeeds d requester (some k.ticket) buffer
    (requester, deeds ++ returnDeeds d k)
  | .checking => (requester, collectDeeds d requester (some k.ticket) ++ returnDeeds d k)
  | _ => (requester, returnDeeds d k)

def workerDeeds (l : Lane) (s : Store) (requester : Option Nat) : List Deed :=
  match l.handshake.worker with
  | some (.serving buffer) =>
    let (attempt, after, _) := Ring.serve l.role l.view.geometry buffer (l.view.object s)
    [.served requester buffer attempt after]
  | _ => []

/-! ## One turn, and many -/

/-- The course with its lane moved and the deeds noted. -/
def moved (c : Course) (lane : Lane) (done : Option Nat × List Deed) : Course :=
  { c with lane, requester := done.1, record := c.record ++ done.2 }

/-- **Let one thread take its step.** -/
def turn (c : Course) : Turn → Course
  | .spawn =>
    match c.worker with
    | none => { c with lane := c.lane.spawn }
    | some _ => c
  | .submit buffer =>
    c.moved (c.lane.onHandshake fun h => (h.submit buffer).2)
      (submitDeeds c.direction c.requester none buffer)
  | .collect =>
    c.moved c.lane.takeResult.2 (c.requester, collectDeeds c.direction c.requester none)
  | .shutDown => { c with lane := c.lane.onHandshake Handshake.signalExit }
  | .begin element policy =>
    c.moved (c.lane.call element policy).2
      (c.requester, [.began (c.lane.call element policy).1 element])
  | .call ticket =>
    match c.call? ticket with
    | none => c
    | some k => c.moved (c.lane.callStep ticket) (callDeeds c.direction c.requester k)
  | .rouse ticket =>
    { c with lane := c.lane.onHandshake fun h =>
      { h with calls := h.calls.map fun k => if k.ticket = ticket then k.noticed else k } }
  | .worker =>
    { c.moved (c.lane.workerStep c.store).1
        (c.requester, workerDeeds c.lane c.store c.requester) with
      store := (c.lane.workerStep c.store).2 }
  | .rouseWorker => { c with lane := c.lane.onHandshake Handshake.noticeWorker }
  | .others s => { c with store := s }

/-- **A worker is started where there is none**, and where there is one
nothing changes. -/
theorem turn_spawn (c : Course) :
    (c.worker = none ∧ c.turn .spawn = { c with lane := c.lane.spawn }) ∨
      (c.worker ≠ none ∧ c.turn .spawn = c) := by
  cases hw : c.worker with
  | none => exact .inl ⟨rfl, by simp only [turn, hw]⟩
  | some w => exact .inr ⟨Option.some_ne_none w, by simp only [turn, hw]⟩

/-- **Let the threads take their steps in an order.** -/
def run (c : Course) (turns : List Turn) : Course := turns.foldl turn c

theorem run_append (c : Course) (turns later : List Turn) :
    c.run (turns ++ later) = (c.run turns).run later := List.foldl_append

/-- What holds at the start and is kept by every turn holds after all. -/
theorem run_induction {P : Course → Prop} {c : Course} (turns : List Turn) (init : P c)
    (step : ∀ c t, P c → P (c.turn t)) : P (c.run turns) := by
  induction turns generalizing c with
  | nil => exact init
  | cons t rest ih => exact ih (step c t init)

end Course

end TwinRing
