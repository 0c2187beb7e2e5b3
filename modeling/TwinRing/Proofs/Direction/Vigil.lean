import TwinRing.Proofs.Direction.Progress
/-!
# Lanes under way — notices as steps of their own

In a `Course` a sleeper may be roused at any turn, so nothing can be said
there about who wakes whom. Here a sleeper sleeps until it is told. A
thread that has left its critical section owes its notice until it takes
its next step, and a notice reaches only those who sleep when it is given.
A `Vigil` is a course with the notices that are owed, and an `Act` is one
step of one thread: a critical section, one notice, or one way to the
ring. Whoever finds nothing to do in its section falls asleep in leaving
it.

The sections and notices are those of the lane. Issuing a request in one
go is its section and its notice in a row, and shutting down its section
and its two notices (`keep_issue`, `keep_keep_shutDown`).
-/

namespace TwinRing

/-- **A notice that a thread still owes.** -/
inductive Pledge
  /-- It has issued a request, and is to tell the worker. -/
  | request
  /-- It has shut the direction down, and is to tell the worker and then
  all callers. -/
  | shutDown
  /-- It has shut the direction down and told the worker, and is to tell
  all callers. -/
  | callers
  deriving DecidableEq

/-- **One step of one thread.** -/
inductive Act
  /-- A caller issues a request. -/
  | issue (buffer : Bytes)
  /-- A caller collects a finished request. -/
  | collect
  /-- A blocking call starts. -/
  | begin (element : Bytes) (policy : RetryPolicy)
  /-- A blocking call takes its next step. -/
  | call (ticket : Nat)
  /-- The sleep of a blocking call between two attempts is over. -/
  | timeUp (ticket : Nat)
  /-- Someone shuts the direction down. -/
  | shutDown
  /-- A thread gives the next notice that it owes. -/
  | keep (i : Nat)
  /-- The worker takes its next step. -/
  | worker
  /-- Others have changed the store. -/
  | others (s : Store)

/-- **A lane under way, with the notices that are owed on it.** -/
structure Vigil where
  course : Course
  owed : List Pledge := []

namespace Course

/-- A caller has been in its section to issue a request. -/
def requested (c : Course) (buffer : Bytes) : Course :=
  c.moved (c.lane.onHandshake fun h => { h with direction := (h.direction.submit buffer).2 })
    (submitDeeds c.direction c.requester none buffer)

/-- Someone has been in the section that shuts the direction down. -/
def shut (c : Course) : Course :=
  { c with lane := c.lane.onHandshake fun h => { h with direction := h.direction.signalExit } }

/-- All callers have been told that something is done. -/
def callersTold (c : Course) : Course :=
  { c with lane := c.lane.onHandshake Handshake.noticeCalls }

end Course

namespace Vigil

def direction (v : Vigil) : Direction := v.course.direction

def worker (v : Vigil) : Option WorkerPhase := v.course.worker

def call? (v : Vigil) (ticket : Nat) : Option Call := v.course.call? ticket

/-- Whether a call sleeps between two attempts. -/
def naps (v : Vigil) (ticket : Nat) : Bool := ((v.call? ticket).bind Call.nap?).isSome

/-- A new lane, with its worker started. -/
def start (view : View) (role : Role) (elementSize : UInt64) (s : Store) : Vigil :=
  { course := (Course.start view role elementSize s).turn .spawn }

/-- **Let one thread take its step.** -/
def act (v : Vigil) : Act → Vigil
  | .issue buffer =>
    { course := v.course.requested buffer
      owed := match (v.direction.submit buffer).1 with
        | .ok _ => v.owed ++ [.request]
        | .error _ => v.owed }
  | .collect => { v with course := v.course.turn .collect }
  | .begin element policy => { v with course := v.course.turn (.begin element policy) }
  | .call ticket => { v with course := v.course.turn (.call ticket) }
  | .timeUp ticket =>
    { v with course := if v.naps ticket then v.course.turn (.rouse ticket) else v.course }
  | .shutDown => { course := v.course.shut, owed := v.owed ++ [.shutDown] }
  | .keep i =>
    match v.owed[i]? with
    | none => v
    | some .request => { course := v.course.turn .rouseWorker, owed := v.owed.eraseIdx i }
    | some .shutDown => { course := v.course.turn .rouseWorker, owed := v.owed.set i .callers }
    | some .callers => { course := v.course.callersTold, owed := v.owed.eraseIdx i }
  | .worker => { v with course := v.course.turn .worker }
  | .others s => { v with course := v.course.turn (.others s) }

/-- **Let the threads take their steps in an order.** -/
def run (v : Vigil) (acts : List Act) : Vigil := acts.foldl act v

variable {v : Vigil}

theorem run_append (v : Vigil) (acts later : List Act) :
    v.run (acts ++ later) = (v.run acts).run later := List.foldl_append

/-- What holds at the start and is kept by every act holds after all. -/
theorem run_induction {P : Vigil → Prop} (acts : List Act) (init : P v)
    (step : ∀ v a, P v → P (v.act a)) : P (v.run acts) := by
  induction acts generalizing v with
  | nil => exact init
  | cons a rest ih => exact ih (step v a init)

end Vigil

namespace Course

variable {c : Course}

/-- **What issuing a request comes to**: it is refused and changes nothing,
or it is accepted. -/
theorem requested_cases (c : Course) (buffer : Bytes) :
    (∃ e, c.direction.submit buffer = (.error e, c.direction) ∧ c.requested buffer = c) ∨
      buffer.length = c.direction.elementSize.toNat ∧ c.direction.exit = false ∧
        c.direction.request.isOutstanding = false ∧
        (c.direction.role = .reader → c.direction.request.holdsElement = false) ∧
        c.direction.submit buffer = (.ok (),
          { c.direction with request := .pending buffer, ready := true, complete := false }) ∧
        c.requested buffer =
          c.moved (c.lane.onHandshake fun h => { h with
              direction :=
                { c.direction with request := .pending buffer, ready := true, complete := false } })
            (none, replacedDeeds c.requester c.direction.request ++ [.accepted none buffer]) := by
  rcases c.direction.submit_cases buffer with ⟨e, he⟩ | ⟨hlength, hexit, hfree, hkept, hok⟩
  · refine .inl ⟨e, he, ?_⟩
    have hsubmit : c.lane.handshake.direction.submit buffer = (.error e, c.direction) := he
    simp only [requested, moved, submitDeeds, he, Lane.onHandshake, hsubmit, List.append_nil]
    rfl
  · refine .inr ⟨hlength, hexit, hfree, hkept, hok, ?_⟩
    have hsubmit : c.lane.handshake.direction.submit buffer = (.ok (),
        { c.direction with request := .pending buffer, ready := true, complete := false }) := hok
    simp only [requested, submitDeeds, hok, Lane.onHandshake, hsubmit]

end Course

/-! ## In one go -/

namespace Vigil

/-- **To issue a request in one go is to issue it and to tell the worker.** -/
theorem keep_issue (c : Course) (buffer : Bytes) :
    (((⟨c, []⟩ : Vigil).act (.issue buffer)).act (.keep 0)).course = c.turn (.submit buffer) := by
  rcases c.requested_cases buffer with ⟨e, he, hsame⟩ | ⟨-, -, -, -, hok, hrequested⟩
  · have hact : (⟨c, []⟩ : Vigil).act (.issue buffer) = ⟨c, []⟩ := by
      simp only [act, direction, he, hsame]
    have hsubmit : c.lane.handshake.direction.submit buffer = (.error e, c.direction) := he
    have hturn : c.turn (.submit buffer) = c.requested buffer := by
      simp only [Course.turn, Course.requested, Lane.onHandshake, Handshake.submit, hsubmit]
    rw [hact, hturn, hsame]
    rfl
  · have hact : (⟨c, []⟩ : Vigil).act (.issue buffer) = ⟨c.requested buffer, [.request]⟩ := by
      simp only [act, direction, hok, List.nil_append]
    have hsubmit : c.lane.handshake.direction.submit buffer = (.ok (),
        { c.direction with request := .pending buffer, ready := true, complete := false }) := hok
    rw [hact, hrequested]
    simp only [act, List.getElem?_cons_zero, Course.turn, Course.submitDeeds, hok,
      Lane.onHandshake, Handshake.submit, hsubmit]
    rfl

/-- **To shut down in one go is to do it and to tell the worker and all
callers.** -/
theorem keep_keep_shutDown (c : Course) :
    ((((⟨c, []⟩ : Vigil).act .shutDown).act (.keep 0)).act (.keep 0)).course =
      c.turn .shutDown := rfl

end Vigil

end TwinRing
