import TwinRing.Proofs.Direction.Notices
import TwinRing.Proofs.Direction.Settled
/-!
# Lanes under way — a blocking call from attempt to attempt

Where a call is alone on its lane and nobody shuts it down, the request
goes in a circle: the call issues it, the worker picks it up, goes to the
ring and hands the result back, and the call collects it. It returns, or it
issues its buffer again. A `Stage` names the arcs of that circle, and
`Stage.Is` says what direction, worker and call are like on each.

One step of any thread leaves the call on its arc or takes it to the next
(`Pursuit.Goes`). What the call has still to ask for before the worker is at
the ring again becomes what it asks for, and what is left of the way gets
shorter, or the step was not one that the call waits for. Only the worker's
step at the ring is left out, for what comes of that is not in the scene.
-/

namespace TwinRing

/-! ## What a call asks for -/

/-- **What a blocking call asks for**: that its buffer be taken to the ring,
or to sleep. -/
inductive Ask
  | request (buffer : Bytes)
  | sleep (delay : Duration)
  deriving DecidableEq

/-- What a call asks for to have its buffer taken to the ring again. -/
def Ask.again (buffer : Bytes) (wait : Option Duration) : List Ask :=
  wait.toList.map Ask.sleep ++ [.request buffer]

/-- What the next step of a call asks for. -/
def CallPhase.asks : CallPhase → List Ask
  | .submitting buffer => [.request buffer]
  | .pausing _ delay => [.sleep delay]
  | .calling => []
  | .checking => []
  | .asleep => []
  | .napping _ _ => []
  | .roused _ => []
  | .returned _ => []

/-- The sleep that is due before a call can issue its buffer again. -/
def CallPhase.pause? : CallPhase → Option Duration
  | .pausing _ delay => some delay
  | _ => none

/-! ## Stages -/

/-- **How far a call has come with its attempt.** -/
inductive Stage
  /-- It has yet to issue its request. -/
  | owing
  /-- The request is in the slot. -/
  | pending
  /-- The worker has its buffer. -/
  | serving
  /-- The worker is back with the result. -/
  | returning (t : Transfer)
  /-- The result is in the slot. -/
  | finished (t : Transfer)
  /-- It has returned. -/
  | returned (element : Bytes)

/-- **What direction, worker and call are like on each stage** of a call
with a buffer. -/
inductive Stage.Is (b : Bytes) (d : Direction) :
    WorkerPhase → CallPhase → Stage → Prop
  | owing {w : WorkerPhase} {phase : CallPhase} (hand : w.hand = .free)
    (stays : w.hasLeft = false) (owes : phase.standing = .owing b)
    (free : d.request.isOutstanding = false)
    (kept : d.role = .reader → d.request.holdsElement = false) :
    Is b d w phase .owing
  /-- A worker that sleeps is still to be told. -/
  | pending {w : WorkerPhase} {phase : CallPhase} (hand : w.hand = .free)
    (stays : w.hasLeft = false) (waits : phase.standing = .waiting)
    (slot : d.request = .pending b) (up : d.ready = true)
    (told : w = .asleep → phase = .calling) : Is b d w phase .pending
  | serving {phase : CallPhase} (waits : phase.standing = .waiting)
    (slot : d.request = .servicing) (down : d.ready = false) :
    Is b d (.serving b) phase .serving
  | returning {phase : CallPhase} (t : Transfer) (own : t.transferred = false → t.buffer = b)
    (waits : phase.standing = .waiting) (slot : d.request = .servicing)
    (down : d.ready = false) : Is b d (.publishing t) phase (.returning t)
  /-- A call that sleeps is still to be told. -/
  | finished {w : WorkerPhase} {phase : CallPhase} (t : Transfer)
    (own : t.transferred = false → t.buffer = b) (hand : w.hand = .free)
    (stays : w.hasLeft = false) (waits : phase.standing = .waiting)
    (slot : d.request = .finished t) (down : d.ready = false)
    (told : phase = .asleep → w = .announcing) : Is b d w phase (.finished t)
  | returned {w : WorkerPhase} (element : Bytes) (hand : w.hand = .free)
    (stays : w.hasLeft = false) (slot : d.request = .empty) (down : d.ready = false)
    (reset : d.complete = false) : Is b d w (.returned (.ok element)) (.returned element)

/-! ## Places on the way -/

/-- How far a call that is to issue its request is from the worker's way to
the ring. -/
def CallPhase.beforeIssue : CallPhase → Nat
  | .submitting _ => 4
  | .roused _ => 5
  | .napping _ _ => 6
  | _ => 7

/-- The same of a call whose result is in the slot, refused as that may be. -/
def CallPhase.beforeCollect : CallPhase → Nat
  | .checking => 8
  | _ => 9

/-- **A call that is refused asks its retrier for a sleep**, and is nearer
to its request than before it collected the refusal. -/
theorem Call.collected_of_refused {t : Transfer} (k : Call) (hrefused : t.transferred = false) :
    (k.collected t).retrier = k.retrier.nextDelay.2 ∧
      (k.collected t).phase.pause? = k.retrier.nextDelay.1 ∧
      (k.collected t).phase.beforeIssue < CallPhase.beforeCollect .checking := by
  rw [collected, if_neg (by rw [hrefused]; exact Bool.noConfusion)]
  -- what the retrier says decides whether it sleeps first
  rcases k.retrier.nextDelay with ⟨_ | delay, after⟩
  · exact ⟨rfl, rfl, (by omega : 4 < 8)⟩
  · exact ⟨rfl, rfl, (by omega : 7 < 8)⟩

/-- The same of a worker whose request is in the slot. -/
def WorkerPhase.beforePickUp : WorkerPhase → Nat
  | .looking => 2
  | _ => 3

/-- The act that gets a call out of its place. -/
def CallPhase.awaited (ticket : Nat) : CallPhase → Act
  | .napping _ _ => .timeUp ticket
  | .asleep => .worker
  | _ => .call ticket

/-- The act that gets a worker on to the request of a call. -/
def WorkerPhase.awaited (ticket : Nat) : WorkerPhase → Act
  | .asleep => .call ticket
  | _ => .worker

/-- **A call on its way**, with the worker. -/
structure Pursuit where
  worker : WorkerPhase
  call : Call
  stage : Stage

namespace Pursuit

/-- A call that has just begun. -/
def begun (w : WorkerPhase) (ticket : Nat) (policy : RetryPolicy) (b : Bytes) : Pursuit :=
  ⟨w, ⟨ticket, ⟨policy, 0⟩, .submitting b⟩, .owing⟩

/-- Whether a refusal is on its way to the call. -/
def refused (p : Pursuit) : Bool :=
  match p.stage with
  | .returning t => !t.transferred
  | .finished t => !t.transferred
  | .owing => false
  | .pending => false
  | .serving => false
  | .returned _ => false

/-- The element that the call returns with, or will. -/
def won (p : Pursuit) : Option Bytes :=
  match p.stage with
  | .returning t => if t.transferred then some t.buffer else none
  | .finished t => if t.transferred then some t.buffer else none
  | .returned element => some element
  | .owing => none
  | .pending => none
  | .serving => none

/-- The retrier once what is on its way to the call has arrived. -/
def retrier (p : Pursuit) : Retrier :=
  if p.refused then p.call.retrier.nextDelay.2 else p.call.retrier

/-- **What the call has still to ask for** before the worker is at the ring
again. -/
def due (b : Bytes) (p : Pursuit) : List Ask :=
  if p.refused then Ask.again b p.call.retrier.nextDelay.1
  else
    match p.stage with
    | .owing => Ask.again b p.call.phase.pause?
    | _ => []

/-- **How far the call is from where the worker is at the ring**, or from
its end. -/
def distance (p : Pursuit) : Nat :=
  match p.stage with
  | .owing => p.call.phase.beforeIssue
  | .pending => p.worker.beforePickUp
  | .serving => 1
  | .returning _ => 10
  | .finished _ => p.call.phase.beforeCollect
  | .returned _ => 0

/-- **The act that the call waits for.** -/
def awaited (ticket : Nat) (p : Pursuit) : Option Act :=
  match p.stage with
  | .owing => some (p.call.phase.awaited ticket)
  | .pending => some (p.worker.awaited ticket)
  | .serving => some .worker
  | .returning _ => some .worker
  | .finished _ => some (p.call.phase.awaited ticket)
  | .returned _ => none

/-- What an act asks for on behalf of the call. -/
def asks (ticket : Nat) (p : Pursuit) : Act → List Ask
  | .call acting => if acting = ticket then p.call.phase.asks else []
  | _ => []

/-- **An act takes the call from one place to another** on its way. -/
structure Goes (b : Bytes) (ticket : Nat) (a : Act) (p q : Pursuit) : Prop where
  /-- What is due stays due until it is asked for. -/
  due : p.asks ticket a ++ q.due b = p.due b
  retrier : q.retrier = p.retrier
  won : q.won = p.won
  /-- The way gets shorter, by any act that the call waits for. -/
  nearer : q.distance < p.distance ∨
    q.distance = p.distance ∧ q.awaited ticket = p.awaited ticket ∧ p.awaited ticket ≠ some a

variable {b : Bytes} {ticket : Nat} {a : Act} {p : Pursuit}

theorem asks_call (ticket : Nat) (p : Pursuit) :
    p.asks ticket (.call ticket) = p.call.phase.asks := if_pos rfl

theorem Goes.refl (hasks : p.asks ticket a = []) (hnot : p.awaited ticket ≠ some a) :
    p.Goes b ticket a p :=
  ⟨by rw [hasks, List.nil_append], rfl, rfl, .inr ⟨rfl, rfl, hnot⟩⟩

/-- A notice to the worker brings a call nearer that waits for it. -/
theorem goes_workerTold (hasks : p.asks ticket a = []) (hnot : p.awaited ticket ≠ some a) :
    p.Goes b ticket a { p with worker := p.worker.noticed } := by
  refine ⟨by rw [hasks]; rfl, rfl, rfl, ?_⟩
  obtain ⟨w, k, stage⟩ := p
  cases stage with
  | pending =>
    cases w with
    | asleep => exact .inl (Nat.lt_succ_self _)
    | _ => exact .inr ⟨rfl, rfl, hnot⟩
  | _ => exact .inr ⟨rfl, rfl, hnot⟩

/-- A notice to the callers brings a call nearer that sleeps. -/
theorem goes_callersTold {d : Direction} (h : p.stage.Is b d p.worker p.call.phase)
    (hasks : p.asks ticket a = []) (hnot : p.awaited ticket ≠ some a) :
    p.Goes b ticket a { p with call := p.call.noticed } := by
  obtain ⟨w, ⟨named, retrier, phase⟩, stage⟩ := p
  dsimp only at h
  cases phase with
  | asleep =>
    refine ⟨by rw [hasks]; cases stage <;> rfl, rfl, rfl, ?_⟩
    cases h with
    | owing hand stays owes free kept => cases owes
    | finished t own hand stays waits slot down told => exact .inl (Nat.lt_succ_self 8)
    | _ => exact .inr ⟨rfl, rfl, hnot⟩
  | napping buffer delay =>
    refine ⟨by rw [hasks]; cases stage <;> rfl, rfl, rfl, ?_⟩
    cases h with
    | owing hand stays owes free kept => exact .inl (Nat.lt_succ_self 5)
    | pending hand stays waits slot up told => cases waits
    | serving waits slot down => cases waits
    | returning t own waits slot down => cases waits
    | finished t own hand stays waits slot down told => cases waits
  | _ => exact .refl hasks hnot

/-- **A call waits for itself, for the worker or for the clock**, and for
that only while it sleeps between two attempts. -/
theorem awaited_cases (h : p.awaited ticket = some a) :
    a = .call ticket ∨ a = .worker ∨
      a = .timeUp ticket ∧ ∃ buffer delay, p.call.phase = .napping buffer delay := by
  have hcall (heq : some (p.call.phase.awaited ticket) = some a) : a = .call ticket ∨
      a = .worker ∨ a = .timeUp ticket ∧ ∃ buffer delay, p.call.phase = .napping buffer delay := by
    cases heq
    cases p.call.phase with
    | napping buffer delay => exact .inr (.inr ⟨rfl, _, _, rfl⟩)
    | asleep => exact .inr (.inl rfl)
    | _ => exact .inl rfl
  unfold awaited at h
  cases hstage : p.stage with
  | owing =>
    rw [hstage] at h
    exact hcall h
  | finished t =>
    rw [hstage] at h
    exact hcall h
  | pending =>
    rw [hstage] at h
    cases h
    cases p.worker with
    | asleep => exact .inl rfl
    | _ => exact .inr (.inl rfl)
  | serving =>
    rw [hstage] at h
    cases h
    exact .inr (.inl rfl)
  | returning t =>
    rw [hstage] at h
    cases h
    exact .inr (.inl rfl)
  | returned element =>
    rw [hstage] at h
    cases h

/-- A call that is at the end of its way has returned. -/
theorem returned_of_distance (h : p.distance = 0) : ∃ element, p.stage = .returned element := by
  unfold distance at h
  cases hstage : p.stage with
  | returned element => exact ⟨element, rfl⟩
  | owing =>
    rw [hstage] at h
    cases hphase : p.call.phase <;> simp [hphase, CallPhase.beforeIssue] at h
  | pending =>
    rw [hstage] at h
    cases hworker : p.worker <;> simp [hworker, WorkerPhase.beforePickUp] at h
  | finished t =>
    rw [hstage] at h
    cases hphase : p.call.phase <;> simp [hphase, CallPhase.beforeCollect] at h
  | serving => simp [hstage] at h
  | returning t => simp [hstage] at h

/-- Once an element has been moved nothing is due any more. -/
theorem due_of_won {element : Bytes} (h : p.won = some element) : p.due b = [] := by
  obtain ⟨w, k, stage⟩ := p
  cases stage with
  | returning t =>
    cases hmoved : t.transferred <;> simp_all [won, due, refused]
  | finished t =>
    cases hmoved : t.transferred <;> simp_all [won, due, refused]
  | owing => cases h
  | pending => rfl
  | serving => rfl
  | returned element => rfl

/-- Any other waits for some act. -/
theorem exists_awaited (ticket : Nat) (h : p.distance ≠ 0) : ∃ a, p.awaited ticket = some a := by
  unfold awaited
  cases hstage : p.stage with
  | returned element => exact absurd (by rw [distance, hstage]) h
  | _ => exact ⟨_, rfl⟩

/-- A call that has yet to issue its request does not wait for the worker. -/
theorem awaited_ne_worker_of_owing {phase : CallPhase} (owes : phase.standing = .owing b) :
    phase.awaited ticket ≠ .worker := by
  cases phase with
  | asleep => cases owes
  | _ => nofun

/-- A call that is up does not wait for the worker to tell it. -/
theorem awaited_ne_worker_of_awake {phase : CallPhase} (awake : phase ≠ .asleep) :
    phase.awaited ticket ≠ .worker := by
  cases phase with
  | asleep => exact absurd rfl awake
  | _ => nofun

/-- Nobody waits for a worker that sleeps. -/
theorem goes_idle {d : Direction} (h : p.stage.Is b d p.worker p.call.phase)
    (hasleep : p.worker = .asleep) : p.Goes b ticket .worker p := by
  obtain ⟨w, ⟨named, retrier, phase⟩, stage⟩ := p
  subst hasleep
  dsimp only at h
  refine .refl rfl ?_
  cases h with
  | owing hand stays owes free kept =>
    exact fun h => awaited_ne_worker_of_owing owes (Option.some.inj h)
  | finished t own hand stays waits slot down told =>
    have awake : phase ≠ .asleep := fun h => WorkerPhase.noConfusion (told h)
    exact fun h => awaited_ne_worker_of_awake awake (Option.some.inj h)
  | _ => nofun

/-- A worker that tells the callers brings each of them nearer that waits
for it. -/
theorem goes_announced {d : Direction} {k : Call} {stage : Stage}
    (h : stage.Is b d .announcing k.phase) :
    Goes b ticket .worker ⟨.announcing, k, stage⟩ ⟨.looking, k.noticed, stage⟩ := by
  obtain ⟨named, retrier, phase⟩ := k
  have hdue : due b ⟨.looking, Call.noticed ⟨named, retrier, phase⟩, stage⟩ =
      due b ⟨.announcing, ⟨named, retrier, phase⟩, stage⟩ := by
    cases phase <;> cases stage <;> rfl
  have hretrier : Pursuit.retrier ⟨.looking, Call.noticed ⟨named, retrier, phase⟩, stage⟩ =
      Pursuit.retrier ⟨.announcing, ⟨named, retrier, phase⟩, stage⟩ := by
    cases phase <;> rfl
  refine ⟨hdue, hretrier, rfl, ?_⟩
  dsimp only at h
  cases h with
  | owing hand stays owes free kept =>
    cases phase with
    | napping buffer delay => exact .inl (Nat.lt_succ_self 5)
    | asleep => cases owes
    | _ => exact .inr ⟨rfl, rfl, nofun⟩
  | pending hand stays waits slot up told => exact .inl (Nat.lt_succ_self 2)
  | finished t own hand stays waits slot down told =>
    cases phase with
    | asleep => exact .inl (Nat.lt_succ_self 8)
    | napping buffer delay => cases waits
    | _ => exact .inr ⟨rfl, rfl, nofun⟩
  | returned element hand stays slot down reset => exact .inr ⟨rfl, rfl, nofun⟩

end Pursuit

namespace Stage.Is

variable {b : Bytes} {d : Direction} {w : WorkerPhase} {phase : CallPhase} {k : Call}
  {stage : Stage}

theorem workerTold (h : stage.Is b d w phase) : stage.Is b d w.noticed phase := by
  have hhand (hfree : w.hand = .free) : w.noticed.hand = .free := by
    rw [WorkerPhase.hand_noticed, hfree]
  have hstays (hthere : w.hasLeft = false) : w.noticed.hasLeft = false := by
    rw [WorkerPhase.hasLeft_noticed, hthere]
  cases h with
  | owing hand stays owes free kept => exact .owing (hhand hand) (hstays stays) owes free kept
  | pending hand stays waits slot up told =>
    exact .pending (hhand hand) (hstays stays) waits slot up fun h => absurd h w.noticed_ne_asleep
  | serving waits slot down => exact .serving waits slot down
  | returning t own waits slot down => exact .returning t own waits slot down
  | finished t own hand stays waits slot down told =>
    exact .finished t own (hhand hand) (hstays stays) waits slot down fun h => by rw [told h]; rfl
  | returned element hand stays slot down reset =>
    exact .returned element (hhand hand) (hstays stays) slot down reset

theorem callerTold (h : stage.Is b d w k.phase) : stage.Is b d w k.noticed.phase := by
  have hstanding : k.noticed.phase.standing = k.phase.standing := k.standing_noticed
  obtain ⟨named, retrier, phase⟩ := k
  cases phase with
  | asleep =>
    cases h with
    | owing hand stays owes free kept => exact .owing hand stays owes free kept
    | pending hand stays waits slot up told =>
      exact .pending hand stays waits slot up fun h => CallPhase.noConfusion (told h)
    | serving waits slot down => exact .serving waits slot down
    | returning t own waits slot down => exact .returning t own waits slot down
    | finished t own hand stays waits slot down told =>
      exact .finished t own hand stays waits slot down CallPhase.noConfusion
  | napping buffer delay =>
    cases h with
    | owing hand stays owes free kept => exact .owing hand stays owes free kept
    | _ => simp_all [CallPhase.standing]
  | _ => exact h

/-- A call that has told the worker looks for its result. -/
theorem looks (h : stage.Is b d w .calling) (awake : w ≠ .asleep) :
    stage.Is b d w .checking := by
  cases h with
  | owing hand stays owes free kept => cases owes
  | pending hand stays waits slot up told =>
    exact .pending hand stays rfl slot up fun h => absurd h awake
  | serving waits slot down => exact .serving rfl slot down
  | returning t own waits slot down => exact .returning t own rfl slot down
  | finished t own hand stays waits slot down told =>
    exact .finished t own hand stays rfl slot down CallPhase.noConfusion

/-- A worker that has told the callers looks into the slot again. -/
theorem announced (h : stage.Is b d .announcing phase) (awake : phase ≠ .asleep) :
    stage.Is b d .looking phase := by
  cases h with
  | owing hand stays owes free kept => exact .owing rfl rfl owes free kept
  | pending hand stays waits slot up told =>
    exact .pending rfl rfl waits slot up WorkerPhase.noConfusion
  | finished t own hand stays waits slot down told =>
    exact .finished t own rfl rfl waits slot down fun h => absurd h awake
  | returned element hand stays slot down reset => exact .returned element rfl rfl slot down reset

/-- **A call that owes its request** finds the slot free for it. -/
theorem of_owing {buffer : Bytes} (h : stage.Is b d w phase)
    (owes : phase.standing = .owing buffer) :
    stage = .owing ∧ buffer = b ∧ w.hand = .free ∧ w.hasLeft = false ∧
      d.request.isOutstanding = false ∧ (d.role = .reader → d.request.holdsElement = false) := by
  cases h with
  | owing hand stays owes' free kept =>
    cases owes'.symm.trans owes
    exact ⟨rfl, rfl, hand, stays, free, kept⟩
  | pending hand stays waits slot up told => cases waits.symm.trans owes
  | serving waits slot down => cases waits.symm.trans owes
  | returning t own waits slot down => cases waits.symm.trans owes
  | finished t own hand stays waits slot down told => cases waits.symm.trans owes
  | returned element hand stays slot down reset => cases owes

/-- The worker stays while the call is on its way. -/
theorem hasLeft (h : stage.Is b d w phase) : w.hasLeft = false := by
  cases h with
  | serving waits slot down => rfl
  | returning t own waits slot down => rfl
  | owing hand stays owes free kept => exact stays
  | pending hand stays waits slot up told => exact stays
  | finished t own hand stays waits slot down told => exact stays
  | returned element hand stays slot down reset => exact stays

theorem phase_eq {element : Bytes} (h : (Stage.returned element).Is b d w phase) :
    phase = .returned (.ok element) := by
  cases h with
  | returned element hand stays slot down reset => rfl

/-- **A call that has returned has left the slot free** and all flags down. -/
theorem of_returned {r : Except ChannelError Bytes} (h : stage.Is b d w (.returned r)) :
    ∃ element, r = .ok element ∧ stage = .returned element ∧ d.request = .empty ∧
      d.ready = false ∧ d.complete = false := by
  cases h with
  | returned element hand stays slot down reset => exact ⟨element, rfl, rfl, slot, down, reset⟩
  | owing hand stays owes free kept => cases owes
  | pending hand stays waits slot up told => cases waits
  | serving waits slot down => cases waits
  | returning t own waits slot down => cases waits
  | finished t own hand stays waits slot down told => cases waits

/-- A worker that can do nothing sleeps. -/
theorem asleep_of_quiet (h : stage.Is b d w phase) (hquiet : w.isQuiet = true) : w = .asleep := by
  have hstays := h.hasLeft
  cases w with
  | asleep => rfl
  | stopped => cases hstays
  | _ => cases hquiet

end Stage.Is

/-- **A call with a buffer and a ticket is on its way**, alone and with no
shutdown. -/
structure Scene.Pursuing (x : Scene) (ticket : Nat) (b : Bytes) (p : Pursuit) : Prop where
  worker : x.worker = some p.worker
  call : x.call? ticket = some p.call
  /-- Every other call has returned. -/
  others : ∀ other k, other ≠ ticket → x.call? other = some k → k.result?.isSome = true
  fits : b.length = x.direction.elementSize.toNat
  runs : x.direction.exit = false
  is : p.stage.Is b x.direction p.worker p.call.phase

namespace Scene.Pursuing

variable {x y : Scene} {ticket : Nat} {b : Bytes} {p : Pursuit}

/-! ## The call's own step -/

/-- The call with the ticket is put elsewhere, and the others are as they
were. -/
theorem others_put (h : x.Pursuing ticket b p) {k : Call} (hk : k.ticket = ticket) (other : Nat)
    (k' : Call) (hother : other ≠ ticket) (hput : (x.put k).call? other = some k') :
    k'.result?.isSome = true := by
  rcases call_of_put hput with ⟨hsame, -⟩ | ⟨-, hbefore⟩
  · exact absurd (hsame.trans hk) hother
  · exact h.others other k' hother hbefore

/-- A call that sleeps or has returned waits for others. -/
theorem goes_quiet {d : Direction} (his : p.stage.Is b d p.worker p.call.phase)
    (hquiet : p.call.isQuiet = true) : p.Goes b ticket (.call ticket) p := by
  obtain ⟨w, ⟨named, retrier, phase⟩, stage⟩ := p
  dsimp only at his
  have hasks : phase.asks = [] := by
    cases phase <;> first | rfl | exact Bool.noConfusion hquiet
  refine .refl ((if_pos rfl).trans hasks) fun hawaited => ?_
  cases his with
  | owing hand stays owes free kept =>
    cases phase with
    | napping buffer delay => cases hawaited
    | _ => first | exact Bool.noConfusion hquiet | cases owes
  | pending hand stays waits slot up told =>
    cases w with
    | asleep =>
      rw [told rfl] at hquiet
      exact Bool.noConfusion hquiet
    | _ => cases hawaited
  | finished t own hand stays waits slot down told =>
    cases phase with
    | asleep => cases hawaited
    | _ => first | exact Bool.noConfusion hquiet | cases waits
  | _ => cases hawaited

/-- **The call issues its request.** -/
theorem submits_step {w : WorkerPhase} {stage : Stage} {retrier : Retrier} {buffer : Bytes}
    {deeds : List Deed}
    (h : x.Pursuing ticket b ⟨w, ⟨ticket, retrier, .submitting buffer⟩, stage⟩) :
    ∃ q, (((x.accepting buffer).put ⟨ticket, retrier, .calling⟩).noting deeds).Pursuing ticket b q ∧
      Pursuit.Goes b ticket (.call ticket) ⟨w, ⟨ticket, retrier, .submitting buffer⟩, stage⟩ q := by
  obtain ⟨hstage, rfl, hand, stays, -, -⟩ := h.is.of_owing rfl
  cases hstage
  refine ⟨⟨w, ⟨ticket, retrier, .calling⟩, .pending⟩, ⟨h.worker, if_pos rfl, h.others_put rfl,
    h.fits, h.runs, .pending hand stays rfl rfl rfl fun _ => rfl⟩, ⟨?_, rfl, rfl, .inl ?_⟩⟩
  · rw [Pursuit.asks_call]
    rfl
  · cases w <;> simp [Pursuit.distance, WorkerPhase.beforePickUp, CallPhase.beforeIssue]

/-- Nothing keeps it from issuing one. -/
theorem submit_ne_error {w : WorkerPhase} {stage : Stage} {retrier : Retrier} {buffer : Bytes}
    (h : x.Pursuing ticket b ⟨w, ⟨ticket, retrier, .submitting buffer⟩, stage⟩)
    (e : ChannelError) : x.direction.submit buffer ≠ (.error e, x.direction) := by
  obtain ⟨-, rfl, -, -, free, kept⟩ := h.is.of_owing rfl
  rw [Direction.submit_of_free h.fits h.runs free kept]
  nofun

/-- **The call tells the worker.** -/
theorem tells_step {w : WorkerPhase} {stage : Stage} {retrier : Retrier}
    (h : x.Pursuing ticket b ⟨w, ⟨ticket, retrier, .calling⟩, stage⟩) :
    ∃ q, (x.workerTold.put ⟨ticket, retrier, .checking⟩).Pursuing ticket b q ∧
      Pursuit.Goes b ticket (.call ticket) ⟨w, ⟨ticket, retrier, .calling⟩, stage⟩ q := by
  have hworker : x.workerTold.worker = some w.noticed := congrArg (Option.map _) h.worker
  refine ⟨⟨w.noticed, ⟨ticket, retrier, .checking⟩, stage⟩, ⟨hworker, if_pos rfl,
    h.others_put (x := x) rfl, h.fits, h.runs, h.is.workerTold.looks w.noticed_ne_asleep⟩,
    ⟨by rw [Pursuit.asks_call]; rfl, rfl, rfl, ?_⟩⟩
  have his := h.is
  dsimp only at his
  cases his with
  | owing hand stays owes free kept => cases owes
  | pending hand stays waits slot up told =>
    cases w with
    | asleep => exact .inl (Nat.lt_succ_self 2)
    | _ => exact .inr ⟨rfl, rfl, nofun⟩
  | finished t own hand stays waits slot down told => exact .inl (Nat.lt_succ_self 8)
  | _ => exact .inr ⟨rfl, rfl, nofun⟩

/-- **The call collects its result**, and returns with it or is to try
again. -/
theorem takes_step {w : WorkerPhase} {stage : Stage} {retrier : Retrier} {t : Transfer}
    {deeds : List Deed} (h : x.Pursuing ticket b ⟨w, ⟨ticket, retrier, .checking⟩, stage⟩)
    (done : x.direction.request = .finished t) :
    ∃ q, ((x.freed.put (Call.collected ⟨ticket, retrier, .checking⟩ t)).noting deeds).Pursuing
        ticket b q ∧
      Pursuit.Goes b ticket (.call ticket) ⟨w, ⟨ticket, retrier, .checking⟩, stage⟩ q := by
  have his := h.is
  dsimp only at his
  cases his with
  | owing hand stays owes free kept => cases owes
  | pending hand stays waits slot up told => cases slot.symm.trans done
  | serving waits slot down => cases slot.symm.trans done
  | returning t own waits slot down => cases slot.symm.trans done
  | finished t' own hand stays waits slot down told =>
    cases slot.symm.trans done
    have hasks : Pursuit.asks ticket ⟨w, ⟨ticket, retrier, .checking⟩, .finished t⟩
        (.call ticket) = [] := Pursuit.asks_call ticket _
    have hput (k : Call) (hk : k.ticket = ticket) : (x.put k).call? ticket = some k :=
      if_pos hk.symm
    cases hmoved : t.transferred with
    | true =>
      have hcollected : Call.collected ⟨ticket, retrier, .checking⟩ t =
          ⟨ticket, retrier, .returned (.ok t.buffer)⟩ := by rw [Call.collected, if_pos hmoved]
      rw [hcollected]
      refine ⟨⟨w, ⟨ticket, retrier, .returned (.ok t.buffer)⟩, .returned t.buffer⟩, ⟨h.worker,
        hput _ rfl, h.others_put (x := x) rfl, h.fits, h.runs,
        .returned _ hand stays rfl down rfl⟩, ⟨?_, ?_, ?_, .inl (Nat.zero_lt_succ 7)⟩⟩
      · simp [hasks, Pursuit.due, Pursuit.refused, hmoved]
      · simp [Pursuit.retrier, Pursuit.refused, hmoved]
      · simp [Pursuit.won, hmoved]
    | false =>
      have howes : (Call.collected ⟨ticket, retrier, .checking⟩ t).phase.standing = .owing b := by
        rw [← own hmoved]
        exact (Call.standing_collected _ t).trans (Call.standingAfter_of_refused hmoved)
      obtain ⟨hretrier, hpause, hnear⟩ :=
        Call.collected_of_refused ⟨ticket, retrier, .checking⟩ hmoved
      refine ⟨⟨w, Call.collected ⟨ticket, retrier, .checking⟩ t, .owing⟩, ⟨h.worker,
        hput _ (Call.ticket_collected _ t), h.others_put (x := x) (Call.ticket_collected _ t),
        h.fits, h.runs, .owing hand stays howes rfl fun _ => rfl⟩, ⟨?_, ?_, ?_, .inl hnear⟩⟩
      · simp [hasks, Pursuit.due, Pursuit.refused, hmoved, hpause]
      · simp [Pursuit.retrier, Pursuit.refused, hmoved, hretrier]
      · simp [Pursuit.won, hmoved]

/-- **The call finds no result yet.** -/
theorem fallsAsleep_step {w : WorkerPhase} {stage : Stage} {retrier : Retrier}
    (h : x.Pursuing ticket b ⟨w, ⟨ticket, retrier, .checking⟩, stage⟩)
    (nothing : ∀ t, x.direction.request ≠ .finished t) :
    ∃ q, (x.put ⟨ticket, retrier, .asleep⟩).Pursuing ticket b q ∧
      Pursuit.Goes b ticket (.call ticket) ⟨w, ⟨ticket, retrier, .checking⟩, stage⟩ q := by
  have hasks : Pursuit.asks ticket ⟨w, ⟨ticket, retrier, .checking⟩, stage⟩ (.call ticket) = [] :=
    Pursuit.asks_call ticket _
  have his := h.is
  dsimp only at his
  have next (hasleep : stage.Is b x.direction w .asleep) :
      (x.put ⟨ticket, retrier, .asleep⟩).Pursuing ticket b
        ⟨w, ⟨ticket, retrier, .asleep⟩, stage⟩ :=
    ⟨h.worker, if_pos rfl, h.others_put rfl, h.fits, h.runs, hasleep⟩
  cases his with
  | owing hand stays owes free kept => cases owes
  | pending hand stays waits slot up told =>
    refine ⟨_, next (.pending hand stays rfl slot up fun h => CallPhase.noConfusion (told h)),
      ⟨by rw [hasks]; rfl, rfl, rfl, .inr ⟨rfl, rfl, fun hawaited => ?_⟩⟩⟩
    cases w with
    | asleep => cases told rfl
    | _ => cases hawaited
  | serving waits slot down =>
    exact ⟨_, next (.serving rfl slot down),
      ⟨by rw [hasks]; rfl, rfl, rfl, .inr ⟨rfl, rfl, nofun⟩⟩⟩
  | returning t own waits slot down =>
    exact ⟨_, next (.returning t own rfl slot down),
      ⟨by rw [hasks]; rfl, rfl, rfl, .inr ⟨rfl, rfl, nofun⟩⟩⟩
  | finished t own hand stays waits slot down told => exact absurd slot (nothing t)

/-- **A call that owes its request comes nearer to issuing it**, by its own
step or by the clock. -/
theorem nears_step {a : Act} {w : WorkerPhase} {stage : Stage} {retrier : Retrier}
    {phase next : CallPhase} {buffer : Bytes}
    (h : x.Pursuing ticket b ⟨w, ⟨ticket, retrier, phase⟩, stage⟩)
    (owes : phase.standing = .owing buffer) (still : next.standing = phase.standing)
    (asked : Pursuit.asks ticket ⟨w, ⟨ticket, retrier, phase⟩, stage⟩ a ++ Ask.again b next.pause? =
      Ask.again b phase.pause?)
    (nearer : next.beforeIssue < phase.beforeIssue) :
    ∃ q, (x.put ⟨ticket, retrier, next⟩).Pursuing ticket b q ∧
      Pursuit.Goes b ticket a ⟨w, ⟨ticket, retrier, phase⟩, stage⟩ q := by
  obtain ⟨hstage, rfl, hand, stays, free, kept⟩ := h.is.of_owing owes
  cases hstage
  exact ⟨⟨w, ⟨ticket, retrier, next⟩, .owing⟩, ⟨h.worker, if_pos rfl, h.others_put rfl, h.fits,
    h.runs, .owing hand stays (still.trans owes) free kept⟩, ⟨asked, rfl, rfl, .inl nearer⟩⟩

/-- **The call's own step.** -/
theorem own_step (hstep : x.Step (.call ticket) y) (h : x.Pursuing ticket b p) :
    ∃ q, y.Pursuing ticket b q ∧ p.Goes b ticket (.call ticket) q := by
  obtain ⟨w, k, stage⟩ := p
  have hcall (k' : Call) (hk' : x.call? ticket = some k') : k = k' :=
    Option.some.inj (h.call.symm.trans hk')
  cases hstep with
  | quiet _ hquiet => exact ⟨_, h, goes_quiet h.is (hquiet _ h.call)⟩
  | submits _ retrier buffer requester hk length runs free =>
    cases hcall _ hk
    exact h.submits_step
  | fails _ retrier phase e hk awake told cause =>
    rcases cause with ⟨buffer, rfl, herror⟩ | ⟨ended, -⟩
    · cases hcall _ hk
      exact absurd herror (h.submit_ne_error e)
    · exact absurd (h.runs.symm.trans ended) Bool.noConfusion
  | tells _ retrier hk =>
    cases hcall _ hk
    exact h.tells_step
  | takes _ retrier owner t hk done =>
    cases hcall _ hk
    exact h.takes_step done
  | fallsAsleep _ retrier hk nothing runs =>
    cases hcall _ hk
    exact h.fallsAsleep_step nothing
  | naps _ retrier buffer delay hk runs =>
    cases hcall _ hk
    exact h.nears_step rfl rfl (by rw [Pursuit.asks_call]; rfl) (Nat.lt_succ_self 6)
  | resumes _ retrier buffer hk runs =>
    cases hcall _ hk
    exact h.nears_step rfl rfl (by rw [Pursuit.asks_call]; rfl) (Nat.lt_succ_self 4)

/-! ## The steps of others -/

/-- Another call has returned, and does nothing. -/
theorem other_step {acting : Nat} (hstep : x.Step (.call acting) y) (hother : acting ≠ ticket)
    (h : x.Pursuing ticket b p) : y = x := by
  have hquiet {k : Call} (hk : x.call? acting = some k) (hrunning : k.result? = none) : y = x := by
    have hreturned := h.others acting k hother hk
    rw [hrunning] at hreturned
    cases hreturned
  cases hstep with
  | quiet _ hquiet' => rfl
  | submits _ retrier buffer requester hk length runs free => exact hquiet hk rfl
  | fails _ retrier phase e hk awake told cause => exact hquiet hk (Call.result?_of_awake awake)
  | tells _ retrier hk => exact hquiet hk rfl
  | takes _ retrier owner t hk done => exact hquiet hk rfl
  | fallsAsleep _ retrier hk nothing runs => exact hquiet hk rfl
  | naps _ retrier buffer delay hk runs => exact hquiet hk rfl
  | resumes _ retrier buffer hk runs => exact hquiet hk rfl

/-- A call that has returned is told nothing. -/
theorem others_told (h : x.Pursuing ticket b p) (other : Nat) (k : Call) (hother : other ≠ ticket)
    (hk : x.callersTold.call? other = some k) : k.result?.isSome = true := by
  obtain ⟨before, hbefore, rfl⟩ := Option.map_eq_some_iff.1 hk
  have hreturned := h.others other before hother hbefore
  rw [Call.noticed_of_returned hreturned]
  exact hreturned

/-- The worker is told. -/
theorem workerTold (h : x.Pursuing ticket b p) :
    x.workerTold.Pursuing ticket b { p with worker := p.worker.noticed } :=
  ⟨congrArg (Option.map _) h.worker, h.call, h.others, h.fits, h.runs, h.is.workerTold⟩

/-- All callers are told. -/
theorem callersTold (h : x.Pursuing ticket b p) :
    x.callersTold.Pursuing ticket b { p with call := p.call.noticed } :=
  ⟨h.worker, congrArg (Option.map _) h.call, h.others_told, h.fits, h.runs, h.is.callerTold⟩

/-- **A notice is given**, or something happens that has nothing to do with
the lane. -/
theorem outside_step {a : Act} (hstep : x.Step .outside y) (runs : y.direction.exit = false)
    (h : x.Pursuing ticket b p) (hasks : p.asks ticket a = [])
    (hnot : p.awaited ticket ≠ some a) :
    ∃ q, y.Pursuing ticket b q ∧ p.Goes b ticket a q := by
  cases hstep with
  | aside => exact ⟨p, h, .refl hasks hnot⟩
  | timeUp acting retrier buffer delay hk =>
    by_cases hother : acting = ticket
    · subst hother
      obtain ⟨w, k, stage⟩ := p
      cases Option.some.inj (h.call.symm.trans hk)
      exact h.nears_step rfl rfl (by rw [hasks]; rfl) (Nat.lt_succ_self 5)
    · cases h.others acting _ hother hk
  | shutsDown => cases runs
  | keepsRequest i hi =>
    obtain ⟨worker, call, others, fits, runs, his⟩ := h.workerTold
    exact ⟨_, ⟨worker, call, others, fits, runs, his⟩, Pursuit.goes_workerTold hasks hnot⟩
  | keepsShutDown i hi =>
    obtain ⟨worker, call, others, fits, runs, his⟩ := h.workerTold
    exact ⟨_, ⟨worker, call, others, fits, runs, his⟩, Pursuit.goes_workerTold hasks hnot⟩
  | keepsCallers i hi =>
    obtain ⟨worker, call, others, fits, runs, his⟩ := h.callersTold
    exact ⟨_, ⟨worker, call, others, fits, runs, his⟩, Pursuit.goes_callersTold h.is hasks hnot⟩

/-- **The worker finds nothing to do.** -/
theorem rests_step {k : Call} {stage : Stage} (h : x.Pursuing ticket b ⟨.looking, k, stage⟩)
    (down : x.direction.ready = false) :
    ∃ q, Pursuing { x with worker := some .asleep } ticket b q ∧
      Pursuit.Goes b ticket .worker ⟨.looking, k, stage⟩ q := by
  obtain ⟨named, retrier, phase⟩ := k
  have his := h.is
  dsimp only at his
  have next (hasleep : stage.Is b x.direction .asleep phase) :
      Pursuing { x with worker := some .asleep } ticket b
        ⟨.asleep, ⟨named, retrier, phase⟩, stage⟩ :=
    ⟨rfl, h.call, h.others, h.fits, h.runs, hasleep⟩
  cases his with
  | owing hand stays owes free kept =>
    refine ⟨_, next (.owing rfl rfl owes free kept), ⟨rfl, rfl, rfl, .inr ⟨rfl, rfl, ?_⟩⟩⟩
    exact fun h => Pursuit.awaited_ne_worker_of_owing owes (Option.some.inj h)
  | pending hand stays waits slot up told => cases down.symm.trans up
  | finished t own hand stays waits slot _ told =>
    have awake : phase ≠ .asleep := fun h => WorkerPhase.noConfusion (told h)
    refine ⟨_, next (.finished t own rfl rfl waits slot down fun h => absurd h awake),
      ⟨rfl, rfl, rfl, .inr ⟨rfl, rfl, ?_⟩⟩⟩
    exact fun h => Pursuit.awaited_ne_worker_of_awake awake (Option.some.inj h)
  | returned element hand stays slot _ reset =>
    exact ⟨_, next (.returned element rfl rfl slot down reset),
      ⟨rfl, rfl, rfl, .inr ⟨rfl, rfl, nofun⟩⟩⟩

/-- **The worker picks the request up.** -/
theorem picksUp_step {k : Call} {stage : Stage} {buffer : Bytes}
    (h : x.Pursuing ticket b ⟨.looking, k, stage⟩) (slot : x.direction.request = .pending buffer) :
    ∃ q, Pursuing { x with
        direction := { x.direction with ready := false, request := .servicing }
        worker := some (.serving buffer) } ticket b q ∧
      Pursuit.Goes b ticket .worker ⟨.looking, k, stage⟩ q := by
  obtain ⟨named, retrier, phase⟩ := k
  have his := h.is
  dsimp only at his
  cases his with
  | owing hand stays owes free kept =>
    rw [slot] at free
    cases free
  | pending hand stays waits slot' up told =>
    cases slot'.symm.trans slot
    exact ⟨⟨.serving b, ⟨named, retrier, phase⟩, .serving⟩,
      ⟨rfl, h.call, h.others, h.fits, h.runs, .serving waits rfl rfl⟩,
      ⟨rfl, rfl, rfl, .inl (Nat.lt_succ_self 1)⟩⟩
  | finished t own hand stays waits slot' down told => cases slot'.symm.trans slot
  | returned element hand stays slot' down reset => cases slot'.symm.trans slot

/-- **The worker finds no request**, though its flag is up. -/
theorem looksAgain_step {k : Call} {stage : Stage}
    (h : x.Pursuing ticket b ⟨.looking, k, stage⟩) (up : x.direction.ready = true)
    (vain : ∀ buffer, x.direction.request ≠ .pending buffer) :
    ∃ q, Pursuing { x with
        direction := { x.direction with ready := false }, worker := some .looking } ticket b q ∧
      Pursuit.Goes b ticket .worker ⟨.looking, k, stage⟩ q := by
  obtain ⟨named, retrier, phase⟩ := k
  have his := h.is
  dsimp only at his
  cases his with
  | owing hand stays owes free kept =>
    refine ⟨_, ⟨rfl, h.call, h.others, h.fits, h.runs, .owing rfl rfl owes free kept⟩,
      .refl rfl fun h => Pursuit.awaited_ne_worker_of_owing owes (Option.some.inj h)⟩
  | pending hand stays waits slot up' told => exact absurd slot (vain b)
  | finished t own hand stays waits slot down told => cases down.symm.trans up
  | returned element hand stays slot down reset => cases down.symm.trans up

/-- **The worker hands the result back.** -/
theorem publishes_step {k : Call} {stage : Stage} {t : Transfer}
    (h : x.Pursuing ticket b ⟨.publishing t, k, stage⟩) :
    ∃ q, Pursuing { x with
        direction := x.direction.publish t, worker := some .announcing } ticket b q ∧
      Pursuit.Goes b ticket .worker ⟨.publishing t, k, stage⟩ q := by
  obtain ⟨named, retrier, phase⟩ := k
  have his := h.is
  dsimp only at his
  cases his with
  | returning t own waits slot down =>
    refine ⟨⟨.announcing, ⟨named, retrier, phase⟩, .finished t⟩, ⟨rfl, h.call, h.others, h.fits,
      h.runs, .finished t own rfl rfl waits rfl down fun _ => rfl⟩, ⟨rfl, rfl, rfl, .inl ?_⟩⟩
    cases phase with
    | checking => exact Nat.lt_of_lt_of_le (Nat.lt_succ_self 8) (Nat.le_succ 9)
    | _ => exact Nat.lt_succ_self 9
  | owing hand stays owes free kept => cases hand
  | pending hand stays waits slot up told => cases hand
  | finished t' own hand stays waits slot down told => cases hand
  | returned element hand stays slot down reset => cases hand

/-- **The worker tells the callers.** -/
theorem announces_step {k : Call} {stage : Stage}
    (h : x.Pursuing ticket b ⟨.announcing, k, stage⟩) :
    ∃ q, Pursuing { x.callersTold with worker := some .looking } ticket b q ∧
      Pursuit.Goes b ticket .worker ⟨.announcing, k, stage⟩ q := by
  have awake : k.noticed.phase ≠ .asleep := fun hasleep => by
    have hawake := k.isAsleep_noticed
    rw [Call.isAsleep, hasleep] at hawake
    cases hawake
  exact ⟨⟨.looking, k.noticed, stage⟩, ⟨rfl, h.callersTold.call, h.others_told, h.fits, h.runs,
    h.callersTold.is.announced awake⟩, Pursuit.goes_announced h.is⟩

/-- **The step of the worker**, except the one at the ring. -/
theorem worker_step (hstep : x.Step .worker y) (h : x.Pursuing ticket b p)
    (hring : ∀ buffer, x.worker ≠ some (.serving buffer)) :
    ∃ q, y.Pursuing ticket b q ∧ p.Goes b ticket .worker q := by
  obtain ⟨w, k, stage⟩ := p
  have hw (w' : WorkerPhase) (hw' : x.worker = some w') : w = w' :=
    Option.some.inj (h.worker.symm.trans hw')
  cases hstep with
  | idle hquiet =>
    have hasleep : w = .asleep := h.is.asleep_of_quiet (hquiet _ h.worker)
    exact ⟨_, h, Pursuit.goes_idle h.is hasleep⟩
  | rests hworker down =>
    cases hw _ hworker
    exact h.rests_step down
  | leaves hworker up ended => cases h.runs.symm.trans ended
  | picksUp buffer hworker up runs waits =>
    cases hw _ hworker
    exact h.picksUp_step waits
  | looksAgain hworker up runs vain =>
    cases hw _ hworker
    exact h.looksAgain_step up vain
  | serves owner buffer attempt after hworker length => exact absurd hworker (hring buffer)
  | publishes t hworker =>
    cases hw _ hworker
    exact h.publishes_step
  | announces hworker =>
    cases hw _ hworker
    exact h.announces_step
  | ends hworker =>
    cases hw _ hworker
    cases h.is.hasLeft

end Scene.Pursuing

end TwinRing
