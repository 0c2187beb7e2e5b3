import TwinRing.Proofs.Direction.Flags
import TwinRing.Proofs.Ring.Fifo
/-!
# Lanes at rest — a request and the direct call

A caller that issues a request, lets the lane settle and collects the
result has done no more than one call on the ring. The worker takes the
same few steps whatever the ring holds, and only one of them is at the
ring: `steps_pending` walks through them. So a lane at rest answers a
request as its view answers the direct call, leaves the same bytes, and is
at rest again with an empty slot. A lane comes to rest by itself: wherever
slot and worker agree, a live worker has nothing to do while no request is
on its way (`Lane.attentive_of_agreed`).

A list of errands mixes such requests with direct calls through any views.
By the one request, and since no call looks at more of a store than its
objects, the errands are answered as the direct calls are:
`requests_eq_direct_calls`.
-/

namespace TwinRing

/-! ## Blocking calls that have returned -/

namespace Call

variable {k : Call}

/-- A call that has returned is told nothing. -/
theorem noticed_of_returned (h : k.result?.isSome = true) : k.noticed = k := by
  obtain ⟨ticket, retrier, phase⟩ := k
  cases phase with
  | returned result => rfl
  | _ => exact Bool.noConfusion h

theorem isQuiet_of_returned (h : k.result?.isSome = true) : k.isQuiet = true := by
  obtain ⟨ticket, retrier, phase⟩ := k
  cases phase with
  | returned result => rfl
  | _ => exact Bool.noConfusion h

end Call

/-- **No blocking call is under way.** -/
def Handshake.Unattended (h : Handshake) : Prop := ∀ k ∈ h.calls, k.result?.isSome = true

theorem Handshake.noticeCalls_of_unattended {h : Handshake} (hcalls : h.Unattended) :
    h.noticeCalls = h := by
  have hsame : h.calls.map Call.noticed = h.calls :=
    (List.map_congr_left fun k hk => Call.noticed_of_returned (hcalls k hk)).trans
      (List.map_id h.calls)
  rw [noticeCalls, hsame]

namespace Lane

variable {l : Lane} {s : Store} {d : Direction} {w : WorkerPhase} {buffer : Bytes}

/-! ## The worker's steps -/

/-- The lane with another state of its direction and the worker at another
place. -/
def placed (l : Lane) (d : Direction) (w : WorkerPhase) : Lane :=
  { l with handshake := { l.handshake with direction := d, worker := some w } }

theorem placed_self (hw : l.handshake.worker = some w) : l.placed l.direction w = l := by
  rw [placed, ← hw]
  rfl

theorem workerStep_looking_request {d' : Direction} (hpick : d.pickUp = (.request buffer, d')) :
    (l.placed d .looking).workerStep s = (l.placed d' (.serving buffer), s) := by
  simp only [workerStep, placed, onHandshake, Handshake.workerStep, hpick]

theorem workerStep_looking_nothing (hready : d.ready = false) :
    (l.placed d .looking).workerStep s = (l.placed d .asleep, s) := by
  have hpick : d.pickUp = (.nothing, d) := by rw [Direction.pickUp, if_neg (by simp [hready])]
  simp only [workerStep, placed, onHandshake, Handshake.workerStep, hpick]

/-- **The step at the ring**: with its buffer, the worker does what its
role says. -/
theorem workerStep_serving {attempt : Attempt} {after : Bytes} {o : Object}
    (hserve : Ring.serve d.role l.view.geometry buffer (l.view.object s) = (attempt, after, o)) :
    (l.placed d (.serving buffer)).workerStep s =
      (({ l with
          events := l.events.appendList
            ((l.view.attemptReport? attempt).toList ++
              [.workerServed d.role l.view.name attempt.isMoved]) } : Lane).placed d
            (.publishing ⟨attempt.isMoved, after⟩),
        s.setObject l.view.handle.object o) := by
  have hserve : Ring.serve d.role l.view.geometry buffer (s.object l.view.handle.object) =
      (attempt, after, o) := hserve
  simp only [workerStep, placed, Store.updateObject_eq, role, direction, hserve]
  rfl

theorem workerStep_publishing {t : Transfer} :
    (l.placed d (.publishing t)).workerStep s = (l.placed (d.publish t) .announcing, s) := rfl

theorem workerStep_announcing (hcalls : l.handshake.Unattended) :
    (l.placed d .announcing).workerStep s = (l.placed d .looking, s) := by
  have hsame := congrArg Handshake.calls (Handshake.noticeCalls_of_unattended hcalls)
  have hsame : l.handshake.calls.map Call.noticed = l.handshake.calls := hsame
  simp only [workerStep, placed, onHandshake, Handshake.workerStep, Handshake.noticeCalls, hsame]

/-! ## Settling -/

/-- While the worker has something to do, it acts first. -/
theorem steps_succ_of_busy {l' : Lane} {s' : Store} (hw : l.handshake.worker = some w)
    (hbusy : w.isQuiet = false) (hstep : l.workerStep s = (l', s')) (n : Nat) :
    steps (n + 1) l s = steps n l' s' := by
  have hany : l.stepAny s = some (l', s') := by
    rw [stepAny, hw, ← hstep]
    exact if_neg (by rw [hbusy]; exact Bool.false_ne_true)
  rw [steps, hany]

/-- A lane whose worker sleeps and whose calls have returned is settled. -/
theorem steps_of_asleep (hw : l.handshake.worker = some .asleep)
    (hcalls : l.handshake.Unattended) (n : Nat) : steps n l s = (l, s) := by
  have hnone : l.handshake.calls.find? (fun k => !k.isQuiet) = none := by
    refine List.find?_eq_none.2 fun k hk => ?_
    rw [Call.isQuiet_of_returned (hcalls k hk)]
    exact Bool.false_ne_true
  have hstep : l.stepAny s = none := by
    rw [stepAny, hw]
    simp only [WorkerPhase.isQuiet, if_true, stepAny.stepCall, hnone, Option.map_none]
  cases n with
  | zero => rfl
  | succ n => rw [steps, hstep]

/-- **What becomes of a pending request**: the worker has been at the ring
with its buffer, the result is in the slot, and the worker sleeps again. -/
def answered (l : Lane) (buffer : Bytes) (s : Store) : Lane × Store :=
  let (attempt, after, o) := Ring.serve l.role l.view.geometry buffer (l.view.object s)
  (({ l with events := l.events.appendList (l.serviceEvents attempt) } : Lane).placed
      { l.direction with
        ready := false
        request := .finished ⟨attempt.isMoved, after⟩
        complete := attempt.isMoved }
      .asleep,
    s.setObject l.view.handle.object o)

/-- **The worker's way from a pending request to its sleep**: it picks the
request up, goes to the ring, hands the result back, tells the callers, and
finds nothing more. -/
theorem steps_pending (hw : l.handshake.worker = some .looking)
    (hready : l.direction.ready = true) (hexit : l.direction.exit = false)
    (hpending : l.direction.request = .pending buffer) (hcalls : l.handshake.Unattended)
    (n : Nat) : steps (n + 5) l s = l.answered buffer s := by
  obtain ⟨⟨attempt, after, o⟩, hserve⟩ :
      ∃ r, Ring.serve l.role l.view.geometry buffer (l.view.object s) = r := ⟨_, rfl⟩
  have hpick : l.direction.pickUp =
      (.request buffer, { l.direction with ready := false, request := .servicing }) := by
    simp only [Direction.pickUp, hready, hexit, hpending, if_true, Bool.false_eq_true, if_false]
  conv_lhs => rw [← placed_self hw]
  rw [steps_succ_of_busy rfl rfl (workerStep_looking_request hpick),
    steps_succ_of_busy rfl rfl (workerStep_serving (by exact hserve)),
    steps_succ_of_busy rfl rfl workerStep_publishing,
    steps_succ_of_busy rfl rfl (workerStep_announcing (by exact hcalls)),
    steps_succ_of_busy rfl rfl (workerStep_looking_nothing rfl),
    steps_of_asleep rfl (by exact hcalls), answered, hserve]
  rfl

/-! ## One request -/

/-- **A lane that waits for a request**: one that it accepts will be
served, and by its worker alone. -/
structure Attentive (l : Lane) : Prop where
  /-- The worker was started, has nothing in hand, and has not left. -/
  worker : ∃ w, l.handshake.worker = some w ∧ w.hand = .free ∧ w.hasLeft = false
  exit : l.direction.exit = false
  /-- No request is on its way. -/
  idle : l.direction.request.isOutstanding = false
  /-- No element is waiting to be collected. -/
  kept : l.role = .reader → l.direction.request.holdsElement = false
  calls : l.handshake.Unattended

/-- **Every live worker will do**: where slot, flags and worker agree, one
that was started and not shut down has nothing in hand while no request is
on its way. -/
theorem attentive_of_agreed (h : Agreed l.direction l.handshake.worker)
    (hw : l.handshake.worker = some w) (hexit : l.direction.exit = false)
    (hidle : l.direction.request.isOutstanding = false)
    (hkept : l.role = .reader → l.direction.request.holdsElement = false)
    (hcalls : l.handshake.Unattended) : l.Attentive := by
  refine ⟨⟨w, hw, ?_, ?_⟩, hexit, hidle, hkept, hcalls⟩
  · refine not_not.1 fun hhand => ?_
    have hservicing := h.servicing_iff.2 (by rw [hw]; exact hhand)
    rw [hservicing] at hidle
    exact Bool.noConfusion hidle
  · refine Bool.eq_false_iff.2 fun hleft => ?_
    exact Bool.false_ne_true (hexit.symm.trans (h.left w hw hleft))

/-- The steps from anywhere where a live worker has nothing in hand. -/
theorem settle_pending (hw : l.handshake.worker = some w) (hhand : w.hand = .free)
    (hleft : w.hasLeft = false) (hawake : w ≠ .asleep) (hready : l.direction.ready = true)
    (hexit : l.direction.exit = false) (hpending : l.direction.request = .pending buffer)
    (hcalls : l.handshake.Unattended) : l.settle s = l.answered buffer s := by
  obtain ⟨n, hn⟩ : ∃ n, l.stepBound = n + 1 + 5 :=
    ⟨l.stepBound - 6, by unfold stepBound; omega⟩
  rw [settle, hn]
  cases w with
  | looking => exact steps_pending hw hready hexit hpending hcalls (n + 1)
  | announcing =>
    conv_lhs => rw [← placed_self hw]
    rw [Nat.add_right_comm, steps_succ_of_busy rfl rfl (workerStep_announcing hcalls)]
    exact steps_pending (l := l.placed l.direction .looking) rfl hready hexit hpending hcalls n
  | asleep => exact absurd rfl hawake
  | serving b => cases hhand
  | publishing t => cases hhand
  | leaving => cases hleft
  | stopped => cases hleft

/-- **A request is accepted and answered.** -/
theorem submit_of_attentive (h : l.Attentive)
    (hb : buffer.length = l.direction.elementSize.toNat) :
    l.submit buffer s = (.ok (), l.answered buffer s) := by
  obtain ⟨w, hw, hhand, hleft⟩ := h.worker
  let d : Direction :=
    { l.direction with request := .pending buffer, ready := true, complete := false }
  have haccept : l.handshake.direction.submit buffer = (.ok (), d) :=
    Direction.submit_of_free hb h.exit h.idle h.kept
  have hsubmit : l.handshake.submit buffer = (.ok (), (l.placed d w.noticed).handshake) := by
    simp only [Handshake.submit, haccept, Handshake.noticeWorker, hw, Option.map_some, placed]
  -- the notice leaves a worker that is up where it is, and brings one up that sleeps
  have hup : w.noticed.hand = .free ∧ w.noticed.hasLeft = false ∧ w.noticed ≠ .asleep := by
    rw [WorkerPhase.hasLeft_noticed]
    refine ⟨?_, hleft, ?_⟩
    · cases w <;> exact hhand
    · cases w <;> simp [WorkerPhase.noticed]
  rw [submit, hsubmit]
  exact congrArg (Prod.mk _) (settle_pending (l := l.placed d w.noticed) rfl hup.1 hup.2.1 hup.2.2
    rfl h.exit rfl h.calls)

end Lane

/-! ## The direct call -/

/-- A dequeue that takes nothing leaves the buffer. -/
theorem Ring.dequeue_of_not_moved {g : Geometry} {buffer : Bytes} {o : Object}
    (h : (Ring.dequeue g buffer o).1.isMoved = false) : (Ring.dequeue g buffer o).2.1 = buffer := by
  unfold Ring.dequeue at h ⊢
  by_cases hlength : buffer.length ≠ g.elementSize.toNat
  · rw [if_pos hlength]
  · rw [if_neg hlength] at h ⊢
    by_cases hlock : o.lock = .broken
    · rw [if_pos hlock]
    · rw [if_neg hlock] at h ⊢
      dsimp only at h ⊢
      by_cases hempty : Ring.writeIndex o ≤ Ring.readIndex o
      · rw [if_pos hempty]
      · rw [if_neg hempty] at h
        cases h

namespace View

variable {v : View} {s t : Store}

/-- **What a view itself does with a buffer in a role**: it puts it in, or
has it filled. -/
def attempt (v : View) (role : Role) (buffer : Bytes) (s : Store) : Transfer × Store :=
  match role with
  | .writer =>
    let (attempt, s) := v.enqueue buffer s
    (⟨attempt.isMoved, buffer⟩, s)
  | .reader =>
    let (attempt, buffer, s) := v.dequeue buffer s
    (⟨attempt.isMoved, buffer⟩, s)

theorem attempt_eq (role : Role) (buffer : Bytes) :
    (v.attempt role buffer s).1 =
        ⟨(Ring.serve role v.geometry buffer (v.object s)).1.isMoved,
          (Ring.serve role v.geometry buffer (v.object s)).2.1⟩ ∧
      (v.attempt role buffer s).2.objects =
        (s.setObject v.handle.object
          (Ring.serve role v.geometry buffer (v.object s)).2.2).objects := by
  cases role with
  | writer =>
    rw [attempt, enqueue_eq]
    exact ⟨rfl, rfl⟩
  | reader =>
    rw [attempt, dequeue_eq]
    exact ⟨rfl, rfl⟩

/-- **A view looks at the objects of a store and at nothing else of it.** -/
theorem object_congr (h : s.objects = t.objects) : v.object s = v.object t :=
  congrArg (·.getD v.handle.object {}) h

theorem objects_setObject_congr (h : s.objects = t.objects) (n : Nat) (o : Object) :
    (s.setObject n o).objects = (t.setObject n o).objects :=
  congrArg (·.modify n fun _ => o) h

theorem attempt_congr (h : s.objects = t.objects) (role : Role) (buffer : Bytes) :
    (v.attempt role buffer s).1 = (v.attempt role buffer t).1 ∧
      (v.attempt role buffer s).2.objects = (v.attempt role buffer t).2.objects := by
  rw [(attempt_eq role buffer).1, (attempt_eq role buffer).1, (attempt_eq role buffer).2,
    (attempt_eq role buffer).2, object_congr h]
  exact ⟨rfl, objects_setObject_congr h _ _⟩

theorem perform_congr (h : s.objects = t.objects) (call : RingCall) :
    (v.perform call s).1 = (v.perform call t).1 ∧
      (v.perform call s).2.objects = (v.perform call t).2.objects := by
  have hobject : v.object s = v.object t := object_congr h
  cases call with
  | enqueue element =>
    rw [perform, perform, enqueue_eq, enqueue_eq, hobject]
    exact ⟨rfl, objects_setObject_congr h _ _⟩
  | dequeue buffer =>
    rw [perform, perform, dequeue_eq, dequeue_eq, hobject]
    exact ⟨rfl, objects_setObject_congr h _ _⟩
  | clear =>
    refine ⟨rfl, ?_⟩
    change (s.setObject v.handle.object (Ring.clear (v.object s))).objects = _
    rw [hobject]
    exact objects_setObject_congr h _ _
  | length => exact ⟨by simp only [perform, length, hobject], h⟩
  | isEmpty => exact ⟨by simp only [perform, isEmpty, length, hobject], h⟩
  | isFull =>
    refine ⟨?_, h⟩
    change RingAnswer.flag (Ring.isFull v.geometry (v.object s)) = _
    rw [hobject]
    rfl

end View

/-! ## Errands -/

/-- **Something a caller has done**: a request that is issued, let settle
and collected, or a direct call through some view. -/
inductive Errand
  | request (buffer : Bytes)
  | direct (v : View) (call : RingCall)

/-- **What comes of an errand.** -/
inductive Errand.Outcome
  /-- Whether the request was accepted, and what was collected. -/
  | collected (accepted : Except ChannelError Unit) (result? : Option Transfer)
  | answered (answer : RingAnswer)

/-- Whether a request's buffer has the length that a direction accepts. -/
def Errand.Fits (elementSize : UInt64) : Errand → Prop
  | .request buffer => buffer.length = elementSize.toNat
  | .direct _ _ => True

namespace Lane

/-- An errand done with a lane. -/
def perform (l : Lane) : Errand → Store → Errand.Outcome × Lane × Store
  | .request buffer, s =>
    let (accepted, l, s) := l.submit buffer s
    let (result?, l) := l.takeResult
    (.collected accepted result?, l, s)
  | .direct v call, s =>
    let (answer, s) := v.perform call s
    (.answered answer, l, s)

/-- Errands done with a lane, one after another. -/
def performAll : List Errand → Lane → Store → List Errand.Outcome × Lane × Store
  | [], l, s => ([], l, s)
  | errand :: rest, l, s =>
    let (outcome, l, s) := l.perform errand s
    let (outcomes, l, s) := performAll rest l s
    (outcome :: outcomes, l, s)

end Lane

namespace View

/-- The same errand with direct calls only. -/
def run (v : View) (role : Role) : Errand → Store → Errand.Outcome × Store
  | .request buffer, s =>
    let (t, s) := v.attempt role buffer s
    (.collected (.ok ()) (some t), s)
  | .direct w call, s =>
    let (answer, s) := w.perform call s
    (.answered answer, s)

/-- The same errands with direct calls only. -/
def runAll (v : View) (role : Role) : List Errand → Store → List Errand.Outcome × Store
  | [], s => ([], s)
  | errand :: rest, s =>
    let (outcome, s) := v.run role errand s
    let (outcomes, s) := runAll v role rest s
    (outcome :: outcomes, s)

theorem run_congr {v : View} {s t : Store} (h : s.objects = t.objects) (role : Role)
    (errand : Errand) : (v.run role errand s).1 = (v.run role errand t).1 ∧
      (v.run role errand s).2.objects = (v.run role errand t).2.objects := by
  cases errand with
  | request buffer =>
    obtain ⟨hresult, hobjects⟩ := attempt_congr (v := v) h role buffer
    exact ⟨congrArg (fun t => Errand.Outcome.collected (.ok ()) (some t)) hresult, hobjects⟩
  | direct w call =>
    obtain ⟨hanswer, hobjects⟩ := perform_congr (v := w) h call
    exact ⟨congrArg Errand.Outcome.answered hanswer, hobjects⟩

end View

namespace Lane

variable {l : Lane} {s : Store} {buffer : Bytes}

/-- **What a settled request leaves**: the lane of before, with an empty
slot, both flags down, and the worker asleep. -/
structure AtRest (l l' : Lane) : Prop where
  view : l'.view = l.view
  direction : l'.direction =
    { l.direction with ready := false, request := .empty, complete := false }
  worker : l'.handshake.worker = some .asleep
  calls : l'.handshake.calls = l.handshake.calls

theorem AtRest.role_eq {l' : Lane} (h : l.AtRest l') : l'.role = l.role := by
  rw [role, h.direction]
  rfl

theorem AtRest.elementSize_eq {l' : Lane} (h : l.AtRest l') :
    l'.direction.elementSize = l.direction.elementSize := by rw [h.direction]

theorem AtRest.attentive {l' : Lane} (h : l.AtRest l') (hl : l.Attentive) : l'.Attentive := by
  have hd := h.direction
  refine ⟨⟨.asleep, h.worker, rfl, rfl⟩, ?_, ?_, fun _ => ?_, fun k hk => ?_⟩
  · rw [hd]; exact hl.exit
  · rw [hd]; rfl
  · rw [hd]; rfl
  · exact hl.calls k (h.calls ▸ hk)

/-- **A settled request is the direct call.** -/
theorem perform_request (h : l.Attentive) (hb : buffer.length = l.direction.elementSize.toNat) :
    (l.perform (.request buffer) s).1 =
        .collected (.ok ()) (some (l.view.attempt l.role buffer s).1) ∧
      l.AtRest (l.perform (.request buffer) s).2.1 ∧
      (l.perform (.request buffer) s).2.2.objects = (l.view.attempt l.role buffer s).2.objects := by
  obtain ⟨hresult, hobjects⟩ := View.attempt_eq (v := l.view) (s := s) l.role buffer
  rw [perform, submit_of_attentive h hb, hresult, hobjects]
  exact ⟨rfl, ⟨rfl, rfl, rfl, rfl⟩, rfl⟩

/-- **And so are any number of them**, among direct calls. -/
theorem performAll_eq (h : l.Attentive) {errands : List Errand}
    (hfit : ∀ e ∈ errands, e.Fits l.direction.elementSize) {t : Store}
    (hst : s.objects = t.objects) :
    (performAll errands l s).1 = (l.view.runAll l.role errands t).1 ∧
      (performAll errands l s).2.1.Attentive ∧
      (performAll errands l s).2.2.objects = (l.view.runAll l.role errands t).2.objects := by
  induction errands generalizing l s t with
  | nil => exact ⟨rfl, h, hst⟩
  | cons e rest ih =>
    -- the errand is done alike on both sides, and leaves a lane of the same kind
    obtain ⟨l', s', hdone, hl', hview, hrole, hsize, hobjects⟩ : ∃ l' s',
        l.perform e s = ((l.view.run l.role e t).1, l', s') ∧ l'.Attentive ∧ l'.view = l.view ∧
          l'.role = l.role ∧ l'.direction.elementSize = l.direction.elementSize ∧
          s'.objects = (l.view.run l.role e t).2.objects := by
      obtain ⟨hsame, hobjects⟩ := View.run_congr (v := l.view) hst l.role e
      rw [← hsame, ← hobjects]
      cases e with
      | request buffer =>
        obtain ⟨hcollected, hrest, hserved⟩ := perform_request (s := s) h
          (hfit (.request buffer) (List.mem_cons_self ..))
        exact ⟨(l.perform (.request buffer) s).2.1, (l.perform (.request buffer) s).2.2,
          Prod.ext hcollected rfl, hrest.attentive h, hrest.view,
          hrest.role_eq, hrest.elementSize_eq, hserved⟩
      | direct v call => exact ⟨l, _, rfl, h, rfl, rfl, rfl, rfl⟩
    obtain ⟨houtcomes, hattentive, hend⟩ := ih hl'
      (fun e' he' => by rw [hsize]; exact hfit e' (List.mem_cons_of_mem _ he')) hobjects
    rw [hview, hrole] at houtcomes hend
    rw [performAll, hdone]
    exact ⟨congrArg (_ :: ·) houtcomes, hattentive, hend⟩

/-- **The asynchronous path agrees with the direct call.** On a lane that
waits for a request, over any ring and any store, a request that is issued,
settled and collected is accepted; its result says whether the direct call
moves an element, and carries the writer's buffer, or the element that the
direct call reads, or the reader's buffer where it reads none. It leaves
the objects that the direct call leaves, byte for byte, and the slot empty
with both flags down. And any number of such requests, among direct calls
through any views, have the outcomes of direct calls alone, on a lane that
waits again at the end. -/
theorem requests_eq_direct_calls (h : l.Attentive) (s : Store) :
    (∀ buffer : Bytes, buffer.length = l.direction.elementSize.toNat →
      (l.role = .writer →
        (l.perform (.request buffer) s).1 =
            .collected (.ok ()) (some ⟨(l.view.enqueue buffer s).1.isMoved, buffer⟩) ∧
          (l.perform (.request buffer) s).2.2.objects = (l.view.enqueue buffer s).2.objects) ∧
      (l.role = .reader →
        (l.perform (.request buffer) s).1 =
            .collected (.ok ()) (some ⟨(l.view.dequeue buffer s).1.isMoved,
              (l.view.dequeue buffer s).2.1⟩) ∧
          ((l.view.dequeue buffer s).1.isMoved = false →
            (l.view.dequeue buffer s).2.1 = buffer) ∧
          (l.perform (.request buffer) s).2.2.objects = (l.view.dequeue buffer s).2.2.objects) ∧
      l.AtRest (l.perform (.request buffer) s).2.1) ∧
    ∀ errands : List Errand, (∀ e ∈ errands, e.Fits l.direction.elementSize) →
      (performAll errands l s).1 = (l.view.runAll l.role errands s).1 ∧
        (performAll errands l s).2.2.objects = (l.view.runAll l.role errands s).2.objects ∧
        (performAll errands l s).2.1.Attentive := by
  refine ⟨fun buffer hb => ?_, fun errands hfit => ?_⟩
  · obtain ⟨hcollected, hrest, hobjects⟩ := perform_request (s := s) h hb
    refine ⟨fun hrole => ?_, fun hrole => ?_, hrest⟩
    · rw [hrole] at hcollected hobjects
      exact ⟨hcollected, hobjects⟩
    · rw [hrole] at hcollected hobjects
      refine ⟨hcollected, fun hmoved => ?_, hobjects⟩
      rw [View.dequeue_eq] at hmoved ⊢
      exact Ring.dequeue_of_not_moved hmoved
  · obtain ⟨houtcomes, hattentive, hobjects⟩ := performAll_eq h hfit rfl
    exact ⟨houtcomes, hobjects, hattentive⟩

/-- A ring of two elements of one byte whose write index has been passed by
its read index. -/
def strandedStore : Store := { objects := #[Ring.setIndices 5 4 { size := 58 }] }

/-- A view on it. -/
def strandedView : View :=
  ⟨⟨.ofLetter 'a' (Eq.refl true), 58, false, 0, 0⟩, ⟨2, 1⟩⟩

/-- The lane of a reader on it: an earlier request was refused and its
result is still there, and the worker is about to look again. -/
def strandedLane : Lane :=
  { view := strandedView
    handshake :=
      { direction :=
          { role := .reader, elementSize := 1, request := .finished ⟨false, [9]⟩ }
        worker := some .announcing } }

theorem requests_eq_direct_calls_stranded :
    strandedLane.Attentive ∧ ([7] : Bytes).length = (1 : UInt64).toNat ∧
      ([8] : Bytes).length = (1 : UInt64).toNat ∧
      strandedLane.AtRest (strandedLane.perform (.request [7]) strandedStore).2.1 ∧
      (performAll [.request [7], .direct strandedView .clear, .request [8]] strandedLane
          strandedStore).1 =
        (strandedView.runAll .reader [.request [7], .direct strandedView .clear, .request [8]]
          strandedStore).1 := by
  have h : strandedLane.Attentive :=
    ⟨⟨.announcing, rfl, rfl, rfl⟩, rfl, rfl, fun _ => rfl, fun k hk => by cases hk⟩
  have hfits : ∀ b : UInt8, ([b] : Bytes).length = (1 : UInt64).toNat := fun _ => rfl
  obtain ⟨hone, hmany⟩ := requests_eq_direct_calls h strandedStore
  refine ⟨h, hfits 7, hfits 8, (hone [7] (hfits 7)).2.2, (hmany _ fun e he => ?_).1⟩
  simp only [List.mem_cons, List.not_mem_nil, or_false] at he
  rcases he with rfl | rfl | rfl
  · exact hfits 7
  · trivial
  · exact hfits 8

end Lane

end TwinRing
