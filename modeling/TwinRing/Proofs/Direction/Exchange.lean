import TwinRing.Proofs.Direction.Calls
/-!
# Lanes under way — the slot and the hand of the worker

What becomes of a request can be followed in two places: the slot, and
what the worker holds while it is away from the mutex. `Exchange.Step`
lists all that can happen to the two, six kinds of step, whatever flags,
notices and sleeps lead there; `step_turn` says that every turn of a
course is one of them. An invariant of slot and hand is therefore proved
against six cases, and `exchange_induction` makes it one of every course.
-/

namespace TwinRing

/-! ## The hand of the worker -/

/-- **What the worker holds** while it is away from the mutex. -/
inductive Hand
  | free
  /-- The buffer of a request, on the way to the ring. -/
  | carrying (buffer : Bytes)
  /-- A result, on the way back. -/
  | returning (result : Transfer)

/-- What a worker holds where it is. -/
def WorkerPhase.hand : WorkerPhase → Hand
  | .serving buffer => .carrying buffer
  | .publishing result => .returning result
  | .looking => .free
  | .asleep => .free
  | .announcing => .free
  | .leaving => .free
  | .stopped => .free

/-- A notice puts nothing into the worker's hand and takes nothing out. -/
@[simp] theorem WorkerPhase.hand_noticed (w : WorkerPhase) : w.noticed.hand = w.hand := by
  cases w <;> rfl

/-- What the worker holds; nothing, if there is none. -/
def handOf : Option WorkerPhase → Hand
  | some w => w.hand
  | none => .free

@[simp] theorem handOf_map_noticed (w? : Option WorkerPhase) :
    handOf (w?.map WorkerPhase.noticed) = handOf w? := by
  cases w? with
  | none => rfl
  | some w => exact w.hand_noticed

/-- **What the worker does but at the ring.** It takes a request out of the
slot, puts a result into it, or leaves slot and hand alone. -/
theorem Handshake.workerStep_cases (h : Handshake) :
    (∃ buffer, h.direction.request = .pending buffer ∧ handOf h.worker = .free ∧
        h.workerStep.direction.request = .servicing ∧
        handOf h.workerStep.worker = .carrying buffer) ∨
      (∃ t, handOf h.worker = .returning t ∧ h.workerStep.direction.request = .finished t ∧
        handOf h.workerStep.worker = .free) ∨
      h.workerStep.direction.request = h.direction.request ∧
        handOf h.workerStep.worker = handOf h.worker := by
  obtain ⟨d, worker, calls, next⟩ := h
  cases worker with
  | none => exact .inr (.inr ⟨rfl, rfl⟩)
  | some w =>
    cases w with
    | looking =>
      rcases d.pickUp_cases with ⟨buffer, hpending, -, hpick⟩ | ⟨hnot, hsame⟩
      · refine .inl ⟨buffer, hpending, rfl, ?_, ?_⟩
        · simp only [workerStep, hpick]
        · simp only [workerStep, hpick]
          rfl
      · refine .inr (.inr ?_)
        simp only [workerStep]
        -- The four things it can find differ in where the worker goes next.
        rcases hpick : d.pickUp with ⟨found, d'⟩
        rw [hpick] at hnot hsame
        cases found with
        | request buffer => exact absurd rfl (hnot buffer)
        | nothing => exact ⟨hsame, rfl⟩
        | exit => exact ⟨hsame, rfl⟩
        | noRequest => exact ⟨hsame, rfl⟩
    | publishing t => exact .inr (.inl ⟨t, rfl, rfl, rfl⟩)
    | asleep => exact .inr (.inr ⟨rfl, rfl⟩)
    | serving buffer => exact .inr (.inr ⟨rfl, rfl⟩)
    | announcing => exact .inr (.inr ⟨rfl, rfl⟩)
    | leaving => exact .inr (.inr ⟨rfl, rfl⟩)
    | stopped => exact .inr (.inr ⟨rfl, rfl⟩)

/-- **What no step of the worker changes**: of the direction all but the slot
and the two flags. -/
theorem Handshake.workerStep_frame (h : Handshake) : ∃ request ready complete,
    h.workerStep.direction = { h.direction with request, ready, complete } := by
  obtain ⟨d, worker, calls, next⟩ := h
  cases worker with
  | none => exact ⟨_, _, _, rfl⟩
  | some w =>
    cases w with
    | looking =>
      obtain ⟨ready, request, hd⟩ := d.pickUp_frame
      simp only [workerStep]
      rcases hpick : d.pickUp with ⟨found, d'⟩
      rw [hpick] at hd
      cases found <;> exact ⟨_, _, _, hd⟩
    | _ => exact ⟨_, _, _, rfl⟩

theorem Handshake.role_workerStep (h : Handshake) :
    h.workerStep.direction.role = h.direction.role := by
  obtain ⟨request, ready, complete, hd⟩ := h.workerStep_frame
  rw [hd]

theorem Handshake.exit_workerStep (h : Handshake) :
    h.workerStep.direction.exit = h.direction.exit := by
  obtain ⟨request, ready, complete, hd⟩ := h.workerStep_frame
  rw [hd]

theorem Handshake.elementSize_workerStep (h : Handshake) :
    h.workerStep.direction.elementSize = h.direction.elementSize := by
  obtain ⟨request, ready, complete, hd⟩ := h.workerStep_frame
  rw [hd]

/-! ## The exchange -/

/-- **The slot, the hand of the worker, and what was done.** -/
structure Exchange where
  /-- The side of the ring that the worker drives. -/
  role : Role
  request : Request
  hand : Hand
  /-- Who issued the request that was accepted last. -/
  requester : Option Nat
  /-- What was done so far, oldest first. -/
  record : List Deed

namespace Exchange

/-- Deeds that have to do with neither slot nor hand. -/
def Aside : Deed → Prop
  | .began _ _ => True
  | .returned _ (.error _) => True
  | _ => False

/-- Such a deed is the start of a call, or its return for a cause. -/
theorem aside_cases {d : Deed} (h : Aside d) :
    (∃ ticket element, d = .began ticket element) ∨
      ∃ ticket e, d = .returned ticket (.error e) := by
  cases d with
  | began ticket element => exact .inl ⟨ticket, element, rfl⟩
  | returned ticket result =>
    cases result with
    | ok element => exact h.elim
    | error e => exact .inr ⟨ticket, e, rfl⟩
  | _ => exact h.elim

/-- **All that can happen to slot and hand.** -/
inductive Step (x : Exchange) : Exchange → Prop
  /-- Nothing does. -/
  | aside (deeds : List Deed) (h : ∀ d ∈ deeds, Aside d) :
      Step x { x with record := x.record ++ deeds }
  /-- A request is accepted, and replaces a result that is there. -/
  | accept (caller : Option Nat) (buffer : Bytes) (free : x.request.isOutstanding = false)
      (kept : x.role = .reader → x.request.holdsElement = false) :
      Step x { x with
        request := .pending buffer, requester := caller
        record := x.record ++
          (Course.replacedDeeds x.requester x.request ++ [.accepted caller buffer]) }
  /-- A result is collected. -/
  | collect (caller : Option Nat) (result : Transfer) (h : x.request = .finished result) :
      Step x { x with
        request := .empty
        record := x.record ++ (.collected caller x.requester result :: Call.outcome caller result) }
  /-- The worker picks a request up. -/
  | pickUp (buffer : Bytes) (h : x.request = .pending buffer) (free : x.hand = .free) :
      Step x { x with request := .servicing, hand := .carrying buffer }
  /-- The worker is at the ring. A writer brings its buffer back as it was. -/
  | serve (buffer : Bytes) (attempt : Attempt) (after : Bytes) (h : x.hand = .carrying buffer)
      (same : x.role = .writer → after = buffer) :
      Step x { x with
        hand := .returning ⟨attempt.isMoved, after⟩
        record := x.record ++ [.served x.requester buffer attempt after] }
  /-- The worker hands a result back. -/
  | publish (result : Transfer) (h : x.hand = .returning result) :
      Step x { x with request := .finished result, hand := .free }

theorem Step.refl (x : Exchange) : Step x x := by
  have h := Step.aside (x := x) [] (by simp)
  rwa [List.append_nil] at h

theorem Step.role_eq {x y : Exchange} (h : Step x y) : y.role = x.role := by
  cases h <;> rfl

theorem Step.record_grows {x y : Exchange} (h : Step x y) :
    ∃ more, y.record = x.record ++ more := by
  cases h with
  | aside deeds hdeeds => exact ⟨_, rfl⟩
  | accept caller buffer free kept => exact ⟨_, rfl⟩
  | collect caller result hfinished => exact ⟨_, rfl⟩
  | pickUp buffer hpending free => exact ⟨[], (List.append_nil _).symm⟩
  | serve buffer attempt after hcarrying same => exact ⟨_, rfl⟩
  | publish result hreturning => exact ⟨[], (List.append_nil _).symm⟩

end Exchange

/-! ## Turns of a course as steps -/

namespace Course

variable {c : Course} {k : Call} {ticket : Nat}

def exchange (c : Course) : Exchange :=
  ⟨c.direction.role, c.direction.request, handOf c.worker, c.requester, c.record⟩

theorem ticket_of_call? (h : c.call? ticket = some k) : k.ticket = ticket := by
  have hfound := List.find?_some h
  exact beq_iff_eq.1 hfound

/-- The step of a call moves the direction as the call says, and no more
than rouses the worker. -/
theorem callStep_of_call? (h : c.call? ticket = some k) :
    (c.lane.callStep ticket).direction = (k.step c.direction).1 ∧
      handOf (c.lane.callStep ticket).handshake.worker = handOf c.worker := by
  have hfind : c.lane.handshake.calls.find? (·.ticket == ticket) = some k := h
  simp only [Lane.callStep, Lane.onHandshake, Lane.direction, Handshake.callStep, hfind]
  -- Only a call that has just issued its request rouses the worker.
  cases hphase : k.phase <;> exact ⟨rfl, by first | rfl | exact handOf_map_noticed _⟩

theorem exchange_call (h : c.call? ticket = some k) :
    (c.turn (.call ticket)).exchange =
      ⟨(k.step c.direction).1.role, (k.step c.direction).1.request, handOf c.worker,
        (callDeeds c.direction c.requester k).1,
        c.record ++ (callDeeds c.direction c.requester k).2⟩ := by
  obtain ⟨hdirection, hhand⟩ := callStep_of_call? h
  have hturn : (c.turn (.call ticket)).exchange =
      ⟨(c.lane.callStep ticket).direction.role, (c.lane.callStep ticket).direction.request,
        handOf (c.lane.callStep ticket).handshake.worker,
        (callDeeds c.direction c.requester k).1,
        c.record ++ (callDeeds c.direction c.requester k).2⟩ := by
    simp only [turn, h]
    rfl
  rw [hturn, hdirection, hhand]

/-- **The step of a call is one of the exchange.** -/
theorem step_call (h : c.call? ticket = some k) :
    c.exchange.Step (c.turn (.call ticket)).exchange := by
  rw [exchange_call h]
  -- The move is split by its own indices, so the terms they stand for give way to names.
  generalize hd : (k.step c.direction).1 = d
  generalize hs : (k.step c.direction).2.standing = s
  generalize hdone : callDeeds c.direction c.requester k = done
  have hmove := k.moves c.direction c.requester
  rw [hd, hs, hdone] at hmove
  cases hmove with
  | accepted buffer owes free kept => exact .accept _ buffer free kept
  | collected t waits ht => exact .collect _ t ht
  | failed e running => exact .aside _ (by simp [Exchange.Aside])
  | still => exact .aside [] (by simp)

/-- Where the worker is not at the ring, its step is the handshake's. -/
theorem exchange_worker_of_not_serving (h : ∀ buffer, c.worker ≠ some (.serving buffer)) :
    (c.turn .worker).exchange =
      { c.exchange with
        request := c.lane.handshake.workerStep.direction.request
        hand := handOf c.lane.handshake.workerStep.worker } := by
  have hdeeds : workerDeeds c.lane c.store c.requester = [] := by
    unfold workerDeeds
    split
    · exact absurd (by assumption) (h _)
    · rfl
  have hlane : (c.lane.workerStep c.store).1.handshake = c.lane.handshake.workerStep := by
    unfold Lane.workerStep
    split
    · exact absurd (by assumption) (h _)
    · rfl
    · rfl
  have hrole := c.lane.handshake.role_workerStep
  simp only [turn, moved, exchange, hdeeds, List.append_nil, direction, worker, Lane.direction,
    hlane, hrole]

/-- **What the worker makes of the exchange away from the ring**: it picks a
request up, hands a result back, or leaves all as it is. -/
theorem exchange_worker_cases (h : ∀ buffer, c.worker ≠ some (.serving buffer)) :
    (∃ buffer, c.exchange.request = .pending buffer ∧ c.exchange.hand = .free ∧
        (c.turn .worker).exchange =
          { c.exchange with request := .servicing, hand := .carrying buffer }) ∨
      (∃ t, c.exchange.hand = .returning t ∧
        (c.turn .worker).exchange = { c.exchange with request := .finished t, hand := .free }) ∨
      (c.turn .worker).exchange = c.exchange := by
  rw [exchange_worker_of_not_serving h]
  rcases c.lane.handshake.workerStep_cases with
    ⟨buffer, hpending, hfree, hrequest, hhand⟩ | ⟨t, hreturning, hrequest, hhand⟩ |
      ⟨hrequest, hhand⟩ <;> rw [hrequest, hhand]
  · exact .inl ⟨buffer, hpending, hfree, rfl⟩
  · exact .inr (.inl ⟨t, hreturning, rfl⟩)
  · exact .inr (.inr rfl)

/-- What the worker does at the ring. A writer brings its buffer back. -/
theorem serve_of_writer (g : Geometry) (buffer : Bytes) (o : Object) :
    (Ring.serve .writer g buffer o).2.1 = buffer := rfl

theorem exchange_worker_of_serving {buffer : Bytes} (h : c.worker = some (.serving buffer)) :
    (c.turn .worker).exchange =
      { c.exchange with
        hand := .returning
          ⟨(Ring.serve c.direction.role c.lane.view.geometry buffer
              (c.lane.view.object c.store)).1.isMoved,
            (Ring.serve c.direction.role c.lane.view.geometry buffer
              (c.lane.view.object c.store)).2.1⟩
        record := c.record ++ [.served c.requester buffer
          (Ring.serve c.direction.role c.lane.view.geometry buffer
            (c.lane.view.object c.store)).1
          (Ring.serve c.direction.role c.lane.view.geometry buffer
            (c.lane.view.object c.store)).2.1] } := by
  have hw : c.lane.handshake.worker = some (.serving buffer) := h
  simp only [turn, moved, exchange, workerDeeds, Lane.workerStep, hw, Store.updateObject_eq]
  rfl

theorem exchange_of_eq {c' : Course} (hrole : c'.direction.role = c.direction.role)
    (hrequest : c'.direction.request = c.direction.request)
    (hhand : handOf c'.worker = handOf c.worker) (hrequester : c'.requester = c.requester)
    (hrecord : c'.record = c.record) : c'.exchange = c.exchange := by
  simp only [exchange, hrole, hrequest, hhand, hrequester, hrecord]

theorem step_of_eq {c' : Course} (hrole : c'.direction.role = c.direction.role)
    (hrequest : c'.direction.request = c.direction.request)
    (hhand : handOf c'.worker = handOf c.worker) (hrequester : c'.requester = c.requester)
    (hrecord : c'.record = c.record) : c.exchange.Step c'.exchange := by
  rw [exchange_of_eq hrole hrequest hhand hrequester hrecord]
  exact .refl _

/-- To start the worker is nothing to the exchange. -/
theorem exchange_spawn (c : Course) : (c.turn .spawn).exchange = c.exchange := by
  rcases c.turn_spawn with ⟨hw, hturn⟩ | ⟨-, hturn⟩ <;> rw [hturn]
  exact exchange_of_eq rfl rfl (by rw [hw]; rfl) rfl rfl

/-- **The step of the worker is one of the exchange.** -/
theorem step_worker (c : Course) : c.exchange.Step (c.turn .worker).exchange := by
  by_cases hserving : ∃ buffer, c.worker = some (.serving buffer)
  · obtain ⟨buffer, hserving⟩ := hserving
    rw [exchange_worker_of_serving hserving]
    refine .serve buffer _ _ (by rw [exchange, hserving]; rfl) fun hrole => ?_
    have hrole : c.direction.role = .writer := hrole
    rw [hrole, serve_of_writer]
  · rcases c.exchange_worker_cases fun buffer h => hserving ⟨buffer, h⟩ with
      ⟨buffer, hpending, hfree, hnext⟩ | ⟨t, hreturning, hnext⟩ | hsame
    · rw [hnext]
      exact .pickUp buffer hpending hfree
    · rw [hnext]
      exact .publish t hreturning
    · rw [hsame]
      exact .refl _

/-- **What a request in one go comes to**: it is refused, or accepted. -/
theorem exchange_submit_cases (c : Course) (buffer : Bytes) :
    (c.turn (.submit buffer)).exchange = c.exchange ∨
      c.direction.request.isOutstanding = false ∧
        (c.direction.role = .reader → c.direction.request.holdsElement = false) ∧
        (c.turn (.submit buffer)).exchange =
          { c.exchange with
            request := .pending buffer, requester := none
            record := c.record ++
              (replacedDeeds c.requester c.direction.request ++ [.accepted none buffer]) } := by
  rcases c.direction.submit_cases buffer with ⟨e, he⟩ | ⟨-, -, hfree, hkept, hok⟩
  · have hsubmit : c.lane.handshake.direction.submit buffer = (.error e, c.direction) := he
    have hdeeds : submitDeeds c.direction c.requester none buffer = (c.requester, []) := by
      simp only [submitDeeds, he]
    refine .inl ?_
    simp only [turn, moved, hdeeds, Lane.onHandshake, Handshake.submit, hsubmit, List.append_nil]
    exact exchange_of_eq rfl rfl rfl rfl rfl
  · have hsubmit : c.lane.handshake.direction.submit buffer = (.ok (),
        { c.direction with request := .pending buffer, ready := true, complete := false }) := hok
    have hdeeds : submitDeeds c.direction c.requester none buffer =
        (none, replacedDeeds c.requester c.direction.request ++ [.accepted none buffer]) := by
      simp only [submitDeeds, hok]
    refine .inr ⟨hfree, hkept, ?_⟩
    simp only [turn, moved, hdeeds, Lane.onHandshake, Handshake.submit, hsubmit, exchange, worker,
      Handshake.noticeWorker, handOf_map_noticed]
    rfl

/-- **A request in one go is a step of the exchange.** -/
theorem step_submit (c : Course) (buffer : Bytes) :
    c.exchange.Step (c.turn (.submit buffer)).exchange := by
  rcases c.exchange_submit_cases buffer with hsame | ⟨hfree, hkept, haccepted⟩
  · rw [hsame]
    exact .refl _
  · rw [haccepted]
    exact .accept none buffer hfree hkept

/-- **What collecting in one go comes to**: there is a result, or none. -/
theorem exchange_collect_cases (c : Course) :
    (c.turn .collect).exchange = c.exchange ∨
      ∃ t, c.direction.request = .finished t ∧
        (c.turn .collect).exchange =
          { c.exchange with
            request := .empty
            record := c.record ++ [.collected none c.requester t] } := by
  rcases c.direction.takeFinished_cases with ⟨t, ht, htake⟩ | hnone
  · have hresult : c.lane.handshake.direction.takeFinished =
        (some t, { c.direction with request := .empty, complete := false }) := htake
    refine .inr ⟨t, ht, ?_⟩
    simp only [turn, moved, collectDeeds, htake, Lane.takeResult, Handshake.takeResult, hresult]
    rfl
  · have hresult : c.lane.handshake.direction.takeFinished = (none, c.direction) := hnone
    refine .inl ?_
    simp only [turn, moved, collectDeeds, hnone, Lane.takeResult, Handshake.takeResult, hresult,
      List.append_nil]
    exact exchange_of_eq rfl rfl rfl rfl rfl

/-- **Collecting in one go is a step of the exchange.** -/
theorem step_collect (c : Course) : c.exchange.Step (c.turn .collect).exchange := by
  rcases c.exchange_collect_cases with hsame | ⟨t, ht, hcollected⟩
  · rw [hsame]
    exact .refl _
  · rw [hcollected]
    exact .collect none t ht

/-- **Every turn is a step of the exchange.** -/
theorem step_turn (c : Course) (t : Turn) : c.exchange.Step (c.turn t).exchange := by
  cases t with
  | spawn =>
    rw [exchange_spawn]
    exact .refl _
  | submit buffer => exact c.step_submit buffer
  | collect => exact c.step_collect
  | shutDown => exact step_of_eq rfl rfl (handOf_map_noticed _) rfl rfl
  | begin element policy => exact .aside [_] (by simp [Exchange.Aside])
  | call ticket =>
    cases h : c.call? ticket with
    | none =>
      have hturn : c.turn (.call ticket) = c := by simp only [turn, h]
      rw [hturn]
      exact .refl _
    | some k => exact step_call h
  | rouse ticket => exact .refl _
  | worker => exact c.step_worker
  | rouseWorker => exact step_of_eq rfl rfl (handOf_map_noticed _) rfl rfl
  | others s => exact .refl _

theorem exchange_start (view : View) (role : Role) (elementSize : UInt64) (s : Store) :
    (start view role elementSize s).exchange = ⟨role, .empty, .free, none, []⟩ := rfl

/-- **What every step of the exchange keeps holds in every course** that it
held at the start of. -/
theorem exchange_run {P : Exchange → Prop} (turns : List Turn) (init : P c.exchange)
    (step : ∀ x y, x.Step y → P x → P y) : P (c.run turns).exchange :=
  run_induction turns init fun c t => step _ _ (c.step_turn t)

theorem role_run (view : View) (role : Role) (elementSize : UInt64) (s : Store)
    (turns : List Turn) : ((start view role elementSize s).run turns).direction.role = role :=
  exchange_run (P := fun x => x.role = role) turns rfl fun _ _ hstep ih => hstep.role_eq.trans ih

end Course

end TwinRing
