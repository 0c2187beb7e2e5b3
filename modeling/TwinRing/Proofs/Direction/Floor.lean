import TwinRing.Proofs.Direction.Account
import TwinRing.Proofs.Segment.Objects
/-!
# Lanes under way — a lane with one caller

A caller that is alone on its lane does one thing at a time: while a
blocking call of its is under way it starts no other and neither issues
nor collects anything beside it. `soleTurn` is a turn under this rule;
worker, shutdown and sleepers act as before.

The floor is the exchange seen together with how all calls stand and with
the object of the ring. `Floor.Step` lists what a turn of a lane with one
caller can be to all three at once, ten kinds of step, so that what holds
because a caller is alone is proved against these and not against turns.
-/

namespace TwinRing

/-! ## One caller -/

/-- Whether a call that stands so is under way. -/
def Standing.isRunning : Standing → Bool
  | .owing _ => true
  | .waiting => true
  | .ended _ => false

theorem Standing.isRunning_iff {s : Standing} : s.isRunning = true ↔ ∀ r, s ≠ .ended r := by
  cases s with
  | owing buffer => simp [isRunning]
  | waiting => simp [isRunning]
  | ended r => simp [isRunning]

namespace Course

/-- Whether a blocking call is under way. -/
def isBusy (c : Course) : Bool := c.lane.handshake.calls.any fun k => k.result?.isNone

/-- **A turn, if a caller that is alone can take it.** What others do to the
store is not a turn of the lane. -/
def soleTurn (c : Course) : Turn → Course
  | .submit buffer => if c.isBusy then c else c.turn (.submit buffer)
  | .collect => if c.isBusy then c else c.turn .collect
  | .begin element policy => if c.isBusy then c else c.turn (.begin element policy)
  | .others _ => c
  | .spawn => c.turn .spawn
  | .shutDown => c.turn .shutDown
  | .call ticket => c.turn (.call ticket)
  | .rouse ticket => c.turn (.rouse ticket)
  | .worker => c.turn .worker
  | .rouseWorker => c.turn .rouseWorker

/-- It is a turn like any other, or none. -/
theorem soleTurn_cases (c : Course) (t : Turn) :
    c.soleTurn t = c ∨ c.soleTurn t = c.turn t := by
  have guarded : ∀ t, (if c.isBusy then c else c.turn t) = c ∨
      (if c.isBusy then c else c.turn t) = c.turn t := fun t => by split <;> simp
  cases t with
  | submit buffer => exact guarded _
  | collect => exact guarded _
  | begin element policy => exact guarded _
  | others s => exact .inl rfl
  | _ => exact .inr rfl

end Course

/-! ## The floor -/

/-- **The exchange, the calls, and the object of the ring.** -/
structure Floor where
  exchange : Exchange
  /-- How the call with a ticket stands. -/
  standing? : Nat → Option Standing
  ring : Object

namespace Exchange

/-- A request is accepted. -/
def accepting (x : Exchange) (caller : Option Nat) (buffer : Bytes) : Exchange :=
  { x with
    request := .pending buffer, requester := caller
    record := x.record ++
      (Course.replacedDeeds x.requester x.request ++ [.accepted caller buffer]) }

/-- A result is collected. -/
def collecting (x : Exchange) (caller : Option Nat) (result : Transfer) : Exchange :=
  { x with
    request := .empty
    record := x.record ++ (.collected caller x.requester result :: Call.outcome caller result) }

def noting (x : Exchange) (d : Deed) : Exchange := { x with record := x.record ++ [d] }

/-- The worker comes back from the ring. -/
def serving (x : Exchange) (buffer : Bytes) (attempt : Attempt) (after : Bytes) : Exchange :=
  { x with
    hand := .returning ⟨attempt.isMoved, after⟩
    record := x.record ++ [.served x.requester buffer attempt after] }

/-- **No request is served** from one to the other. -/
def Quiet (x y : Exchange) : Prop :=
  ∃ more, y.record = x.record ++ more ∧ ∀ d ∈ more, d.served? = none

section Quiet

variable {x y : Exchange} {caller : Option Nat} {buffer : Bytes} {result : Transfer} {d : Deed}

theorem quiet_of_record_eq (h : y.record = x.record) : x.Quiet y :=
  ⟨[], h.trans (List.append_nil _).symm, fun _ hd => absurd hd List.not_mem_nil⟩

theorem quiet_accepting : x.Quiet (x.accepting caller buffer) := by
  refine ⟨_, rfl, fun d hd => ?_⟩
  rcases List.mem_append.1 hd with hd | hd
  · obtain ⟨t, -, rfl⟩ := Course.mem_replacedDeeds_iff.1 hd
    rfl
  · rw [List.mem_singleton.1 hd]; rfl

theorem quiet_collecting : x.Quiet (x.collecting caller result) := by
  refine ⟨_, rfl, fun d hd => ?_⟩
  rcases List.mem_cons.1 hd with rfl | hd
  · rfl
  · obtain ⟨ticket, -, -, rfl⟩ := Call.mem_outcome_iff.1 hd
    rfl

theorem quiet_noting (h : d.served? = none) : x.Quiet (x.noting d) :=
  ⟨[d], rfl, fun _ hd => List.mem_singleton.1 hd ▸ h⟩

/-- What is read off the requests that were served stays the same. -/
theorem Quiet.flatMap_eq {β : Type} {f : Deed → List β} (h : x.Quiet y)
    (hf : ∀ d, d.served? = none → f d = []) : y.record.flatMap f = x.record.flatMap f := by
  obtain ⟨more, hmore, hnone⟩ := h
  have hnil : more.flatMap f = [] := List.flatMap_eq_nil_iff.2 fun d hd => hf d (hnone d hd)
  rw [hmore, List.flatMap_append, hnil, List.append_nil]

end Quiet

end Exchange

namespace Floor

/-- How all calls stand when one of them has moved. -/
def stood (x : Floor) (ticket : Nat) (s : Standing) : Nat → Option Standing :=
  fun other => if other = ticket then some s else x.standing? other

section Stood

variable {x : Floor} {ticket other : Nat} {s : Standing}

@[simp] theorem stood_self : x.stood ticket s ticket = some s := if_pos rfl

theorem stood_of_ne (h : other ≠ ticket) : x.stood ticket s other = x.standing? other := if_neg h

/-- A call stands as it was left, or another as it did. -/
theorem stood_cases {s' : Standing} (h : x.stood ticket s other = some s') :
    other = ticket ∧ s = s' ∨ other ≠ ticket ∧ x.standing? other = some s' := by
  by_cases hsame : other = ticket
  · rw [hsame, stood_self] at h
    exact .inl ⟨hsame, Option.some.inj h⟩
  · exact .inr ⟨hsame, (stood_of_ne hsame).symm.trans h⟩

end Stood

/-- No call is under way. -/
def Idle (x : Floor) : Prop := ∀ ticket s, x.standing? ticket = some s → s.isRunning = false

/-- **All that can happen on a lane with one caller.** -/
inductive Step (g : Geometry) (x : Floor) : Floor → Prop
  /-- Nothing does. -/
  | still : Step g x x
  /-- The caller issues a request. -/
  | issue (buffer : Bytes) (idle : x.Idle)
      (free : x.exchange.request.isOutstanding = false)
      (kept : x.exchange.role = .reader → x.exchange.request.holdsElement = false) :
      Step g x { x with exchange := x.exchange.accepting none buffer }
  /-- The caller collects a result. -/
  | take (result : Transfer) (idle : x.Idle) (h : x.exchange.request = .finished result) :
      Step g x { x with exchange := x.exchange.collecting none result }
  /-- The caller starts a blocking call. -/
  | start (ticket : Nat) (element : Bytes) (idle : x.Idle) (new : x.standing? ticket = none)
      (silent : deedsOf ticket x.exchange.record = []) :
      Step g x { x with
        exchange := x.exchange.noting (.began ticket element)
        standing? := x.stood ticket (.owing element) }
  /-- A blocking call issues a request. -/
  | issueFor (ticket : Nat) (buffer : Bytes) (owes : x.standing? ticket = some (.owing buffer))
      (free : x.exchange.request.isOutstanding = false)
      (kept : x.exchange.role = .reader → x.exchange.request.holdsElement = false) :
      Step g x { x with
        exchange := x.exchange.accepting (some ticket) buffer
        standing? := x.stood ticket .waiting }
  /-- A blocking call collects a result. -/
  | takeFor (ticket : Nat) (result : Transfer) (waits : x.standing? ticket = some .waiting)
      (h : x.exchange.request = .finished result) :
      Step g x { x with
        exchange := x.exchange.collecting (some ticket) result
        standing? := x.stood ticket (Call.standingAfter result) }
  /-- A blocking call fails. -/
  | fail (ticket : Nat) (e : ChannelError) (s : Standing) (stands : x.standing? ticket = some s)
      (running : s.isRunning = true) :
      Step g x { x with
        exchange := x.exchange.noting (.returned ticket (.error e))
        standing? := x.stood ticket (.ended (.error e)) }
  /-- The worker picks a request up. -/
  | pickUp (buffer : Bytes) (h : x.exchange.request = .pending buffer)
      (free : x.exchange.hand = .free) :
      Step g x { x with
        exchange := { x.exchange with request := .servicing, hand := .carrying buffer } }
  /-- The worker is at the ring. -/
  | serve (buffer : Bytes) (h : x.exchange.hand = .carrying buffer) (attempt : Attempt)
      (after : Bytes) (ring : Object)
      (served : Ring.serve x.exchange.role g buffer x.ring = (attempt, after, ring)) :
      Step g x { x with exchange := x.exchange.serving buffer attempt after, ring }
  /-- The worker hands a result back. -/
  | publish (result : Transfer) (h : x.exchange.hand = .returning result) :
      Step g x { x with
        exchange := { x.exchange with request := .finished result, hand := .free } }

variable {g : Geometry} {x y : Floor}

/-- At the ring a writer's buffer stays as it is. -/
theorem after_of_writer {buffer after : Bytes} {attempt : Attempt} {ring : Object}
    (hrole : x.exchange.role = .writer)
    (served : Ring.serve x.exchange.role g buffer x.ring = (attempt, after, ring)) :
    after = buffer := by
  rw [hrole] at served
  exact (congrArg (·.2.1) served).symm.trans (Course.serve_of_writer ..)

/-- **To the exchange it is one of its steps.** -/
theorem Step.exchange (h : x.Step g y) : x.exchange.Step y.exchange := by
  cases h with
  | still => exact .refl _
  | issue buffer idle free kept => exact .accept none buffer free kept
  | take result idle h => exact .collect none result h
  | start ticket element idle new silent => exact .aside [_] (by simp [Exchange.Aside])
  | issueFor ticket buffer owes free kept => exact .accept _ buffer free kept
  | takeFor ticket result waits h => exact .collect _ result h
  | fail ticket e s stands running => exact .aside [_] (by simp [Exchange.Aside])
  | pickUp buffer h free => exact .pickUp buffer h free
  | serve buffer h attempt after ring served =>
    exact .serve buffer attempt after h fun hrole => after_of_writer hrole served
  | publish result h => exact .publish result h

/-- **Only the worker at the ring serves a request, and only it changes the
ring.** -/
theorem Step.served_cases (h : x.Step g y) :
    (y.ring = x.ring ∧ x.exchange.Quiet y.exchange) ∨
      ∃ buffer attempt after, x.exchange.hand = .carrying buffer ∧
        Ring.serve x.exchange.role g buffer x.ring = (attempt, after, y.ring) ∧
        y.exchange.record =
          x.exchange.record ++ [.served x.exchange.requester buffer attempt after] := by
  cases h with
  | still => exact .inl ⟨rfl, Exchange.quiet_of_record_eq rfl⟩
  | issue buffer idle free kept => exact .inl ⟨rfl, Exchange.quiet_accepting⟩
  | take result idle h => exact .inl ⟨rfl, Exchange.quiet_collecting⟩
  | start ticket element idle new silent => exact .inl ⟨rfl, Exchange.quiet_noting rfl⟩
  | issueFor ticket buffer owes free kept => exact .inl ⟨rfl, Exchange.quiet_accepting⟩
  | takeFor ticket result waits h => exact .inl ⟨rfl, Exchange.quiet_collecting⟩
  | fail ticket e s stands running => exact .inl ⟨rfl, Exchange.quiet_noting rfl⟩
  | pickUp buffer h free => exact .inl ⟨rfl, Exchange.quiet_of_record_eq rfl⟩
  | serve buffer h attempt after ring served =>
    exact .inr ⟨buffer, attempt, after, h, served, rfl⟩
  | publish result h => exact .inl ⟨rfl, Exchange.quiet_of_record_eq rfl⟩

end Floor

/-! ## Turns as steps of the floor -/

namespace Course

variable {c c' : Course} {ticket : Nat} {k : Call}

def floor (c : Course) : Floor := ⟨c.exchange, c.standing?, c.lane.view.object c.store⟩

theorem floor_eq {x : Exchange} {standing? : Nat → Option Standing} {ring : Object}
    (hexchange : c.exchange = x) (hstanding : ∀ ticket, c.standing? ticket = standing? ticket)
    (hring : c.lane.view.object c.store = ring) : c.floor = ⟨x, standing?, ring⟩ := by
  rw [floor, hexchange, hring, funext hstanding]

/-- Where nothing is done to slot, hand, calls and ring, the floor is still. -/
theorem floor_still {g : Geometry} (hexchange : c'.exchange = c.exchange)
    (hstanding : ∀ ticket, c'.standing? ticket = c.standing? ticket)
    (hring : c'.lane.view.object c'.store = c.lane.view.object c.store) :
    c.floor.Step g c'.floor := by
  rw [floor_eq hexchange hstanding hring]
  exact .still

theorem view_turn (c : Course) (t : Turn) : (c.turn t).lane.view = c.lane.view := by
  cases t with
  | spawn =>
    rcases c.turn_spawn with ⟨-, hturn⟩ | ⟨-, hturn⟩ <;> rw [hturn]
    rfl
  | call ticket => simp only [turn]; split <;> rfl
  | worker =>
    simp only [turn, moved, Lane.workerStep]
    split <;> rfl
  | _ => rfl

theorem idle_of_not_busy (h : c.isBusy = false) : c.floor.Idle := by
  intro ticket s hs
  obtain ⟨k, hk, rfl⟩ := Option.map_eq_some_iff.1 hs
  have hmem : k ∈ c.lane.handshake.calls := List.mem_of_find?_eq_some hk
  have hreturned := List.any_eq_false.1 h k hmem
  refine Bool.eq_false_iff.2 fun hrunning => hreturned ?_
  rw [Call.result?_of_running (Standing.isRunning_iff.1 hrunning)]
  rfl

/-- The call that moved stands as its step left it; the others stand as
they did. -/
theorem stood_call (hk : c.call? ticket = some k) (other : Nat) :
    (c.turn (.call ticket)).standing? other =
      c.floor.stood ticket (k.step c.direction).2.standing other := by
  by_cases hsame : other = ticket
  · rw [hsame, Floor.stood_self]
    exact standing?_call hk
  · rw [Floor.stood_of_ne hsame]
    refine standing?_of_calls (calls_call hk) (ticket_changed hk) fun k' hk' => ?_
    rw [if_neg fun h => hsame (hk'.symm.trans h)]

/-- **The step of a call on the floor.** -/
theorem floor_call (hk : c.call? ticket = some k) :
    c.floor.Step c.lane.view.geometry (c.turn (.call ticket)).floor := by
  have hstands : c.standing? ticket = some k.standing := by rw [standing?, hk]; rfl
  have hring : (c.turn (.call ticket)).lane.view.object (c.turn (.call ticket)).store =
      c.lane.view.object c.store := by
    rw [view_turn, turn_call hk]
    rfl
  rw [floor_eq (exchange_call hk) (stood_call hk) hring]
  have hticket := ticket_of_call? hk
  have hmove := k.moves c.direction c.requester
  -- the move is split by its own indices, so the terms they stand for give way to names
  generalize (k.step c.direction).1 = d at hmove ⊢
  generalize (k.step c.direction).2.standing = s at hmove ⊢
  generalize callDeeds c.direction c.requester k = done at hmove ⊢
  cases hmove with
  | accepted buffer owes free kept =>
    rw [hticket]
    exact .issueFor ticket buffer (hstands.trans (congrArg some owes)) free kept
  | collected t waits hfinished =>
    rw [hticket]
    exact .takeFor ticket t (hstands.trans (congrArg some waits)) hfinished
  | failed e running =>
    rw [hticket]
    exact .fail ticket e k.standing hstands (Standing.isRunning_iff.2 running)
  | still =>
    have hsame : c.floor.stood ticket k.standing = c.standing? := by
      funext other
      by_cases h : other = ticket
      · rw [h, Floor.stood_self, hstands]
      · rw [Floor.stood_of_ne h]
        rfl
    rw [hsame, List.append_nil]
    exact .still

/-- The worker's step does not change how calls stand. -/
theorem standing?_worker (c : Course) (ticket : Nat) :
    (c.turn .worker).standing? ticket = c.standing? ticket := by
  rcases (calls_workerStep c.lane c.store).2 with h | h
  · exact standing?_of_calls (f := id) (by rw [List.map_id]; exact h) (fun _ => rfl)
      fun _ _ => rfl
  · exact standing?_of_calls h Call.ticket_noticed fun k _ => k.standing_noticed

/-- **The step of the worker on the floor.** The ring is where it changes,
and the object of the ring, if that is there, is changed so. -/
theorem floor_worker_ring (c : Course) : ∃ ring,
    c.floor.Step c.lane.view.geometry { (c.turn .worker).floor with ring } ∧
      (c.lane.view.handle.object < c.store.objects.size →
        (c.turn .worker).floor.ring = ring) := by
  by_cases hserving : ∃ buffer, c.worker = some (.serving buffer)
  · obtain ⟨buffer, hserving⟩ := hserving
    rcases hserved : Ring.serve c.direction.role c.lane.view.geometry buffer
      (c.lane.view.object c.store) with ⟨attempt, after, ring⟩
    have hw : c.lane.handshake.worker = some (.serving buffer) := hserving
    have hstore : (c.turn .worker).store =
        c.store.setObject c.lane.view.handle.object ring := by
      have hrole : c.lane.role = c.direction.role := rfl
      have hobject : c.store.object c.lane.view.handle.object = c.lane.view.object c.store := rfl
      simp only [turn, moved, Lane.workerStep, hw, Store.updateObject_eq, hrole, hobject, hserved]
    have hexchange := exchange_worker_of_serving hserving
    rw [hserved] at hexchange
    refine ⟨ring, ?_, fun live => ?_⟩
    · rw [floor_eq hexchange c.standing?_worker rfl]
      exact .serve buffer (by rw [floor, exchange, hserving]; rfl) attempt after ring hserved
    · rw [floor, view_turn, hstore]
      exact Store.object_setObject_self live
  · have hnot : ∀ buffer, c.worker ≠ some (.serving buffer) := fun buffer h =>
      hserving ⟨buffer, h⟩
    have hstore : (c.turn .worker).store = c.store := by
      simp only [turn, moved, Lane.workerStep]
      split
      · exact absurd (by assumption) (hnot _)
      · rfl
      · rfl
    refine ⟨c.floor.ring, ?_, fun _ => by rw [floor, view_turn, hstore]; rfl⟩
    rcases c.exchange_worker_cases hnot with
      ⟨buffer, hpending, hfree, hnext⟩ | ⟨t, hreturning, hnext⟩ | hsame
    · rw [floor_eq hnext c.standing?_worker rfl]
      exact .pickUp buffer hpending hfree
    · rw [floor_eq hnext c.standing?_worker rfl]
      exact .publish t hreturning
    · rw [floor_eq hsame c.standing?_worker rfl]
      exact .still

theorem floor_worker (c : Course) (live : c.lane.view.handle.object < c.store.objects.size) :
    c.floor.Step c.lane.view.geometry (c.turn .worker).floor := by
  obtain ⟨ring, hstep, hring⟩ := c.floor_worker_ring
  rw [← hring live] at hstep
  exact hstep

/-- A turn that only an idle caller takes is taken by one. -/
theorem soleTurn_of_guarded {t : Turn} (guarded : c.soleTurn t = if c.isBusy then c else c.turn t) :
    c.soleTurn t = c ∨ c.floor.Idle ∧ c.soleTurn t = c.turn t := by
  cases hbusy : c.isBusy with
  | true => exact .inl (by rw [guarded, hbusy, if_pos rfl])
  | false =>
    refine .inr ⟨idle_of_not_busy hbusy, ?_⟩
    rw [guarded, hbusy, if_neg Bool.false_ne_true]

theorem floor_submit (idle : c.floor.Idle) (buffer : Bytes) :
    c.floor.Step c.lane.view.geometry (c.turn (.submit buffer)).floor := by
  have hcalls : (c.turn (.submit buffer)).lane.handshake.calls = c.lane.handshake.calls := by
    simp only [turn, moved, Lane.onHandshake, Handshake.submit]
    split <;> rfl
  have hstanding : ∀ ticket, (c.turn (.submit buffer)).standing? ticket = c.standing? ticket :=
    fun ticket => by rw [standing?, standing?, call?, call?, hcalls]
  rcases c.exchange_submit_cases buffer with hsame | ⟨hfree, hkept, haccepted⟩
  · exact floor_still hsame hstanding rfl
  · rw [floor_eq haccepted hstanding rfl]
    exact .issue buffer idle hfree hkept

theorem floor_collect (idle : c.floor.Idle) :
    c.floor.Step c.lane.view.geometry (c.turn .collect).floor := by
  rcases c.exchange_collect_cases with hsame | ⟨result, hfinished, hcollected⟩
  · exact floor_still hsame (fun _ => rfl) rfl
  · rw [floor_eq hcollected (fun _ => rfl) rfl]
    exact .take result idle hfinished

theorem floor_begin (h : c.Accounted) (idle : c.floor.Idle) (element : Bytes)
    (policy : RetryPolicy) :
    c.floor.Step c.lane.view.geometry (c.turn (.begin element policy)).floor := by
  have hnew := h.fresh c.nextTicket (Nat.le_refl _)
  have hexchange : (c.turn (.begin element policy)).exchange =
      c.exchange.noting (.began c.nextTicket element) := rfl
  rw [floor_eq hexchange (standing?_begin (call?_of_standing? hnew) element policy) rfl]
  exact .start c.nextTicket element idle hnew (h.absent _ hnew)

theorem floor_spawn (c : Course) :
    c.floor.Step c.lane.view.geometry (c.turn .spawn).floor := by
  refine floor_still c.exchange_spawn (fun ticket => ?_) ?_ <;>
    rcases c.turn_spawn with ⟨-, hturn⟩ | ⟨-, hturn⟩ <;> rw [hturn] <;> rfl

/-- The worker's step apart, no turn looks at the ring. -/
theorem floor_soleTurn_of_ne (h : c.Accounted) {t : Turn} (hworker : t ≠ .worker) :
    c.floor.Step c.lane.view.geometry (c.soleTurn t).floor := by
  cases t with
  | others s => exact .still
  | worker => exact absurd rfl hworker
  | spawn => exact c.floor_spawn
  | call ticket =>
    cases hk : c.call? ticket with
    | none =>
      have hturn : c.soleTurn (.call ticket) = c := by simp only [soleTurn, turn, hk]
      rw [hturn]
      exact .still
    | some k => exact floor_call hk
  | shutDown =>
    exact floor_still (exchange_of_eq rfl rfl (handOf_map_noticed _) rfl rfl)
      (fun _ => standing?_of_calls rfl Call.ticket_noticed fun k _ => k.standing_noticed) rfl
  | rouse roused =>
    refine floor_still rfl (fun _ => standing?_of_calls rfl (fun k => ?_) fun k _ => ?_) rfl
    · split
      · exact k.ticket_noticed
      · rfl
    · split
      · exact k.standing_noticed
      · rfl
  | rouseWorker =>
    exact floor_still (exchange_of_eq rfl rfl (handOf_map_noticed _) rfl rfl) (fun _ => rfl) rfl
  | submit buffer =>
    rcases soleTurn_of_guarded (t := .submit buffer) rfl with hturn | ⟨idle, hturn⟩ <;> rw [hturn]
    · exact .still
    · exact floor_submit idle buffer
  | collect =>
    rcases soleTurn_of_guarded (t := .collect) rfl with hturn | ⟨idle, hturn⟩ <;> rw [hturn]
    · exact .still
    · exact floor_collect idle
  | begin element policy =>
    rcases soleTurn_of_guarded (t := .begin element policy) rfl with hturn | ⟨idle, hturn⟩ <;>
      rw [hturn]
    · exact .still
    · exact floor_begin h idle element policy

/-- **Every turn of a lane with one caller is a step of the floor.** -/
theorem floor_soleTurn (h : c.Accounted) (live : c.lane.view.handle.object < c.store.objects.size)
    (t : Turn) : c.floor.Step c.lane.view.geometry (c.soleTurn t).floor := by
  by_cases hworker : t = .worker
  · rw [hworker]
    exact c.floor_worker live
  · exact floor_soleTurn_of_ne h hworker

end Course

end TwinRing
