import TwinRing.Proofs.Direction.Retiring
import TwinRing.Proofs.Direction.Sender
/-!
# Lanes under way — what a call that fails has put in

A blocking push of a writer's one caller fails for a slot that is not free,
for a buffer of the wrong length, or for the shutdown. Others may change
the ring at any moment and anybody may shut the lane down. In nearly every
case nothing was put in for the call, and nothing ever will be: either no
request of its is on its way (`unserved`), or the lane is shut down with
the worker not on its way to the ring, and then no request is picked up any
more (`Lane.Retiring`). Either state is kept by every later turn.

One case is left. A call that waits looks at the slot first and then at the
shutdown, and does not wait for the worker to come back from the ring. If
the worker has its request in hand at that moment, the element is in the
ring already or is put in later, though the call has failed.
-/

namespace TwinRing

namespace Floor

variable {g : Geometry} {x y : Floor} {ticket : Nat} {r : Except ChannelError Bytes}

/-- **A call that has returned stays so.** -/
theorem Step.ended (hstep : x.Step g y) (h : x.standing? ticket = some (.ended r)) :
    y.standing? ticket = some (.ended r) := by
  -- whoever moves stands in another way, so it is another call
  have other : ∀ {acting s s'}, x.standing? acting = some s → (∀ r, s ≠ .ended r) →
      x.stood acting s' ticket = some (.ended r) := fun {acting _ _} hacting hrunning => by
    rw [stood_of_ne, h]
    rintro rfl
    exact hrunning r (Option.some.inj (hacting.symm.trans h))
  cases hstep with
  | start acting element idle new silent =>
    refine (stood_of_ne ?_).trans h
    rintro rfl
    rw [new] at h
    cases h
  | issueFor acting buffer owes free kept => exact other owes fun _ => Standing.noConfusion
  | takeFor acting result waits hfinished => exact other waits fun _ => Standing.noConfusion
  | fail acting e s stands running => exact other stands (Standing.isRunning_iff.1 running)
  | _ => exact h

/-- **Nothing is on its way for a call that has returned**, and nothing is
put in for it. -/
theorem Step.unserved_of_ended (hstep : x.Step g y) (hended : x.standing? ticket = some (.ended r))
    (hnone : x.unserved ticket = []) :
    y.unserved ticket = [] ∧ y.successes ticket = x.successes ticket := by
  cases hstep with
  | still => exact ⟨hnone, rfl⟩
  | issue buffer idle free kept =>
    exact ⟨if_neg (Option.some_ne_none ticket).symm, Exchange.quiet_accepting.successes ticket⟩
  | take result idle hfinished =>
    exact ⟨(unserved_collecting hfinished).trans hnone,
      Exchange.quiet_collecting.successes ticket⟩
  | start acting element idle new silent =>
    exact ⟨hnone, (Exchange.quiet_noting rfl).successes ticket⟩
  | issueFor acting buffer owes free kept =>
    refine ⟨if_neg fun hsame => ?_, Exchange.quiet_accepting.successes ticket⟩
    rw [Option.some.inj hsame, hended] at owes
    cases owes
  | takeFor acting result waits hfinished =>
    exact ⟨(unserved_collecting hfinished).trans hnone,
      Exchange.quiet_collecting.successes ticket⟩
  | fail acting e s stands running => exact ⟨hnone, (Exchange.quiet_noting rfl).successes ticket⟩
  | pickUp buffer hpending free =>
    refine ⟨Eq.trans ?_ hnone, rfl⟩
    simp only [unserved, hpending, free, Hand.carried, Request.waiting, List.append_nil,
      List.nil_append]
  | serve buffer hcarrying attempt after ring served =>
    -- what the worker has in hand is another's
    have hother : x.exchange.requester ≠ some ticket := fun hown => by
      rw [unserved, if_pos hown, hcarrying] at hnone
      cases hnone
    have hserved : [Deed.served x.exchange.requester buffer attempt after].filterMap
        (Deed.success? ticket) = [] := by simp [Deed.success?, hother]
    refine ⟨if_neg hother, ?_⟩
    rw [successes, Exchange.serving, List.filterMap_append, hserved, List.append_nil]
    rfl
  | publish result hreturning =>
    refine ⟨?_, rfl⟩
    rw [unserved, Hand.carried, Request.waiting, List.append_nil, ite_self]

/-- **A call that is to issue its buffer has nothing on its way.** -/
theorem Alone.unserved_of_owing (h : x.Alone) {buffer : Bytes}
    (howes : x.standing? ticket = some (.owing buffer)) : x.unserved ticket = [] := by
  rw [unserved]
  by_cases hown : x.exchange.requester = some ticket
  · rw [if_pos hown]
    have hslot := h.traced.slot
    have hhand := h.traced.hand
    rw [hown] at hslot hhand
    have hfree : ∀ b, .accepted (some ticket) b ∈ x.exchange.record →
        x.exchange.request = .empty ∧ x.exchange.hand = .free := fun b hb =>
      h.between ticket buffer howes ⟨b, hb⟩
    have hcarried : x.exchange.hand.carried = [] := by
      cases hw : x.exchange.hand with
      | carrying b =>
        have hnone := (hfree b (hhand b (by rw [hw]; rfl))).2
        rw [hw] at hnone
        cases hnone
      | free => rfl
      | returning result => rfl
    have hwaiting : x.exchange.request.waiting = [] := by
      cases hr : x.exchange.request with
      | pending b =>
        have hnone := (hfree b (hslot b (by rw [hr]; rfl))).1
        rw [hr] at hnone
        cases hnone
      | empty => rfl
      | servicing => rfl
      | finished result => rfl
    rw [hcarried, hwaiting, List.append_nil]
  · exact if_neg hown

end Floor

/-- **A call that waits fails for the shutdown only**, and only where the
slot holds no result. -/
theorem Call.failed_of_waiting {d : Direction} {k : Call} {e : ChannelError}
    (hwaits : k.standing = .waiting) (hfails : (k.step d).2.standing = .ended (.error e)) :
    e = .closed ∧ d.exit = true ∧ ∀ t, d.request ≠ .finished t := by
  obtain ⟨ticket, retrier, phase⟩ := k
  cases phase with
  | checking =>
    cases d.takeFinished_cases with
    | inl taken =>
      obtain ⟨t, -, htake⟩ := taken
      simp only [step, htake, standing_collected] at hfails
      unfold standingAfter at hfails
      split at hfails <;> cases hfails
    | inr hnone =>
      refine (?_ : e = .closed ∧ d.exit = true).imp_right fun hexit => ⟨hexit, fun t ht => ?_⟩
      · simp only [step, hnone] at hfails
        cases hexit : d.exit with
        | true =>
          rw [hexit] at hfails
          cases hfails
          exact ⟨rfl, rfl⟩
        | false =>
          rw [hexit] at hfails
          cases hfails
      · rw [Direction.takeFinished, ht] at hnone
        cases hnone
  | calling => cases hfails
  | asleep => cases hfails
  | submitting buffer => cases hwaits
  | pausing buffer delay => cases hwaits
  | napping buffer delay => cases hwaits
  | roused buffer => cases hwaits
  | returned result => cases hwaits

namespace Course

variable {c : Course} {ticket : Nat}

/-! ## One caller among others -/

/-- **A turn of a lane with one caller**, or of others who change the store. -/
def loneTurn (c : Course) (t : Turn) : Course :=
  match t with
  | .others s => c.turn (.others s)
  | _ => c.soleTurn t

def runLone (c : Course) (turns : List Turn) : Course := turns.foldl loneTurn c

/-- Either others have changed the store, or it is a turn of the lane. -/
theorem loneTurn_eq (c : Course) (t : Turn) :
    (∃ s, t = .others s ∧ c.loneTurn t = c.turn t) ∨ c.loneTurn t = c.soleTurn t := by
  cases t with
  | others s => exact .inl ⟨s, rfl, rfl⟩
  | _ => exact .inr rfl

/-- It is a turn like any other, or none. -/
theorem loneTurn_cases (c : Course) (t : Turn) : c.loneTurn t = c ∨ c.loneTurn t = c.turn t := by
  rcases c.loneTurn_eq t with ⟨-, -, heq⟩ | heq
  · exact .inr heq
  · rw [heq]
    exact c.soleTurn_cases t

/-- **Whatever others do to the store**, a turn is a step of the floor, the
object of the ring apart. -/
theorem floor_loneTurn (h : c.Accounted) (t : Turn) : ∃ ring,
    c.floor.Step c.lane.view.geometry { (c.loneTurn t).floor with ring } := by
  rcases c.loneTurn_eq t with ⟨s, rfl, heq⟩ | heq
  · exact ⟨c.floor.ring, .still⟩
  · rw [heq]
    by_cases hworker : t = .worker
    · obtain ⟨ring, hstep, -⟩ := c.floor_worker_ring
      rw [hworker]
      exact ⟨ring, hstep⟩
    · exact ⟨_, floor_soleTurn_of_ne h hworker⟩

/-- What every turn keeps that a lane takes, or does not take. -/
theorem runLone_induction {P : Course → Prop} (turns : List Turn) (init : P c)
    (step : ∀ c t, P c → P (c.loneTurn t)) : P (c.runLone turns) := by
  induction turns generalizing c with
  | nil => exact init
  | cons t rest ih => exact ih (step c t init)

/-- **A lane with one caller**, with accounts and record in order. -/
structure Lone (c : Course) : Prop where
  accounted : c.Accounted
  sender : c.floor.Sender

theorem Lone.loneTurn (h : c.Lone) (t : Turn) : (c.loneTurn t).Lone := by
  refine ⟨?_, ?_⟩
  · rcases c.loneTurn_cases t with heq | heq <;> rw [heq]
    · exact h.accounted
    · exact h.accounted.turn t
  · obtain ⟨ring, hstep⟩ := floor_loneTurn h.accounted t
    exact (h.sender.step hstep).of_ring

theorem lone_start (view : View) (elementSize : UInt64) (s : Store) :
    (start view .writer elementSize s).Lone :=
  ⟨accounted_run view .writer elementSize s [], Floor.sender_of_new rfl fun _ => rfl⟩

theorem lone_runLone (h : c.Lone) (turns : List Turn) : (c.runLone turns).Lone :=
  runLone_induction turns h fun _ t h => h.loneTurn t

/-! ## When nothing more is put in -/

/-- **Every turn leaves a lane shut down**, and its worker away from the
ring. -/
theorem retiring_turn (h : c.lane.Retiring) (t : Turn) : (c.turn t).lane.Retiring := by
  cases t with
  | spawn =>
    rcases c.turn_spawn with ⟨-, hturn⟩ | ⟨-, hturn⟩ <;> rw [hturn]
    · exact ⟨h.exit, fun buffer => by rintro ⟨⟩⟩
    · exact h
  | submit buffer =>
    have hclosed : ∃ e, c.lane.handshake.direction.submit buffer =
        (.error e, c.lane.handshake.direction) := by
      rcases c.lane.handshake.direction.submit_cases buffer with hrefused | ⟨-, hopen, -⟩
      · exact hrefused
      · exact absurd (hopen.symm.trans h.exit) Bool.noConfusion
    obtain ⟨e, he⟩ := hclosed
    have hlane : (c.turn (.submit buffer)).lane = c.lane := by
      simp only [turn, moved, Lane.onHandshake, Handshake.submit, he]
    rw [hlane]
    exact h
  | collect =>
    refine ⟨?_, h.idle⟩
    have hexit : (c.direction.takeFinished.2).exit = c.direction.exit := by
      rcases c.direction.takeFinished_cases with ⟨t, -, ht⟩ | hnone
      · rw [ht]
      · rw [hnone]
    exact hexit.trans h.exit
  | shutDown => exact Lane.retiring_signalExit h.idle
  | begin element policy => exact ⟨h.exit, h.idle⟩
  | call ticket =>
    cases hk : c.call? ticket with
    | none =>
      have hturn : c.turn (.call ticket) = c := by simp only [turn, hk]
      rw [hturn]
      exact h
    | some k =>
      rw [turn_call hk]
      exact h.callStep ticket
  | rouse ticket => exact ⟨h.exit, h.idle⟩
  | worker => exact h.workerStep c.store
  | rouseWorker => exact ⟨h.exit, Lane.idle_of_noticed h.idle rfl⟩
  | others s => exact h

/-- **Nothing more is put in for a call**: it has returned with nothing of
its on the way, or the lane is shut down with the worker away from the
ring. -/
def Spent (c : Course) (ticket : Nat) : Prop :=
  (∃ r, c.standing? ticket = some (.ended r)) ∧ c.floor.unserved ticket = [] ∨ c.lane.Retiring

/-- **It stays so**, and nothing is put in. -/
theorem Spent.loneTurn (hlone : c.Lone) (h : c.Spent ticket) (t : Turn) :
    (c.loneTurn t).Spent ticket ∧ (c.loneTurn t).successes ticket = c.successes ticket := by
  obtain ⟨ring, hstep⟩ := floor_loneTurn hlone.accounted t
  rcases h with ⟨⟨r, hended⟩, hnone⟩ | hretiring
  · obtain ⟨hunserved, hsuccesses⟩ := hstep.unserved_of_ended hended hnone
    exact ⟨.inl ⟨⟨r, hstep.ended hended⟩, hunserved⟩, hsuccesses⟩
  · refine ⟨.inr ?_, ?_⟩
    · rcases c.loneTurn_cases t with heq | heq <;> rw [heq]
      · exact hretiring
      · exact retiring_turn hretiring t
    · rcases hstep.served_cases with ⟨-, hquiet⟩ | ⟨buffer, -, -, hcarrying, -⟩
      · exact hquiet.successes ticket
      · -- a hand that carries a buffer is that of a worker on its way to the ring
        have hcarrying : handOf c.worker = .carrying buffer := hcarrying
        cases hw : c.worker with
        | none => rw [hw] at hcarrying; cases hcarrying
        | some w =>
          rw [hw] at hcarrying
          cases w with
          | serving b => exact absurd hw (hretiring.idle b)
          | _ => cases hcarrying

theorem Spent.runLone (hlone : c.Lone) (h : c.Spent ticket) (turns : List Turn) :
    (c.runLone turns).successes ticket = c.successes ticket := by
  have hrun := runLone_induction (P := fun c' => c'.Lone ∧ c'.Spent ticket ∧
      c'.successes ticket = c.successes ticket) turns ⟨hlone, h, rfl⟩
    fun c' t ⟨hlone', hspent, hsame⟩ =>
      ⟨hlone'.loneTurn t, (hspent.loneTurn hlone' t).1, (hspent.loneTurn hlone' t).2.trans hsame⟩
  exact hrun.2.2

/-! ## The turn at which a call fails -/

/-- **A call that fails changes nothing else.** It was under way, and the
slot, the hand of the worker and the ring are as they were. -/
theorem floor_of_fails {e : ChannelError} (hbefore : c.result? ticket = none)
    (hfails : (c.turn (.call ticket)).result? ticket = some (.error e)) :
    ∃ k, c.call? ticket = some k ∧ (k.step c.direction).2.standing = .ended (.error e) ∧
      k.standing.isRunning = true ∧
      (c.turn (.call ticket)).floor =
        { c.floor with
          exchange := c.exchange.noting (.returned ticket (.error e))
          standing? := c.floor.stood ticket (.ended (.error e)) } := by
  rw [result?_eq_some_iff] at hfails
  cases hk : c.call? ticket with
  | none =>
    have hturn : c.turn (.call ticket) = c := by simp only [turn, hk]
    rw [hturn, standing?, hk] at hfails
    cases hfails
  | some k =>
    have hrunning : k.standing ≠ .ended (.error e) := fun h => by
      rw [result?_eq_some_iff.2 (by rw [standing?, hk, Option.map_some, h])] at hbefore
      cases hbefore
    have hexchange := exchange_call hk
    have hstood := stood_call hk
    have hmove := k.moves c.direction c.requester
    rw [standing?_call hk] at hfails
    have hended := Option.some.inj hfails
    have hring : (c.turn (.call ticket)).lane.view.object (c.turn (.call ticket)).store =
        c.lane.view.object c.store := by
      rw [view_turn, turn_call hk]
      rfl
    refine ⟨k, rfl, hended, ?_⟩
    rw [hended] at hstood hmove
    rw [floor_eq hexchange hstood hring]
    rw [← ticket_of_call? hk] at hstood ⊢
    generalize (k.step c.direction).1 = d at hmove ⊢
    generalize callDeeds c.direction c.requester k = done at hmove ⊢
    -- of the four moves only one can end in failure
    generalize hs : Standing.ended (.error e) = s at hmove
    cases hmove with
    | accepted buffer owes free kept => cases hs
    | collected t waits hfinished =>
      unfold Call.standingAfter at hs
      split at hs <;> cases hs
    | failed e' running =>
      cases hs
      exact ⟨Standing.isRunning_iff.2 running, rfl⟩
    | still => exact absurd hs.symm hrunning

/-- **After a failure nothing was put in and nothing will be**, but in one
case: the call has waited, the lane is shut down, and the worker has the
call's request in hand. -/
theorem spent_of_fails {e : ChannelError} (hlone : c.Lone) (hbefore : c.result? ticket = none)
    (hfails : (c.turn (.call ticket)).result? ticket = some (.error e)) :
    ((c.turn (.call ticket)).Spent ticket ∧ (c.turn (.call ticket)).successes ticket = []) ∨
      e = .closed ∧ c.direction.exit = true ∧ c.requester = some ticket ∧
        c.direction.request = .servicing := by
  obtain ⟨k, hk, hended, hrunning, hfloor⟩ := floor_of_fails hbefore hfails
  have hstands : c.floor.standing? ticket = some k.standing := by
    change c.standing? ticket = _
    rw [standing?, hk]
    rfl
  have hsame : (c.turn (.call ticket)).successes ticket = c.floor.successes ticket := by
    change (c.turn (.call ticket)).floor.successes ticket = _
    rw [hfloor]
    exact (Exchange.quiet_noting rfl).successes ticket
  have hafter : (c.turn (.call ticket)).standing? ticket = some (.ended (.error e)) :=
    result?_eq_some_iff.1 hfails
  cases hs : k.standing with
  | ended r => rw [hs] at hrunning; cases hrunning
  | owing buffer =>
    rw [hs] at hstands
    refine .inl ⟨.inl ⟨⟨_, hafter⟩, ?_⟩, ?_⟩
    · rw [hfloor]
      exact hlone.sender.alone.unserved_of_owing hstands
    · rw [hsame]
      exact hlone.sender.once.owing ticket buffer hstands
  | waiting =>
    rw [hs] at hstands
    obtain ⟨hclosed, hexit, hunfinished⟩ := Call.failed_of_waiting hs hended
    have hserviced := hlone.sender.alone.serviced
    by_cases hservicing : c.direction.request = .servicing
    · exact .inr ⟨hclosed, hexit, hlone.sender.alone.own ticket hstands, hservicing⟩
    · refine .inl ⟨.inr ?_, ?_⟩
      · -- the worker finds the shutdown before it finds the request
        have hfree : handOf c.worker = .free := hserviced.hand_eq_free hservicing
        have hidle : c.lane.Idle := fun buffer hw => by
          rw [show c.worker = some (.serving buffer) from hw] at hfree
          cases hfree
        rw [turn_call hk]
        exact Lane.Retiring.callStep ⟨hexit, hidle⟩ ticket
      · rw [hsame, hlone.sender.once.waiting ticket hstands, Exchange.onItsWay,
          hserviced.hand_eq_free hservicing]
        change Request.elements c.direction.request = []
        cases hrequest : c.direction.request with
        | finished t => exact absurd hrequest (hunfinished t)
        | empty => rfl
        | pending buffer => rfl
        | servicing => rfl

/-- **A push that has failed has not sent**, unless it was cut short while
the worker had its request. On a writer's lane with one caller, whatever
others do to the ring, whenever the lane is shut down, and in every order
of steps: if a blocking push fails, then its element was not put in for it
and never will be, unless it failed for the shutdown at a moment at which
the worker had picked its request up and not handed a result back. In that
one case its element is put in once at most. -/
theorem failed_push_has_not_sent (view : View) (elementSize : UInt64) (s : Store)
    (turns later : List Turn) {ticket : Nat} {element : Bytes} {e : ChannelError}
    (hbegan : .began ticket element ∈
      ((start view .writer elementSize s).runLone turns).record)
    (hbefore : ((start view .writer elementSize s).runLone turns).result? ticket = none)
    (hfails : (((start view .writer elementSize s).runLone turns).turn (.call ticket)).result?
      ticket = some (.error e)) :
    let c := (start view .writer elementSize s).runLone turns
    let final := (c.turn (.call ticket)).runLone later
    final.successes ticket = [] ∨
      (e = .closed ∧ c.direction.exit = true ∧ c.requester = some ticket ∧
          c.direction.request = .servicing) ∧
        (final.successes ticket).Sublist [element] := by
  intro c final
  have hlone : c.Lone := lone_runLone (lone_start view elementSize s) turns
  have hnext : (c.turn (.call ticket)).Lone := hlone.loneTurn (.call ticket)
  rcases spent_of_fails hlone hbefore hfails with ⟨hspent, hnone⟩ | hcaught
  · exact .inl ((hspent.runLone hnext later).trans hnone)
  · refine .inr ⟨hcaught, ((lone_runLone hnext later).sender.successes_eq ?_).1⟩
    -- what is on record stays there
    have hgrows : ∀ c' t, .began ticket element ∈ c'.record →
        .began ticket element ∈ (loneTurn c' t).record := fun c' t hmem => by
      rcases c'.loneTurn_cases t with heq | heq <;> rw [heq]
      · exact hmem
      · obtain ⟨more, hmore⟩ := (c'.step_turn t).record_grows
        have hrecord : (c'.turn t).record = c'.record ++ more := hmore
        rw [hrecord]
        exact List.mem_append_left _ hmem
    exact runLone_induction later (hgrows c (.call ticket) hbegan) hgrows

/-- A call issues the element ten, and the lane is shut down before the
worker has looked at it. -/
def unseenTurns : List Turn :=
  [.spawn, .begin [10] (.fixed ⟨1, 0⟩), .call 0, .call 0, .shutDown]

set_option maxRecDepth 4000 in
/-- The worker ends without it. -/
theorem failed_push_has_not_sent_unseen :
    let c := (start narrowView .writer 1 (narrowStore 0)).runLone unseenTurns
    .began 0 [10] ∈ c.record ∧ c.result? 0 = none ∧
      (c.turn (.call 0)).result? 0 = some (.error .closed) ∧
      c.direction.request = .pending [10] ∧
      ((c.turn (.call 0)).runLone [.worker, .worker]).successes 0 = [] := by
  intro c
  have hrecord : c.record = [.began 0 [10], .accepted (some 0) [10]] := by rfl
  have hbegan : .began 0 [10] ∈ c.record := by
    rw [hrecord]
    exact List.mem_cons_self
  have hbefore : c.result? 0 = none := by decide +kernel
  have hfails : (c.turn (.call 0)).result? 0 = some (.error .closed) := by rfl
  have hpending : c.direction.request = .pending [10] := by rfl
  have hsent := failed_push_has_not_sent narrowView 1 (narrowStore 0) unseenTurns
    [.worker, .worker] hbegan hbefore hfails
  refine ⟨hbegan, hbefore, hfails, hpending, hsent.resolve_right fun hcaught => ?_⟩
  have hservicing : c.direction.request = .servicing := hcaught.1.2.2.2
  rw [hpending] at hservicing
  cases hservicing

/-- A call issues the element ten and goes to sleep, the worker picks the
request up, and then the lane is shut down. -/
def caughtCourse : Course :=
  (start narrowView .writer 1 (narrowStore 0)).runLone
    [.spawn, .begin [10] (.fixed ⟨1, 0⟩), .call 0, .call 0, .call 0, .worker, .shutDown]

set_option maxRecDepth 4000 in
/-- **A push can fail and its element be put in.** The worker goes on to the
ring with what it has in hand. -/
theorem sends_though_closed :
    .began 0 [10] ∈ caughtCourse.record ∧ caughtCourse.result? 0 = none ∧
      (caughtCourse.turn (.call 0)).result? 0 = some (.error .closed) ∧
      ((caughtCourse.turn (.call 0)).runLone [.worker]).successes 0 = [[10]] := by
  have hrecord : caughtCourse.record = [.began 0 [10], .accepted (some 0) [10]] := by rfl
  have hbegan : .began 0 [10] ∈ caughtCourse.record := by
    rw [hrecord]
    exact List.mem_cons_self
  exact ⟨hbegan, by decide +kernel, by rfl, by decide +kernel⟩

end Course

end TwinRing
