import TwinRing.Proofs.Direction.Exchange
/-!
# Lanes under way — the slot, its flags, and the worker

A direction says three times over how its request stands: in the slot, in
the flag for the worker, and in the flag for the callers; and the worker
knows by its place whether it has the request in hand. `Agreed` says that
the four agree. A shutdown raises the worker's flag without a request, so
that flag is tied to the slot only until then, and afterwards it is the
worker's having left that is tied to the shutdown.

From the agreement it follows that the worker never looks in vain: when
its flag is up there is a request or a shutdown. And a result that a
caller has been told of is there until some caller touches the slot.
-/

namespace TwinRing

/-- Whether the worker has seen the shutdown. -/
def WorkerPhase.hasLeft : WorkerPhase → Bool
  | .leaving => true
  | .stopped => true
  | .looking => false
  | .asleep => false
  | .serving _ => false
  | .publishing _ => false
  | .announcing => false

/-- A notice does not bring the worker back, and sends it nowhere. -/
theorem WorkerPhase.hasLeft_noticed (w : WorkerPhase) : w.noticed.hasLeft = w.hasLeft := by
  cases w <;> rfl

/-- The worker's hand is full from its picking up to its handing back. -/
theorem handOf_ne_free_iff {w? : Option WorkerPhase} :
    handOf w? ≠ .free ↔
      (∃ buffer, w? = some (.serving buffer)) ∨ ∃ result, w? = some (.publishing result) := by
  cases w? with
  | none => simp [handOf]
  | some w => cases w <;> simp [handOf, WorkerPhase.hand]

/-- **Slot, flags and worker agree.** -/
structure Agreed (d : Direction) (w? : Option WorkerPhase) : Prop where
  /-- The callers' flag is up for a result that has crossed. -/
  complete_iff : d.complete = true ↔ ∃ buffer, d.request = .finished ⟨true, buffer⟩
  /-- Until the shutdown, the worker's flag is up for a request. -/
  ready_iff : d.exit = false → (d.ready = true ↔ ∃ buffer, d.request = .pending buffer)
  /-- The slot says so while the worker's hand is full. -/
  servicing_iff : d.request = .servicing ↔ handOf w? ≠ .free
  /-- The worker leaves for a shutdown only. -/
  left : ∀ w, w? = some w → w.hasLeft = true → d.exit = true

namespace Agreed

variable {d : Direction} {w? : Option WorkerPhase}

/-! ## What callers do -/

/-- A new direction agrees, with a worker that looks or with none. -/
theorem new (role : Role) (elementSize : UInt64) : Agreed { role, elementSize } none :=
  ⟨by simp, by simp, by simp [handOf], by simp⟩

/-- **A request that the slot takes.** -/
theorem accepted (h : Agreed d w?) (buffer : Bytes) (free : d.request.isOutstanding = false) :
    Agreed { d with request := .pending buffer, ready := true, complete := false } w? := by
  have hidle : d.request ≠ .servicing := fun hservicing => by
    rw [hservicing] at free
    exact Bool.noConfusion free
  refine ⟨by simp, fun _ => by simp, ?_, h.left⟩
  exact iff_of_false Request.noConfusion fun hhand => hidle (h.servicing_iff.2 hhand)

/-- **A result that is collected.** -/
theorem collected (h : Agreed d w?) {t : Transfer} (hfinished : d.request = .finished t) :
    Agreed { d with request := .empty, complete := false } w? := by
  refine ⟨by simp, fun hexit => ?_, ?_, h.left⟩
  · have hready := h.ready_iff hexit
    rw [hfinished] at hready
    simpa using hready
  · have hservicing := h.servicing_iff
    rw [hfinished] at hservicing
    simpa using hservicing

/-- **A shutdown**, after which the worker's flag means nothing. -/
theorem shutDown (h : Agreed d w?) : Agreed d.signalExit w? :=
  ⟨h.complete_iff, fun hexit => Bool.noConfusion hexit, h.servicing_iff, fun _ _ _ => rfl⟩

theorem noticed (h : Agreed d w?) : Agreed d (w?.map WorkerPhase.noticed) := by
  refine ⟨h.complete_iff, h.ready_iff, by rw [handOf_map_noticed]; exact h.servicing_iff,
    fun w hw hleft => ?_⟩
  obtain ⟨before, hbefore, rfl⟩ := Option.map_eq_some_iff.1 hw
  exact h.left before hbefore (before.hasLeft_noticed ▸ hleft)

/-! ## What the worker does -/

/-- **A worker that looks finds nothing, the shutdown, or a request**, and
its flag is down afterwards. -/
theorem pickUp_cases (h : Agreed d w?) :
    (d.ready = false ∧ d.pickUp = (.nothing, d)) ∨
      (d.exit = true ∧ d.pickUp = (.exit, { d with ready := false })) ∨
      ∃ buffer, d.request = .pending buffer ∧ d.exit = false ∧
        d.pickUp = (.request buffer, { d with ready := false, request := .servicing }) := by
  unfold Direction.pickUp
  cases hready : d.ready with
  | false => exact .inl ⟨rfl, rfl⟩
  | true =>
    cases hexit : d.exit with
    | true => exact .inr (.inl ⟨rfl, by rfl⟩)
    | false =>
      obtain ⟨buffer, hpending⟩ := (h.ready_iff hexit).1 hready
      exact .inr (.inr ⟨buffer, hpending, rfl, by rw [hpending]; rfl⟩)

/-- **It never looks in vain.** -/
theorem pickUp_ne_noRequest (h : Agreed d w?) : d.pickUp.1 ≠ .noRequest := by
  rcases h.pickUp_cases with ⟨-, hpick⟩ | ⟨-, hpick⟩ | ⟨buffer, -, -, hpick⟩ <;>
    rw [hpick] <;> exact Direction.Found.noConfusion

/-- A worker that goes from one place to another with its hand free. -/
theorem moved {w : WorkerPhase} (h : Agreed d w?) (hfree : handOf w? = .free)
    (hw : w.hand = .free) (hleft : w.hasLeft = true → d.exit = true) : Agreed d (some w) := by
  refine ⟨h.complete_iff, h.ready_iff, ?_, fun w' hw' hleft' => ?_⟩
  · have hservicing := h.servicing_iff
    rw [hfree] at hservicing
    rw [show handOf (some w) = .free from hw]
    exact hservicing
  · cases hw'
    exact hleft hleft'

/-- After the shutdown the worker's flag may go down. -/
theorem lowered (h : Agreed d w?) (hexit : d.exit = true) : Agreed { d with ready := false } w? :=
  ⟨h.complete_iff, fun hopen => absurd (hexit.symm.trans hopen) Bool.noConfusion,
    h.servicing_iff, h.left⟩

/-- **The worker's picking up.** -/
theorem pickedUp {buffer : Bytes} (h : Agreed d w?) (hpending : d.request = .pending buffer) :
    Agreed { d with ready := false, request := .servicing } (some (.serving buffer)) := by
  refine ⟨?_, fun _ => by simp, by simp [handOf, WorkerPhase.hand], fun w hw' hleft => ?_⟩
  · -- a request was pending, so the callers' flag was down and stays so
    have hcomplete := h.complete_iff
    rw [hpending] at hcomplete
    simpa using hcomplete
  · cases hw'
    exact Bool.noConfusion hleft

/-- **The worker's way to the ring and back.** -/
theorem served {buffer : Bytes} (h : Agreed d (some (.serving buffer))) (result : Transfer) :
    Agreed d (some (.publishing result)) := by
  refine ⟨h.complete_iff, h.ready_iff, ?_, fun w heq hleft => ?_⟩
  · have hservicing := h.servicing_iff
    simpa [handOf, WorkerPhase.hand] using hservicing
  · cases heq
    exact Bool.noConfusion hleft

/-- **The worker's look at the slot**, and where it goes from there. -/
theorem looked {hs : Handshake} (h : Agreed hs.direction hs.worker)
    (hw : hs.worker = some .looking) : Agreed hs.workerStep.direction hs.workerStep.worker := by
  have hfree : handOf hs.worker = .free := by rw [hw]; rfl
  rcases h.pickUp_cases with ⟨hready, hpick⟩ | ⟨hexit, hpick⟩ | ⟨buffer, hpending, hexit, hpick⟩
  · have hstep : hs.workerStep = { hs with worker := some .asleep } := by
      simp only [Handshake.workerStep, hw, hpick]
    rw [hstep]
    exact h.moved hfree rfl Bool.noConfusion
  · have hstep : hs.workerStep =
        { hs with direction := { hs.direction with ready := false }, worker := some .leaving } := by
      simp only [Handshake.workerStep, hw, hpick]
    rw [hstep]
    exact (h.lowered hexit).moved hfree rfl fun _ => hexit
  · have hstep : hs.workerStep =
        { hs with
          direction := { hs.direction with ready := false, request := .servicing }
          worker := some (.serving buffer) } := by
      simp only [Handshake.workerStep, hw, hpick]
    rw [hstep]
    exact h.pickedUp hpending

/-- **The worker's handing back.** -/
theorem published {result : Transfer} (h : Agreed d (some (.publishing result))) :
    Agreed (d.publish result) (some .announcing) := by
  have hservicing : d.request = .servicing := h.servicing_iff.2 (by simp [handOf, WorkerPhase.hand])
  refine ⟨?_, fun hexit => ?_, by simp [Direction.publish, handOf, WorkerPhase.hand],
    fun w hw hleft => ?_⟩
  · obtain ⟨transferred, buffer⟩ := result
    simp [Direction.publish]
  · have hready := h.ready_iff hexit
    rw [hservicing] at hready
    simpa [Direction.publish] using hready
  · cases hw
    exact Bool.noConfusion hleft

/-- **Every step of the worker but the one at the ring.** -/
theorem workerStep {hs : Handshake} (h : Agreed hs.direction hs.worker) :
    Agreed hs.workerStep.direction hs.workerStep.worker := by
  cases hw : hs.worker with
  | none =>
    have hstep : hs.workerStep = hs := by simp only [Handshake.workerStep, hw]
    rw [hstep]
    exact h
  | some w =>
    cases w with
    | looking => exact h.looked hw
    | publishing result =>
      have hstep : hs.workerStep =
          { hs with direction := hs.direction.publish result, worker := some .announcing } := by
        simp only [Handshake.workerStep, hw]
      rw [hw] at h
      rw [hstep]
      exact h.published
    | announcing =>
      have hstep : hs.workerStep = { hs.noticeCalls with worker := some .looking } := by
        simp only [Handshake.workerStep, hw]
      rw [hstep]
      exact h.moved (by rw [hw]; rfl) rfl Bool.noConfusion
    | leaving =>
      have hstep : hs.workerStep = { hs.noticeCalls with worker := some .stopped } := by
        simp only [Handshake.workerStep, hw]
      rw [hstep]
      exact h.moved (by rw [hw]; rfl) rfl fun _ => h.left .leaving hw rfl
    | _ =>
      have hstep : hs.workerStep = hs := by simp only [Handshake.workerStep, hw]
      rw [hstep]
      exact h

end Agreed

namespace Course

variable {c : Course}

/-! ## Turns -/

theorem worker_callStep (c : Course) (ticket : Nat) :
    (c.lane.callStep ticket).handshake.worker = c.worker ∨
      (c.lane.callStep ticket).handshake.worker = c.worker.map WorkerPhase.noticed := by
  simp only [Lane.callStep, Lane.onHandshake, Handshake.callStep]
  split
  · exact .inl rfl
  · split
    · exact .inr rfl
    · exact .inl rfl

/-- **The step of a blocking call keeps the agreement**: its move does, and
the notice it may give does. -/
theorem agreed_call {ticket : Nat} {k : Call} (hk : c.call? ticket = some k)
    (h : Agreed c.direction c.worker) :
    Agreed (c.turn (.call ticket)).direction (c.turn (.call ticket)).worker := by
  have hturn : (c.turn (.call ticket)).lane = c.lane.callStep ticket := by
    simp only [turn, hk, moved]
  have hdirection : (c.turn (.call ticket)).direction = (k.step c.direction).1 := by
    rw [direction, hturn]
    exact (callStep_of_call? hk).1
  have hmoved : Agreed (k.step c.direction).1 c.worker := by
    have hmove := k.moves c.direction c.requester
    -- the move is split by its own indices, so the terms they stand for give way to names
    generalize (k.step c.direction).1 = d at hmove ⊢
    generalize (k.step c.direction).2.standing = s at hmove
    generalize callDeeds c.direction c.requester k = done at hmove
    cases hmove with
    | accepted buffer owes free kept => exact h.accepted buffer free
    | collected t waits hfinished => exact h.collected hfinished
    | failed e running => exact h
    | still => exact h
  rw [hdirection, worker, hturn]
  rcases c.worker_callStep ticket with hw | hw
  · rw [hw]; exact hmoved
  · rw [hw]; exact hmoved.noticed

/-- **The worker's step keeps the agreement**, at the ring as elsewhere. -/
theorem agreed_worker (h : Agreed c.direction c.worker) :
    Agreed (c.turn .worker).direction (c.turn .worker).worker := by
  by_cases hserving : ∃ buffer, c.worker = some (.serving buffer)
  · obtain ⟨buffer, hw⟩ := hserving
    have hw' : c.lane.handshake.worker = some (.serving buffer) := hw
    have hstep : (c.turn .worker).direction = c.direction ∧
        ∃ result, (c.turn .worker).worker = some (.publishing result) := by
      simp only [turn, moved, direction, worker, Lane.workerStep, hw', Store.updateObject_eq]
      exact ⟨rfl, _, rfl⟩
    obtain ⟨hdirection, result, hworker⟩ := hstep
    rw [hdirection, hworker]
    rw [hw] at h
    exact h.served result
  · have hlane : (c.lane.workerStep c.store).1.handshake = c.lane.handshake.workerStep := by
      unfold Lane.workerStep
      split
      · exact absurd ⟨_, by assumption⟩ hserving
      · rfl
      · rfl
    have hturn : (c.turn .worker).lane = (c.lane.workerStep c.store).1 := rfl
    rw [direction, Lane.direction, worker, hturn, hlane]
    exact Agreed.workerStep h

/-- **Every turn keeps the agreement.** -/
theorem agreed_turn (h : Agreed c.direction c.worker) (t : Turn) :
    Agreed (c.turn t).direction (c.turn t).worker := by
  cases t with
  | spawn =>
    rcases c.turn_spawn with ⟨hw, hturn⟩ | ⟨-, hturn⟩ <;> rw [hturn]
    · exact h.moved (by rw [hw]; rfl) rfl Bool.noConfusion
    · exact h
  | submit buffer =>
    rcases c.direction.submit_cases buffer with ⟨e, he⟩ | ⟨-, -, hfree, -, hok⟩
    · have hsubmit : c.lane.handshake.direction.submit buffer = (.error e, c.direction) := he
      simp only [turn, moved, Lane.onHandshake, Handshake.submit, hsubmit]
      exact h
    · have hsubmit : c.lane.handshake.direction.submit buffer = (.ok (),
          { c.direction with request := .pending buffer, ready := true, complete := false }) := hok
      simp only [turn, moved, Lane.onHandshake, Handshake.submit, hsubmit]
      exact (h.accepted buffer hfree).noticed
  | collect =>
    rcases c.direction.takeFinished_cases with ⟨t, ht, htake⟩ | hnone
    · have hresult : c.lane.handshake.direction.takeFinished =
          (some t, { c.direction with request := .empty, complete := false }) := htake
      simp only [turn, moved, Lane.takeResult, Handshake.takeResult, hresult]
      exact h.collected ht
    · have hresult : c.lane.handshake.direction.takeFinished = (none, c.direction) := hnone
      simp only [turn, moved, Lane.takeResult, Handshake.takeResult, hresult]
      exact h
  | shutDown => exact h.shutDown.noticed
  | begin element policy => exact h
  | call ticket =>
    cases hk : c.call? ticket with
    | none =>
      have hturn : c.turn (.call ticket) = c := by simp only [turn, hk]
      rw [hturn]
      exact h
    | some k => exact agreed_call hk h
  | rouse ticket => exact h
  | worker => exact agreed_worker h
  | rouseWorker => exact h.noticed
  | others s => exact h

theorem agreed_run (turns : List Turn) (h : Agreed c.direction c.worker) :
    Agreed (c.run turns).direction (c.run turns).worker :=
  run_induction (P := fun c => Agreed c.direction c.worker) turns h fun _ t h => agreed_turn h t

end Course

/-! ## While no caller acts -/

/-- Whether a caller touches the slot at a turn. -/
def Turn.isOfCaller : Turn → Bool
  | .submit _ => true
  | .collect => true
  | .begin _ _ => true
  | .call _ => true
  | .spawn => false
  | .shutDown => false
  | .rouse _ => false
  | .worker => false
  | .rouseWorker => false
  | .others _ => false

namespace Course

variable {c : Course} {t : Turn}

/-- **A slot with no request on its way is the callers' own**: worker,
shutdown and all others leave it as it is. -/
theorem request_turn (h : Agreed c.direction c.worker)
    (hidle : c.direction.request.isOutstanding = false) (ht : t.isOfCaller = false) :
    (c.turn t).direction.request = c.direction.request := by
  have hfree : handOf c.worker = .free := by
    refine not_not.1 fun hhand => ?_
    rw [h.servicing_iff.2 hhand] at hidle
    exact Bool.noConfusion hidle
  cases t with
  | submit buffer => exact Bool.noConfusion ht
  | collect => exact Bool.noConfusion ht
  | begin element policy => exact Bool.noConfusion ht
  | call ticket => exact Bool.noConfusion ht
  | spawn =>
    rcases c.turn_spawn with ⟨-, hturn⟩ | ⟨-, hturn⟩ <;> rw [hturn]
    rfl
  | shutDown => rfl
  | rouse ticket => rfl
  | rouseWorker => rfl
  | others s => rfl
  | worker =>
    have hserving : ∀ buffer, c.worker ≠ some (.serving buffer) := fun buffer hw => by
      rw [hw] at hfree
      exact Hand.noConfusion hfree
    rcases c.exchange_worker_cases hserving with ⟨buffer, hpending, -⟩ | ⟨t, hreturning, -⟩ | hsame
    · have hpending : c.direction.request = .pending buffer := hpending
      rw [hpending] at hidle
      exact Bool.noConfusion hidle
    · exact Hand.noConfusion (hfree.symm.trans hreturning)
    · exact congrArg Exchange.request hsame

theorem request_run (h : Agreed c.direction c.worker)
    (hidle : c.direction.request.isOutstanding = false) (turns : List Turn)
    (hturns : ∀ t ∈ turns, t.isOfCaller = false) :
    (c.run turns).direction.request = c.direction.request := by
  induction turns generalizing c with
  | nil => rfl
  | cons t rest ih =>
    have hsame := request_turn h hidle (hturns t (List.mem_cons_self ..))
    have hrest := ih (agreed_turn h t) (by rw [hsame]; exact hidle) fun t' ht' =>
      hturns t' (List.mem_cons_of_mem _ ht')
    exact hrest.trans hsame

/-- **A caller that is alone and is told of a success collects one**, and
is told of none afterwards. -/
theorem collect_of_complete (h : Agreed c.direction c.worker)
    (hcomplete : c.direction.complete = true) (between later : List Turn)
    (hbetween : ∀ t ∈ between, t.isOfCaller = false) (hlater : ∀ t ∈ later, t.isOfCaller = false) :
    (∃ t, (c.run between).direction.takeFinished.1 = some t ∧ t.transferred = true) ∧
      (((c.run between).turn .collect).run later).direction.complete = false := by
  obtain ⟨buffer, hfinished⟩ := h.complete_iff.1 hcomplete
  have hthere := request_run h (by rw [hfinished]; rfl) between hbetween
  rw [hfinished] at hthere
  have htake : (c.run between).direction.takeFinished = (some ⟨true, buffer⟩,
      { (c.run between).direction with request := .empty, complete := false }) := by
    simp only [Direction.takeFinished, hthere]
  refine ⟨⟨⟨true, buffer⟩, by rw [htake], rfl⟩, ?_⟩
  have hempty : ((c.run between).turn .collect).direction.request = .empty := by
    have hresult : (c.run between).lane.handshake.direction.takeFinished =
        (some ⟨true, buffer⟩,
          { (c.run between).direction with request := .empty, complete := false }) := htake
    simp only [turn, moved, Lane.takeResult, Handshake.takeResult, hresult, direction,
      Lane.direction]
  have hafter := agreed_turn (agreed_run between h) .collect
  have hstill := request_run hafter (by rw [hempty]; rfl) later hlater
  rw [hempty] at hstill
  refine Bool.eq_false_iff.2 fun htold => ?_
  obtain ⟨b, hb⟩ := (agreed_run later hafter).complete_iff.1 htold
  rw [hstill] at hb
  exact Request.noConfusion hb

/-- **The slot, its flags and the worker agree** in every order of steps,
of any number of callers. So the worker never finds its flag up for
nothing; and a caller that is alone and is told of a success collects one,
and is told of none afterwards. -/
theorem slot_agrees (view : View) (role : Role) (elementSize : UInt64) (s : Store)
    (turns : List Turn) :
    let c := (start view role elementSize s).run turns
    (c.direction.complete = true ↔ ∃ buffer, c.direction.request = .finished ⟨true, buffer⟩) ∧
      (c.direction.exit = false →
        (c.direction.ready = true ↔ ∃ buffer, c.direction.request = .pending buffer)) ∧
      (c.direction.request = .servicing ↔
        (∃ buffer, c.worker = some (.serving buffer)) ∨
          ∃ result, c.worker = some (.publishing result)) ∧
      (c.worker = some .leaving ∨ c.worker = some .stopped →
        c.direction.exit = true ∧ c.direction.request ≠ .servicing) ∧
      (c.worker = some .looking → c.direction.pickUp.1 ≠ .noRequest) ∧
      (c.direction.complete = true → ∀ between later : List Turn,
        (∀ t ∈ between, t.isOfCaller = false) → (∀ t ∈ later, t.isOfCaller = false) →
          (∃ t, (c.run between).direction.takeFinished.1 = some t ∧ t.transferred = true) ∧
            (((c.run between).turn .collect).run later).direction.complete = false) := by
  intro c
  have h : Agreed c.direction c.worker := agreed_run turns (.new role elementSize)
  refine ⟨h.complete_iff, h.ready_iff, h.servicing_iff.trans handOf_ne_free_iff, fun hw => ?_,
    fun _ => h.pickUp_ne_noRequest, fun hcomplete between later hbetween hlater =>
      collect_of_complete h hcomplete between later hbetween hlater⟩
  have hidle : handOf c.worker = .free := by
    rcases hw with hw | hw <;> rw [hw] <;> rfl
  refine ⟨?_, fun hservicing => h.servicing_iff.1 hservicing hidle⟩
  rcases hw with hw | hw
  · exact h.left .leaving hw rfl
  · exact h.left .stopped hw rfl

end Course

end TwinRing
