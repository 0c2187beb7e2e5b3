import TwinRing.Proofs.Direction.Settling
/-!
# Lanes under way — what is left after a shutdown

A shutdown is final. Slot and hand run dry (`Scene.Since`), and worker and
calls have a fixed number of steps left (`WorkerPhase.ahead`,
`CallPhase.ahead`), none of which ends asleep; who sleeps at the shutdown
is owed a notice, by `Told`. `shutdown_is_final` puts these together for
every order of steps, whatever number of callers there is and wherever
each of them is.
-/

namespace TwinRing

/-! ## The steps that are left -/

/-- How many steps the worker has left after the shutdown. -/
def WorkerPhase.ahead : WorkerPhase → Nat
  | .asleep => 6
  | .serving _ => 5
  | .publishing _ => 4
  | .announcing => 3
  | .looking => 2
  | .leaving => 1
  | .stopped => 0

/-- How many steps a call has left after the shutdown, if it is awake. -/
def CallPhase.ahead : CallPhase → Nat
  | .asleep => 3
  | .napping _ _ => 2
  | .calling => 3
  | .checking => 2
  | .submitting _ => 1
  | .pausing _ _ => 1
  | .roused _ => 1
  | .returned _ => 0

theorem WorkerPhase.noticed_of_awake {w : WorkerPhase} (h : w ≠ .asleep) : w.noticed = w := by
  cases w with
  | asleep => exact absurd rfl h
  | _ => rfl

/-- A notice changes nothing for a call that is awake. -/
theorem Call.noticed_of_awake {k : Call} (h : k.isAsleep = false) : k.noticed = k := by
  obtain ⟨ticket, retrier, phase⟩ := k
  cases phase with
  | asleep => exact Bool.noConfusion h
  | napping buffer delay => exact Bool.noConfusion h
  | _ => rfl

theorem Call.ahead_collected (k : Call) (t : Transfer) : (k.collected t).phase.ahead ≤ 1 := by
  unfold collected
  split
  · exact Nat.zero_le 1
  · rcases k.retrier.nextDelay with ⟨_ | delay, retrier⟩ <;> exact Nat.le_refl 1

namespace Scene

variable {x y : Scene} {who : Thread}

/-- **A worker that is awake stays awake, and every step of its brings it
nearer to its end.** -/
theorem worker_ahead_step {w : WorkerPhase} (hstep : x.Step who y) (h : x.Told)
    (hexit : x.direction.exit = true) (hw : x.worker = some w) (hawake : w ≠ .asleep) :
    ∃ w', y.worker = some w' ∧ w' ≠ .asleep ∧ w'.ahead ≤ w.ahead ∧
      (who = .worker → w'.ahead ≤ w.ahead - 1) := by
  have hopen {P : Prop} (runs : x.direction.exit = false) : P :=
    absurd (hexit.symm.trans runs) Bool.noConfusion
  have hnoticed : x.worker.map WorkerPhase.noticed = some w := by
    rw [hw, Option.map_some, WorkerPhase.noticed_of_awake hawake]
  cases hstep with
  | tells ticket retrier hk =>
    exact ⟨w, hnoticed, hawake, Nat.le_refl _, fun hwho => by cases hwho⟩
  | keepsRequest i hi => exact ⟨w, hnoticed, hawake, Nat.le_refl _, fun hwho => by cases hwho⟩
  | keepsShutDown i hi => exact ⟨w, hnoticed, hawake, Nat.le_refl _, fun hwho => by cases hwho⟩
  | idle hquiet =>
    have hquiet := hquiet w hw
    refine ⟨w, hw, hawake, Nat.le_refl _, fun _ => ?_⟩
    cases w with
    | stopped => exact Nat.le_refl 0
    | asleep => exact absurd rfl hawake
    | _ => exact Bool.noConfusion hquiet
  | rests hw' down =>
    cases Option.some.inj (hw.symm.trans hw')
    have hup := (h.up hexit _ hw').resolve_left Bool.noConfusion
    exact absurd (hup.symm.trans down) Bool.noConfusion
  | leaves hw' up ended =>
    cases Option.some.inj (hw.symm.trans hw')
    exact ⟨_, rfl, WorkerPhase.noConfusion, by decide, fun _ => by decide⟩
  | picksUp buffer hw' up runs waits => exact hopen runs
  | looksAgain hw' up runs vain => exact hopen runs
  | serves owner buffer attempt after hw' length =>
    cases Option.some.inj (hw.symm.trans hw')
    exact ⟨_, rfl, WorkerPhase.noConfusion, by simp [WorkerPhase.ahead], fun _ => Nat.le_refl 4⟩
  | publishes t hw' =>
    cases Option.some.inj (hw.symm.trans hw')
    exact ⟨_, rfl, WorkerPhase.noConfusion, by simp [WorkerPhase.ahead], fun _ => Nat.le_refl 3⟩
  | announces hw' =>
    cases Option.some.inj (hw.symm.trans hw')
    exact ⟨_, rfl, WorkerPhase.noConfusion, by decide, fun _ => by decide⟩
  | ends hw' =>
    cases Option.some.inj (hw.symm.trans hw')
    exact ⟨_, rfl, WorkerPhase.noConfusion, by decide, fun _ => by decide⟩
  | _ => exact ⟨w, hw, hawake, Nat.le_refl _, fun hwho => by cases hwho⟩

/-- Where another call was put elsewhere this one is as it was. -/
theorem call?_put_of_ne {ticket : Nat} (new : Call) (h : ticket ≠ new.ticket) :
    (x.put new).call? ticket = x.call? ticket := if_neg h

/-- A call that was put elsewhere by its own step is nearer to its return. -/
theorem ahead_of_put {ticket : Nat} {k before : Call} (new : Call) (hk : x.call? ticket = some k)
    (hawake : k.isAsleep = false) (hbefore : x.call? new.ticket = some before)
    (hnew : new.isAsleep = false) (hless : new.phase.ahead ≤ before.phase.ahead - 1) :
    ∃ k', (x.put new).call? ticket = some k' ∧ k'.isAsleep = false ∧
      k'.phase.ahead ≤ k.phase.ahead ∧
      (Thread.call new.ticket = .call ticket → k'.phase.ahead ≤ k.phase.ahead - 1) := by
  by_cases hsame : ticket = new.ticket
  · rw [hsame] at hk
    cases Option.some.inj (hk.symm.trans hbefore)
    exact ⟨new, if_pos hsame, hnew, Nat.le_trans hless (Nat.sub_le _ _), fun _ => hless⟩
  · exact ⟨k, (call?_put_of_ne new hsame).trans hk, hawake, Nat.le_refl _,
      fun hwho => absurd (Thread.call.inj hwho).symm hsame⟩

/-- **A call that is awake stays awake, and every step of its brings it
nearer to its return.** -/
theorem call_ahead_step {ticket : Nat} {k : Call} (hstep : x.Step who y)
    (hexit : x.direction.exit = true) (hk : x.call? ticket = some k) (hawake : k.isAsleep = false) :
    ∃ k', y.call? ticket = some k' ∧ k'.isAsleep = false ∧ k'.phase.ahead ≤ k.phase.ahead ∧
      (who = .call ticket → k'.phase.ahead ≤ k.phase.ahead - 1) := by
  have hopen {P : Prop} (runs : x.direction.exit = false) : P :=
    absurd (hexit.symm.trans runs) Bool.noConfusion
  have hsame (hother : who ≠ .call ticket) (hk : y.call? ticket = some k) :
      ∃ k', y.call? ticket = some k' ∧ k'.isAsleep = false ∧ k'.phase.ahead ≤ k.phase.ahead ∧
        (who = .call ticket → k'.phase.ahead ≤ k.phase.ahead - 1) :=
    ⟨k, hk, hawake, Nat.le_refl _, fun hwho => absurd hwho hother⟩
  have htold : x.callersTold.call? ticket = some k :=
    (congrArg (Option.map Call.noticed) hk).trans (congrArg some (Call.noticed_of_awake hawake))
  cases hstep with
  | issues buffer requester length runs free => exact hopen runs
  | begins new element policy fresh =>
    have hne : ticket ≠ new := fun heq => by
      rw [heq, fresh] at hk
      cases hk
    exact hsame Thread.noConfusion
      ((call?_put_of_ne ⟨new, ⟨policy, 0⟩, .submitting element⟩ hne).trans hk)
  | quiet other hquiet =>
    refine ⟨k, hk, hawake, Nat.le_refl _, fun hwho => ?_⟩
    cases hwho
    have hquiet := hquiet k hk
    obtain ⟨named, retrier, phase⟩ := k
    -- a call that is quiet and awake has returned
    cases phase with
    | returned result => exact Nat.le_refl 0
    | asleep => exact Bool.noConfusion hawake
    | napping buffer delay => exact Bool.noConfusion hawake
    | _ => exact Bool.noConfusion hquiet
  | submits other retrier buffer requester hk' length runs free => exact hopen runs
  | fails other retrier phase e hk' awake told cause =>
    exact ahead_of_put ⟨other, retrier, .returned (.error e)⟩ hk hawake hk' rfl
      (Nat.zero_le _)
  | tells other retrier hk' =>
    exact ahead_of_put ⟨other, retrier, .checking⟩ hk hawake hk' rfl (Nat.le_refl 2)
  | takes other retrier owner t hk' done =>
    have hput := ahead_of_put (Call.collected ⟨other, retrier, .checking⟩ t) hk hawake
      (by rw [Call.ticket_collected]; exact hk') (Call.isAsleep_collected _ t)
      (Call.ahead_collected _ t)
    rw [Call.ticket_collected] at hput
    exact hput
  | fallsAsleep other retrier hk' nothing runs => exact hopen runs
  | naps other retrier buffer delay hk' runs => exact hopen runs
  | resumes other retrier buffer hk' runs => exact hopen runs
  | timeUp other retrier buffer delay hk' =>
    have hne : ticket ≠ other := fun heq => by
      rw [heq, hk'] at hk
      cases hk
      exact Bool.noConfusion hawake
    exact hsame Thread.noConfusion
      ((call?_put_of_ne ⟨other, retrier, .roused buffer⟩ hne).trans hk)
  | keepsCallers i hi => exact hsame Thread.noConfusion htold
  | announces hw => exact hsame Thread.noConfusion htold
  | ends hw => exact hsame Thread.noConfusion htold
  | _ => exact hsame Thread.noConfusion hk

end Scene

namespace Vigil

variable {v : Vigil}

/-! ## From a shutdown to any later moment -/

/-- **A direction that is shut down**, with what holds of it at all times. -/
structure Closed (n : Nat) (v : Vigil) : Prop where
  numbered : v.course.Numbered
  told : v.scene.Told
  sized : v.scene.Sized n
  reported : v.scene.Reported
  exit : v.direction.exit = true

variable {n : Nat}

theorem Closed.act (h : v.Closed n) (a : Act) : (v.act a).Closed n := by
  have hstep := step_act h.numbered a
  exact ⟨numbered_act h.numbered a, h.told.step hstep, h.sized.step hstep,
    h.reported.step hstep, Scene.exit_step hstep h.exit⟩

theorem Closed.run (h : v.Closed n) (acts : List Act) : (v.run acts).Closed n :=
  run_induction (P := Vigil.Closed n) acts h fun _ a h => h.act a

theorem sized_run (view : View) (role : Role) (elementSize : UInt64) (s : Store)
    (acts : List Act) : ((start view role elementSize s).run acts).scene.Sized elementSize.toNat :=
  scene_run (numbered_start view role elementSize s) acts
    ⟨rfl, fun _ hb => (by cases hb), fun _ hb => (by cases hb), fun _ _ _ hk => (by cases hk)⟩
    fun _ _ _ hstep h => h.step hstep

theorem reported_run (view : View) (role : Role) (elementSize : UInt64) (s : Store)
    (acts : List Act) : ((start view role elementSize s).run acts).scene.Reported := by
  have hstart : (start view role elementSize s).scene.Reported := fun ticket result =>
    iff_of_false List.not_mem_nil fun ⟨k, hk, _⟩ => by cases hk
  exact scene_run (numbered_start view role elementSize s) acts hstart
    fun _ _ _ hstep h => h.step hstep

/-- A shutdown at any moment closes the direction. -/
theorem closed_shutDown (view : View) (role : Role) (elementSize : UInt64) (s : Store)
    (before : List Act) :
    (((start view role elementSize s).run before).act .shutDown).Closed elementSize.toNat :=
  ⟨numbered_act (numbered_run (numbered_start view role elementSize s) before) .shutDown,
    (told_run view role elementSize s before).step .shutsDown,
    (sized_run view role elementSize s before).step .shutsDown,
    (reported_run view role elementSize s before).step .shutsDown, rfl⟩

/-- **Slot and hand run dry** in every order of steps. -/
theorem Closed.since (h : v.Closed n) (acts : List Act) :
    ∃ deeds, Scene.Since n v.scene (v.run acts).scene deeds := by
  induction acts generalizing v with
  | nil => exact ⟨[], .refl n v.scene⟩
  | cons a rest ih =>
    obtain ⟨deeds, hstep⟩ :=
      (Scene.settles_step (step_act h.numbered a) h.exit h.sized).next h.told.agreed
    obtain ⟨later, hrest⟩ := ih (h.act a)
    exact ⟨deeds ++ later, hstep.trans hrest⟩

/-- A measure that no act raises, and that some acts lower while it is not
zero, is lowered by every one of these. -/
theorem run_countdown {P : Vigil → Prop} {m : Vigil → Nat} {q : Act → Bool} (acts : List Act)
    (init : P v) (step : ∀ v a, P v → P (v.act a) ∧ m (v.act a) ≤ m v ∧
      (q a = true → m (v.act a) ≤ m v - 1)) :
    P (v.run acts) ∧ m (v.run acts) ≤ m v - acts.countP q := by
  induction acts generalizing v with
  | nil => exact ⟨init, Nat.le_refl _⟩
  | cons a rest ih =>
    obtain ⟨hnext, hle, hmine⟩ := step v a init
    obtain ⟨hrun, hrest⟩ := ih hnext
    refine ⟨hrun, Nat.le_trans hrest ?_⟩
    rw [List.countP_cons]
    split
    · have := hmine ‹_›
      omega
    · omega

/-! ### Worker and calls come to their ends -/

def workerAhead (v : Vigil) : Nat := (v.worker.map WorkerPhase.ahead).getD 0

def callAhead (v : Vigil) (ticket : Nat) : Nat :=
  ((v.call? ticket).map fun k => k.phase.ahead).getD 0

theorem workerAhead_eq {w : WorkerPhase} (h : v.worker = some w) : v.workerAhead = w.ahead := by
  rw [workerAhead, h]
  rfl

theorem callAhead_eq {ticket : Nat} {k : Call} (h : v.call? ticket = some k) :
    v.callAhead ticket = k.phase.ahead := by
  rw [callAhead, h]
  rfl

/-- **A worker that is awake never sleeps again**, and has at most five
steps left. -/
theorem Closed.worker_ends (h : v.Closed n) {w : WorkerPhase} (hw : v.worker = some w)
    (hawake : w ≠ .asleep) (acts : List Act) :
    ∃ w', (v.run acts).worker = some w' ∧ w' ≠ .asleep ∧
      (5 ≤ acts.countP (fun a => a.thread = .worker) → w' = .stopped) := by
  obtain ⟨⟨-, w', hw', hawake'⟩, hleft⟩ := run_countdown (v := v) (m := workerAhead)
    (P := fun v => v.Closed n ∧ ∃ w, v.worker = some w ∧ w ≠ .asleep)
    (q := fun a => a.thread = .worker) acts ⟨h, w, hw, hawake⟩ fun v a ⟨h, w, hw, hawake⟩ => by
      obtain ⟨w', hw', hawake', hle, hmine⟩ :=
        Scene.worker_ahead_step (step_act h.numbered a) h.told h.exit hw hawake
      refine ⟨⟨h.act a, w', hw', hawake'⟩, ?_, fun hwho => ?_⟩
      · rw [workerAhead_eq hw, workerAhead_eq (v := v.act a) hw']
        exact hle
      · rw [workerAhead_eq hw, workerAhead_eq (v := v.act a) hw']
        exact hmine (of_decide_eq_true hwho)
  refine ⟨w', hw', hawake', fun hcount => ?_⟩
  have hbound : w.ahead ≤ 5 := by
    cases w with
    | asleep => exact absurd rfl hawake
    | _ => simp [WorkerPhase.ahead]
  rw [workerAhead_eq hw, workerAhead_eq hw'] at hleft
  have hzero : w'.ahead = 0 := by omega
  cases w' with
  | stopped => rfl
  | _ => cases hzero

/-- **A call that is awake never sleeps again**, and has at most three
steps left. -/
theorem Closed.call_ends (h : v.Closed n) {ticket : Nat} {k : Call} (hk : v.call? ticket = some k)
    (hawake : k.isAsleep = false) (acts : List Act) :
    ∃ k', (v.run acts).call? ticket = some k' ∧ k'.isAsleep = false ∧
      (3 ≤ acts.countP (fun a => a.thread = .call ticket) → k'.result?.isSome = true) := by
  obtain ⟨⟨-, k', hk', hawake'⟩, hleft⟩ := run_countdown (v := v) (m := (·.callAhead ticket))
    (P := fun v => v.Closed n ∧ ∃ k, v.call? ticket = some k ∧ k.isAsleep = false)
    (q := fun a => a.thread = .call ticket) acts ⟨h, k, hk, hawake⟩
    fun v a ⟨h, k, hk, hawake⟩ => by
      obtain ⟨k', hk', hawake', hle, hmine⟩ :=
        Scene.call_ahead_step (step_act h.numbered a) h.exit hk hawake
      refine ⟨⟨h.act a, k', hk', hawake'⟩, ?_, fun hwho => ?_⟩
      · rw [callAhead_eq hk, callAhead_eq (v := v.act a) hk']
        exact hle
      · rw [callAhead_eq hk, callAhead_eq (v := v.act a) hk']
        exact hmine (of_decide_eq_true hwho)
  refine ⟨k', hk', hawake', fun hcount => ?_⟩
  have hbound : k.phase.ahead ≤ 3 := by
    cases hphase : k.phase <;> simp [CallPhase.ahead]
  rw [callAhead_eq hk, callAhead_eq hk'] at hleft
  have hzero : k'.phase.ahead = 0 := by omega
  obtain ⟨named, retrier, phase⟩ := k'
  cases phase with
  | returned result => rfl
  | _ => cases hzero

/-- **A worker that sleeps is woken by the next step of somebody**: a
notice that is owed, or the step of a call that is to tell it. -/
theorem Closed.wakes_worker (h : v.Closed n) (hw : v.worker = some .asleep) :
    ∃ a, ((∃ i, a = .keep i) ∨ ∃ ticket, a = .call ticket) ∧
      (v.act a).worker = some .looking := by
  have hup : v.direction.ready = true :=
    (h.told.up h.exit .asleep hw).resolve_left Bool.noConfusion
  have hnoticed : v.worker.map WorkerPhase.noticed = some .looking := by rw [hw]; rfl
  rcases h.told.worker hw with hdown | hrequest | hshut | ⟨ticket, retrier, hcalling⟩
  · exact absurd (hup.symm.trans hdown) Bool.noConfusion
  · obtain ⟨i, hi⟩ := List.mem_iff_getElem?.1 hrequest
    have hi : v.owed[i]? = some .request := hi
    refine ⟨.keep i, .inl ⟨i, rfl⟩, ?_⟩
    simp only [Vigil.act, hi]
    exact hnoticed
  · obtain ⟨i, hi⟩ := List.mem_iff_getElem?.1 hshut
    have hi : v.owed[i]? = some .shutDown := hi
    refine ⟨.keep i, .inl ⟨i, rfl⟩, ?_⟩
    simp only [Vigil.act, hi]
    exact hnoticed
  · exact ⟨.call ticket, .inr ⟨ticket, rfl⟩,
      (worker_call_of_calling (v := v) hcalling rfl).trans hnoticed⟩

/-- **A call that has returned meanwhile has its return noted meanwhile.** -/
theorem Closed.returned (h : v.Closed n) {acts : List Act} {deeds : List Deed}
    (hrecord : (v.run acts).course.record = v.course.record ++ deeds) {ticket : Nat}
    {k k' : Call} {result : Except ChannelError Bytes} (hk : v.call? ticket = some k)
    (hrunning : k.result? = none) (hk' : (v.run acts).call? ticket = some k')
    (hresult : k'.result? = some result) :
    .returned ticket result ∈ deeds := by
  have hnoted : .returned ticket result ∈ (v.run acts).course.record :=
    ((h.run acts).reported ticket result).2 ⟨k', hk', hresult⟩
  rw [hrecord] at hnoted
  refine (List.mem_append.1 hnoted).resolve_left (h.reported.not_mem (fun b hb => ?_) result)
  rw [← Option.some.inj (hk.symm.trans hb)]
  exact hrunning

/-- **A call that sleeps is woken by the notices that are owed.** -/
theorem Closed.wakes_call (h : v.Closed n) {ticket : Nat} {k : Call} (hk : v.call? ticket = some k)
    (hasleep : k.isAsleep = true) :
    ∃ notices : List Act, (∀ a ∈ notices, ∃ i, a = .keep i) ∧
      ∃ k', (v.run notices).call? ticket = some k' ∧ k'.isAsleep = false := by
  obtain ⟨notices, hnotices, htold⟩ := told_of_owed (h.told.callers h.exit ticket k hk hasleep)
  exact ⟨notices, hnotices, k.noticed, by rw [htold, hk, Option.map_some], k.isAsleep_noticed⟩

/-- **A request changes nothing**, whatever its buffer. -/
theorem Closed.act_issue (h : v.Closed n) (buffer : Bytes) : v.act (.issue buffer) = v := by
  rcases v.course.requested_cases buffer with ⟨e, he, hsame⟩ | ⟨-, hruns, -⟩
  · simp only [Vigil.act, direction, he, hsame]
  · exact absurd (h.exit.symm.trans hruns) Bool.noConfusion

/-! ### A shutdown is final -/

/-- **What a shutdown leaves**, from one moment after it to any later one. -/
structure Final (n : Nat) (v : Vigil) (more : List Act) : Prop where
  /-- The direction stays shut down. -/
  exit : (v.run more).direction.exit = true
  /-- A request is refused, as closed if its buffer has the right length,
  and changes nothing. -/
  refused : ∀ buffer : Bytes, v.act (.issue buffer) = v ∧
    (buffer.length = n → v.direction.submit buffer = (.error .closed, v.direction))
  /-- A request that waits is not picked up, and none is served that was
  not in the worker's hand. -/
  waiting : ∀ buffer, v.direction.request = .pending buffer →
    (v.run more).direction.request = .pending buffer
  started : (v.run more).direction.request = .servicing → v.direction.request = .servicing
  /-- A result that is there is there for the next who looks for one. -/
  there : ∀ t, v.direction.request = .finished t → v.direction.takeFinished.1 = some t
  /-- A worker that sleeps is woken by the next step of somebody. -/
  workerWoken : v.worker = some .asleep →
    ∃ a, ((∃ i, a = .keep i) ∨ ∃ ticket, a = .call ticket) ∧ (v.act a).worker = some .looking
  /-- A worker that is awake never sleeps again, and ends in five steps. -/
  workerEnds : ∀ w, v.worker = some w → w ≠ .asleep →
    ∃ w', (v.run more).worker = some w' ∧ w' ≠ .asleep ∧
      (5 ≤ more.countP (fun a => a.thread = .worker) → w' = .stopped)
  /-- A call that sleeps is woken by notices that are owed. -/
  callWoken : ∀ ticket k, v.call? ticket = some k → k.isAsleep = true →
    ∃ notices : List Act, (∀ a ∈ notices, ∃ i, a = .keep i) ∧
      ∃ k', (v.run notices).call? ticket = some k' ∧ k'.isAsleep = false
  /-- A call that is awake never sleeps again, and returns in three steps. -/
  callEnds : ∀ ticket k, v.call? ticket = some k → k.isAsleep = false →
    ∃ k', (v.run more).call? ticket = some k' ∧ k'.isAsleep = false ∧
      (3 ≤ more.countP (fun a => a.thread = .call ticket) → k'.result?.isSome = true)
  /-- Of what is done meanwhile: the worker goes to the ring with what it
  had in hand and no more; every result that was there or is made of that
  is taken once or is there; nothing is accepted. Every return of a call is
  noted, and a call returns with an element that it took as crossed, or as
  closed, or because it was started with an element of the wrong length. -/
  since : ∃ deeds, (v.run more).course.record = v.course.record ++ deeds ∧
    deeds.filterMap Deed.served? ++ (handOf (v.run more).worker).carried =
      (handOf v.worker).carried ∧
    v.scene.due ++ deeds.filterMap Deed.made? =
      deeds.filterMap Deed.taken? ++ (v.run more).scene.due ∧
    deeds.filterMap Deed.accepted? = [] ∧
    (∀ ticket k k' result, v.call? ticket = some k → k.result? = none →
      (v.run more).call? ticket = some k' → k'.result? = some result →
        .returned ticket result ∈ deeds) ∧
    ∀ ticket result, .returned ticket result ∈ deeds →
      (∃ owner buffer, result = .ok buffer ∧
        .collected (some ticket) owner ⟨true, buffer⟩ ∈ deeds) ∨
      result = .error .closed ∨
      ∃ element, .began ticket element ∈ (v.run more).course.record ∧ element.length ≠ n ∧
        result = .error (.elementSize n element.length)

/-- **A shutdown is final.** Whatever callers and worker were doing, in
every order of steps: the direction stays shut down and refuses requests;
the worker finishes what it has in hand, picks nothing up, and ends; the
results that are there stay there until they are taken, each once; and
every call returns, with an element only if it took one that has crossed,
without another request of its being accepted and without another sleep. -/
theorem shutdown_is_final (view : View) (role : Role) (elementSize : UInt64) (s : Store)
    (before later more : List Act) :
    Final elementSize.toNat
      ((((start view role elementSize s).run before).act .shutDown).run later) more := by
  set v := (((start view role elementSize s).run before).act .shutDown).run later
  have hclosed : v.Closed elementSize.toNat :=
    (closed_shutDown view role elementSize s before).run later
  obtain ⟨deeds, hsince⟩ := hclosed.since more
  refine ⟨(hclosed.run more).exit, fun buffer => ⟨hclosed.act_issue buffer, fun hlength => ?_⟩,
    hsince.waiting, hsince.started, fun t ht => ?_, hclosed.wakes_worker,
    fun w hw hawake => hclosed.worker_ends hw hawake more,
    fun ticket k hk hasleep => hclosed.wakes_call hk hasleep,
    fun ticket k hk hawake => hclosed.call_ends hk hawake more, deeds, hsince.record, hsince.served,
    hsince.due, hsince.accepted, fun _ _ _ _ => hclosed.returned hsince.record,
    fun ticket result hd => ?_⟩
  · rw [Direction.submit_of_exit hclosed.exit, if_pos]
    exact hlength.trans hclosed.sized.elementSize.symm
  · rw [Direction.takeFinished, ht]
  · refine (hsince.returned ticket result hd).imp id ?_
    rintro ⟨e, rfl, rfl | ⟨element, hbegan, hlength, rfl⟩⟩
    · exact .inl rfl
    · exact .inr ⟨element, hbegan, hlength, rfl⟩

end Vigil

end TwinRing
