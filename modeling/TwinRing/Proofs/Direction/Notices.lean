import TwinRing.Proofs.Direction.Acts
import TwinRing.Proofs.Direction.Flags
/-!
# Lanes under way — who sleeps will be told

`Told` says of a scene that no sleeper is forgotten, whatever number of
callers there is: a worker that sleeps while its flag is up is owed a
notice by somebody, and so is every call that sleeps although the
direction is shut down. Both rest on who can fall asleep. The worker does
so only with its flag down, and whoever raises the flag owes a notice from
that step on; a call does so only while the direction is not shut down,
and whoever shuts it down owes a notice to all.

Each field of `Told` is kept by every step of every thread on its own, so
each has one lemma, by cases on the step.
-/

namespace TwinRing

/-! ## Calls that sleep -/

/-- Whether a call sleeps, for its result or before its next attempt. -/
def Call.isAsleep (k : Call) : Bool :=
  match k.phase with
  | .asleep => true
  | .napping _ _ => true
  | .submitting _ => false
  | .calling => false
  | .checking => false
  | .pausing _ _ => false
  | .roused _ => false
  | .returned _ => false

/-- A notice to all callers wakes all that sleep. -/
theorem Call.isAsleep_noticed (k : Call) : k.noticed.isAsleep = false := by
  obtain ⟨ticket, retrier, phase⟩ := k
  cases phase <;> rfl

theorem Call.isAsleep_collected (k : Call) (t : Transfer) : (k.collected t).isAsleep = false := by
  unfold collected
  split
  · rfl
  · rcases k.retrier.nextDelay with ⟨_ | delay, retrier⟩ <;> rfl

/-- A call that can take a step has not returned. -/
theorem Call.result?_of_awake {k : Call} (h : k.isQuiet = false) : k.result? = none := by
  obtain ⟨ticket, retrier, phase⟩ := k
  cases phase with
  | returned r => exact Bool.noConfusion h
  | _ => rfl

/-- A worker that has had its notice is awake. -/
theorem WorkerPhase.noticed_ne_asleep (w : WorkerPhase) : w.noticed ≠ .asleep := by
  cases w <;> exact WorkerPhase.noConfusion

namespace Scene

variable {x y : Scene} {who : Thread} {ticket : Nat} {k k' : Call}

/-! ## Calls that are put elsewhere -/

/-- What is found is the call that was put there, or another one that was
there before. -/
theorem call_of_put (h : (x.put k).call? ticket = some k') :
    ticket = k.ticket ∧ k' = k ∨ ticket ≠ k.ticket ∧ x.call? ticket = some k' := by
  by_cases hsame : ticket = k.ticket
  · exact .inl ⟨hsame, (Option.some.inj ((if_pos hsame).symm.trans h)).symm⟩
  · exact .inr ⟨hsame, (if_neg hsame).symm.trans h⟩

/-- Whether a call is about to tell the worker. -/
def Calling (x : Scene) (ticket : Nat) : Prop :=
  ∃ retrier, x.call? ticket = some ⟨ticket, retrier, .calling⟩

/-- **Somebody is to tell the worker.** -/
def Owing (x : Scene) : Prop :=
  .request ∈ x.owed ∨ .shutDown ∈ x.owed ∨ ∃ ticket, x.Calling ticket

/-- Where no call is about to tell the worker and one is put elsewhere,
those that are stay so. -/
theorem Calling.put (hnot : ¬x.Calling k.ticket) (h : x.Calling ticket) :
    (x.put k).Calling ticket := by
  obtain ⟨retrier, hcall⟩ := h
  refine ⟨retrier, ?_⟩
  have hother : ticket ≠ k.ticket := fun heq => hnot (heq ▸ ⟨retrier, hcall⟩)
  exact (if_neg hother).trans hcall

theorem Owing.put (hnot : ¬x.Calling k.ticket) (h : x.Owing) : (x.put k).Owing :=
  h.imp id (Or.imp id fun ⟨ticket, hcalling⟩ => ⟨ticket, hcalling.put hnot⟩)

/-- A notice to all callers leaves one that is about to tell the worker as
it is. -/
theorem Calling.callersTold (h : x.Calling ticket) : x.callersTold.Calling ticket := by
  obtain ⟨retrier, hcall⟩ := h
  refine ⟨retrier, ?_⟩
  exact congrArg (Option.map Call.noticed) hcall

theorem not_calling (h : x.call? ticket = some k) (hphase : k.phase ≠ .calling) :
    ¬x.Calling ticket := by
  rintro ⟨retrier, hcall⟩
  rw [h] at hcall
  exact hphase (congrArg Call.phase (Option.some.inj hcall))

theorem not_calling_of_none (h : x.call? ticket = none) : ¬x.Calling ticket := by
  rintro ⟨retrier, hcall⟩
  rw [h] at hcall
  cases hcall

/-- Who sleeps after a call was put where nobody sleeps slept before. -/
theorem asleep_of_put (hput : k.isAsleep = false) (h : (x.put k).call? ticket = some k')
    (hasleep : k'.isAsleep = true) : x.call? ticket = some k' := by
  rcases call_of_put h with ⟨-, rfl⟩ | ⟨-, hother⟩
  · rw [hput] at hasleep
    exact Bool.noConfusion hasleep
  · exact hother

/-- Nobody sleeps after a notice to all callers. -/
theorem awake_of_callersTold (h : x.callersTold.call? ticket = some k) : k.isAsleep = false := by
  obtain ⟨before, -, rfl⟩ := Option.map_eq_some_iff.1 h
  exact before.isAsleep_noticed

/-! ## The notices that stay owed -/

/-- Other notices stay owed when one is given. -/
theorem mem_eraseIdx_of_ne {owed : List Pledge} {i : Nat} {p q : Pledge}
    (hi : owed[i]? = some q) (hne : p ≠ q) (h : p ∈ owed) : p ∈ owed.eraseIdx i := by
  obtain ⟨j, hj⟩ := List.mem_iff_getElem?.1 h
  refine List.mem_eraseIdx_iff_getElem?.2 ⟨j, fun heq => hne ?_, hj⟩
  rw [heq, hi] at hj
  exact (Option.some.inj hj).symm

/-! ## The five facts -/

/-- **Who sleeps will be told.** -/
structure Told (x : Scene) : Prop where
  /-- The slot, its flags and the worker agree. -/
  agreed : Agreed x.direction x.worker
  /-- There is a worker, if only one that has ended. -/
  present : ∃ w, x.worker = some w
  /-- A worker that sleeps while its flag is up is owed a notice. -/
  worker : x.worker = some .asleep → x.direction.ready = false ∨ x.Owing
  /-- From the shutdown on the flag stays up until the worker leaves. -/
  up : x.direction.exit = true → ∀ w, x.worker = some w →
    w.hasLeft = true ∨ x.direction.ready = true
  /-- From the shutdown on every call that sleeps is owed a notice. -/
  callers : x.direction.exit = true → ∀ ticket k, x.call? ticket = some k → k.isAsleep = true →
    .shutDown ∈ x.owed ∨ .callers ∈ x.owed

/-- **Slot, flags and worker stay in agreement.** -/
theorem agreed_step (hstep : x.Step who y) (h : Agreed x.direction x.worker) :
    Agreed y.direction y.worker := by
  cases hstep with
  | issues buffer requester length runs free => exact h.accepted buffer free
  | submits ticket retrier buffer requester hk length runs free => exact h.accepted buffer free
  | collects owner t done => exact h.collected done
  | takes ticket retrier owner t hk done => exact h.collected done
  | tells ticket retrier hk => exact h.noticed
  | keepsRequest i hi => exact h.noticed
  | keepsShutDown i hi => exact h.noticed
  | shutsDown => exact h.shutDown
  | rests hw down => exact h.moved (by rw [hw]; rfl) rfl Bool.noConfusion
  | leaves hw up ended => exact (h.lowered ended).moved (by rw [hw]; rfl) rfl fun _ => ended
  | picksUp buffer hw up runs waits => exact h.pickedUp waits
  | looksAgain hw up runs vain =>
    obtain ⟨buffer, hpending⟩ := (h.ready_iff runs).1 up
    exact absurd hpending (vain buffer)
  | serves owner buffer attempt after hw length =>
    rw [hw] at h
    exact h.served _
  | publishes t hw =>
    rw [hw] at h
    exact h.published
  | announces hw => exact h.moved (by rw [hw]; rfl) rfl Bool.noConfusion
  | ends hw => exact h.moved (by rw [hw]; rfl) rfl fun _ => h.left .leaving hw rfl
  | _ => exact h

theorem present_step (hstep : x.Step who y) (h : ∃ w, x.worker = some w) :
    ∃ w, y.worker = some w := by
  obtain ⟨w, hw⟩ := h
  have hnoticed : x.worker.map WorkerPhase.noticed = some w.noticed := by rw [hw]; rfl
  cases hstep with
  | tells ticket retrier hk => exact ⟨_, hnoticed⟩
  | keepsRequest i hi => exact ⟨_, hnoticed⟩
  | keepsShutDown i hi => exact ⟨_, hnoticed⟩
  | rests hw down => exact ⟨_, rfl⟩
  | leaves hw up ended => exact ⟨_, rfl⟩
  | picksUp buffer hw up runs waits => exact ⟨_, rfl⟩
  | looksAgain hw up runs vain => exact ⟨_, rfl⟩
  | serves owner buffer attempt after hw length => exact ⟨_, rfl⟩
  | publishes t hw => exact ⟨_, rfl⟩
  | announces hw => exact ⟨_, rfl⟩
  | ends hw => exact ⟨_, rfl⟩
  | _ => exact ⟨w, hw⟩

/-- A worker that was just given a notice does not sleep. -/
theorem not_asleep_of_noticed {w? : Option WorkerPhase} :
    w?.map WorkerPhase.noticed ≠ some .asleep := by
  intro h
  obtain ⟨w, -, hw⟩ := Option.map_eq_some_iff.1 h
  exact w.noticed_ne_asleep hw

/-- **A worker that sleeps is told when its flag goes up.** -/
theorem worker_step (hstep : x.Step who y)
    (h : x.worker = some .asleep → x.direction.ready = false ∨ x.Owing) :
    y.worker = some .asleep → y.direction.ready = false ∨ y.Owing := by
  intro hw
  cases hstep with
  -- the flag goes up, and a notice is owed for it
  | issues buffer requester length runs free => exact .inr (.inl (by simp))
  | submits ticket retrier buffer requester hk length runs free =>
    exact .inr (.inr (.inr ⟨ticket, retrier, if_pos rfl⟩))
  | shutsDown => exact .inr (.inr (.inl (by simp)))
  -- the worker has its notice
  | tells ticket retrier hk => exact absurd hw not_asleep_of_noticed
  | keepsRequest i hi => exact absurd hw not_asleep_of_noticed
  | keepsShutDown i hi => exact absurd hw not_asleep_of_noticed
  -- what was owed to it stays owed
  | keepsCallers i hi =>
    refine (h hw).imp id fun howing => ?_
    rcases howing with hrequest | hshut | ⟨ticket, hcalling⟩
    · exact .inl (mem_eraseIdx_of_ne hi Pledge.noConfusion hrequest)
    · exact .inr (.inl (mem_eraseIdx_of_ne hi Pledge.noConfusion hshut))
    · exact .inr (.inr ⟨ticket, hcalling.callersTold⟩)
  | begins ticket element policy fresh =>
    exact (h hw).imp id fun howing => howing.put (not_calling_of_none fresh)
  | fails ticket retrier phase e hk awake told cause =>
    exact (h hw).imp id fun howing => howing.put (not_calling hk told)
  | takes ticket retrier owner t hk done =>
    have hnot : ¬x.Calling (Call.collected ⟨ticket, retrier, .checking⟩ t).ticket := by
      rw [Call.ticket_collected]
      exact not_calling hk CallPhase.noConfusion
    exact (h hw).imp id fun howing => howing.put hnot
  | fallsAsleep ticket retrier hk nothing runs =>
    exact (h hw).imp id fun howing => howing.put (not_calling hk CallPhase.noConfusion)
  | naps ticket retrier buffer delay hk runs =>
    exact (h hw).imp id fun howing => howing.put (not_calling hk CallPhase.noConfusion)
  | resumes ticket retrier buffer hk runs =>
    exact (h hw).imp id fun howing => howing.put (not_calling hk CallPhase.noConfusion)
  | timeUp ticket retrier buffer delay hk =>
    exact (h hw).imp id fun howing => howing.put (not_calling hk CallPhase.noConfusion)
  -- the worker itself has moved
  | rests hw' down => exact .inl down
  | leaves hw' up ended => cases hw
  | picksUp buffer hw' up runs waits => cases hw
  | looksAgain hw' up runs vain => cases hw
  | serves owner buffer attempt after hw' length => cases hw
  | publishes t hw' => cases hw
  | announces hw' => cases hw
  | ends hw' => cases hw
  | _ => exact h hw

/-- **From the shutdown on the flag stays up until the worker leaves.** -/
theorem up_step (hstep : x.Step who y)
    (h : x.direction.exit = true → ∀ w, x.worker = some w →
      w.hasLeft = true ∨ x.direction.ready = true) :
    y.direction.exit = true → ∀ w, y.worker = some w →
      w.hasLeft = true ∨ y.direction.ready = true := by
  -- a notice leaves the worker where it was in this respect
  have hnoticed (hexit : x.direction.exit = true) (w : WorkerPhase)
      (hw : x.worker.map WorkerPhase.noticed = some w) :
      w.hasLeft = true ∨ x.direction.ready = true := by
    obtain ⟨before, hbefore, rfl⟩ := Option.map_eq_some_iff.1 hw
    rw [before.hasLeft_noticed]
    exact h hexit before hbefore
  -- a worker that had not left finds the flag up
  have hawake {w : WorkerPhase} (hexit : x.direction.exit = true) (hw : x.worker = some w)
      (hthere : w.hasLeft = false) : x.direction.ready = true :=
    (h hexit w hw).resolve_left (by rw [hthere]; exact Bool.noConfusion)
  intro hexit w hw
  cases hstep with
  | issues buffer requester length runs free => exact .inr rfl
  | submits ticket retrier buffer requester hk length runs free => exact .inr rfl
  | shutsDown => exact .inr rfl
  | tells ticket retrier hk => exact hnoticed hexit w hw
  | keepsRequest i hi => exact hnoticed hexit w hw
  | keepsShutDown i hi => exact hnoticed hexit w hw
  | rests hw' down => exact .inr (hawake hexit hw' rfl)
  | leaves hw' up ended => cases hw; exact .inl rfl
  | picksUp buffer hw' up runs waits => exact absurd (hexit.symm.trans runs) Bool.noConfusion
  | looksAgain hw' up runs vain => exact absurd (hexit.symm.trans runs) Bool.noConfusion
  | serves owner buffer attempt after hw' length => exact .inr (hawake hexit hw' rfl)
  | publishes t hw' => exact .inr (hawake hexit hw' rfl)
  | announces hw' => exact .inr (hawake hexit hw' rfl)
  | ends hw' => cases hw; exact .inl rfl
  | _ => exact h hexit w hw

/-- **From the shutdown on every call that sleeps is owed a notice.** -/
theorem callers_step (hstep : x.Step who y)
    (h : x.direction.exit = true → ∀ ticket k, x.call? ticket = some k → k.isAsleep = true →
      .shutDown ∈ x.owed ∨ .callers ∈ x.owed) :
    y.direction.exit = true → ∀ ticket k, y.call? ticket = some k → k.isAsleep = true →
      .shutDown ∈ y.owed ∨ .callers ∈ y.owed := by
  intro hexit ticket k hk hasleep
  have hopen {P : Prop} (hexit : x.direction.exit = true) (runs : x.direction.exit = false) : P :=
    absurd (hexit.symm.trans runs) Bool.noConfusion
  -- a call that was put elsewhere and sleeps there slept before
  have hput {new : Call} (hexit : x.direction.exit = true)
      (hk : (x.put new).call? ticket = some k) (hnew : new.isAsleep = false) :
      .shutDown ∈ x.owed ∨ .callers ∈ x.owed :=
    h hexit ticket k (asleep_of_put hnew hk hasleep) hasleep
  have htold {P : Prop} (hk : x.callersTold.call? ticket = some k) : P :=
    absurd ((awake_of_callersTold hk).symm.trans hasleep) Bool.noConfusion
  cases hstep with
  | issues buffer requester length runs free => exact hopen hexit runs
  | shutsDown => exact .inl (by simp)
  -- nobody falls asleep after the shutdown
  | fallsAsleep other retrier hk' nothing runs => exact hopen hexit runs
  | naps other retrier buffer delay hk' runs => exact hopen hexit runs
  | begins other element policy fresh => exact hput hexit hk rfl
  | submits other retrier buffer requester hk' length runs free => exact hput hexit hk rfl
  | fails other retrier phase e hk' awake told cause => exact hput hexit hk rfl
  | tells other retrier hk' => exact hput hexit hk rfl
  | takes other retrier owner t hk' done => exact hput hexit hk (Call.isAsleep_collected _ t)
  | resumes other retrier buffer hk' runs => exact hput hexit hk rfl
  | timeUp other retrier buffer delay hk' => exact hput hexit hk rfl
  -- what is owed to the callers stays owed until it is given
  | keepsRequest i hi =>
    exact (h hexit ticket k hk hasleep).imp (mem_eraseIdx_of_ne hi Pledge.noConfusion)
      (mem_eraseIdx_of_ne hi Pledge.noConfusion)
  | keepsShutDown i hi =>
    obtain ⟨hlt, -⟩ := List.getElem?_eq_some_iff.1 hi
    exact .inr (List.mem_set hlt .callers)
  | keepsCallers i hi => exact htold hk
  | announces hw => exact htold hk
  | ends hw => exact htold hk
  | _ => exact h hexit ticket k hk hasleep

/-- **Every step of every thread keeps the sleepers owed their notices.** -/
theorem Told.step (hstep : x.Step who y) (h : x.Told) : y.Told :=
  ⟨agreed_step hstep h.agreed, present_step hstep h.present, worker_step hstep h.worker,
    up_step hstep h.up, callers_step hstep h.callers⟩

end Scene

namespace Vigil

variable {v : Vigil}

theorem told_start (view : View) (role : Role) (elementSize : UInt64) (s : Store) :
    (start view role elementSize s).scene.Told := by
  have hagreed : Agreed { role, elementSize } (some .looking) :=
    (Agreed.new role elementSize).moved rfl rfl Bool.noConfusion
  exact ⟨hagreed, ⟨_, rfl⟩, fun hw => (by cases hw), fun hexit => Bool.noConfusion hexit,
    fun hexit => Bool.noConfusion hexit⟩

/-- **In every order of steps, who sleeps will be told.** -/
theorem told_run (view : View) (role : Role) (elementSize : UInt64) (s : Store)
    (acts : List Act) : ((start view role elementSize s).run acts).scene.Told :=
  scene_run (numbered_start view role elementSize s) acts (told_start view role elementSize s)
    fun _ _ _ hstep h => h.step hstep

/-- **Who has shut the direction down tells all callers** with the notices
that are still owed. -/
theorem told_of_owed (howed : .shutDown ∈ v.owed ∨ .callers ∈ v.owed) :
    ∃ notices : List Act, (∀ a ∈ notices, ∃ i, a = .keep i) ∧
      ∀ ticket, (v.run notices).call? ticket = (v.call? ticket).map Call.noticed := by
  have hcallers {v : Vigil} (howed : .callers ∈ v.owed) :
      ∃ i, ∀ ticket, (v.act (.keep i)).call? ticket = (v.call? ticket).map Call.noticed := by
    obtain ⟨i, hi⟩ := List.mem_iff_getElem?.1 howed
    refine ⟨i, fun ticket => ?_⟩
    simp only [act, hi]
    exact v.call?_callersTold ticket
  rcases howed with hshut | howed
  · -- the worker is told first, and then the callers
    obtain ⟨i, hi⟩ := List.mem_iff_getElem?.1 hshut
    obtain ⟨hlt, -⟩ := List.getElem?_eq_some_iff.1 hi
    have hact : v.act (.keep i) =
        { course := v.course.turn .rouseWorker, owed := v.owed.set i .callers } := by
      simp only [act, hi]
    have hcallers' : .callers ∈ (v.act (.keep i)).owed := by
      rw [hact]
      exact List.mem_set hlt .callers
    obtain ⟨j, hj⟩ := hcallers hcallers'
    refine ⟨[.keep i, .keep j], by simp, fun ticket => ?_⟩
    rw [hact] at hj
    exact (congrArg (call? · ticket) (congrArg (act · (.keep j)) hact)).trans (hj ticket)
  · obtain ⟨i, hi⟩ := hcallers howed
    exact ⟨[.keep i], by simp, hi⟩

end Vigil

end TwinRing
