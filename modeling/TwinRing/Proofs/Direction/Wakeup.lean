import TwinRing.Proofs.Direction.Floor
import TwinRing.Proofs.Direction.Notices
/-!
# Lanes under way — no wake-up is lost

A caller that is alone on its lane gives the notice it owes, and lets its
blocking call return, before it does anything else. Others may shut the
direction down at any step, and as often as they like. Then a call that
sleeps for its result is the only one under way (`Lone.one`), its request
is still with the worker (`Lone.served`), and from there the worker's own
steps lead to the notice; or the direction is shut down, and somebody owes
the notice. `wakeups_are_kept` has both, and the steps of others that wake
the sleeper.
-/

namespace TwinRing

namespace Vigil

/-- Whether a caller that is alone can do something new. -/
def isFree (v : Vigil) : Bool := !v.course.isBusy && !v.owed.contains .request

/-- **An act, if a caller that is alone can do it.** -/
def soleAct (v : Vigil) (a : Act) : Vigil :=
  match a.thread with
  | .caller => if v.isFree then v.act a else v
  | _ => v.act a

def runSole (v : Vigil) (acts : List Act) : Vigil := acts.foldl soleAct v

end Vigil

/-- A call that has collected a result waits for none. -/
theorem Call.standingAfter_ne_waiting (t : Transfer) : standingAfter t ≠ .waiting := by
  unfold standingAfter
  split <;> exact Standing.noConfusion

namespace Scene

variable {x y : Scene} {who : Thread} {ticket : Nat} {k k' : Call}

/-! ## Calls under way -/

/-- Whether the call with a ticket is under way. -/
def Runs (x : Scene) (ticket : Nat) : Prop := ∃ k, x.call? ticket = some k ∧ k.result? = none

theorem runs_of_put (h : (x.put k).Runs ticket) : ticket = k.ticket ∨ x.Runs ticket := by
  obtain ⟨k', hk', hrunning⟩ := h
  exact (call_of_put hk').imp And.left fun hother => ⟨k', hother.2, hrunning⟩

theorem runs_of_callersTold (h : x.callersTold.Runs ticket) : x.Runs ticket := by
  obtain ⟨k, hk, hrunning⟩ := h
  obtain ⟨before, hbefore, rfl⟩ := Option.map_eq_some_iff.1 hk
  refine ⟨before, hbefore, ?_⟩
  obtain ⟨ticket, retrier, phase⟩ := before
  cases phase <;> first | rfl | exact hrunning

/-- **Only a caller starts a call.** -/
theorem runs_step (hstep : x.Step who y) (hwho : who ≠ .caller) (h : y.Runs ticket) :
    x.Runs ticket := by
  -- the call that was put elsewhere was under way before
  have hput {k before : Call} (hbefore : x.call? k.ticket = some before)
      (hrunning : before.result? = none) (h : (x.put k).Runs ticket) : x.Runs ticket :=
    (runs_of_put h).elim (fun hsame => hsame ▸ ⟨before, hbefore, hrunning⟩) id
  cases hstep with
  | refused => exact absurd rfl hwho
  | issues buffer requester length runs free => exact absurd rfl hwho
  | collects owner t done => exact absurd rfl hwho
  | begins other element policy fresh => exact absurd rfl hwho
  | submits other retrier buffer requester hk length runs free =>
    exact hput (k := ⟨other, retrier, .calling⟩) hk rfl h
  | fails other retrier phase e hk awake told cause =>
    exact hput (k := ⟨other, retrier, .returned (.error e)⟩) hk (Call.result?_of_awake awake) h
  | tells other retrier hk => exact hput (k := ⟨other, retrier, .checking⟩) hk rfl h
  | takes other retrier owner t hk done =>
    exact hput (k := Call.collected ⟨other, retrier, .checking⟩ t)
      (by rw [Call.ticket_collected]; exact hk) rfl h
  | fallsAsleep other retrier hk nothing runs =>
    exact hput (k := ⟨other, retrier, .asleep⟩) hk rfl h
  | naps other retrier buffer delay hk runs =>
    exact hput (k := ⟨other, retrier, .napping buffer delay⟩) hk rfl h
  | resumes other retrier buffer hk runs =>
    exact hput (k := ⟨other, retrier, .submitting buffer⟩) hk rfl h
  | timeUp other retrier buffer delay hk =>
    exact hput (k := ⟨other, retrier, .roused buffer⟩) hk rfl h
  | keepsCallers i hi => exact runs_of_callersTold h
  | announces hw => exact runs_of_callersTold h
  | ends hw => exact runs_of_callersTold h
  | _ => exact h

/-! ## A caller that is alone -/

/-- No call is under way, and no caller owes its notice. -/
def Free (x : Scene) : Prop := (∀ ticket, ¬x.Runs ticket) ∧ .request ∉ x.owed

/-- **One thing at a time.** -/
structure Lone (x : Scene) : Prop where
  /-- At most one call is under way. -/
  one : ∀ ticket other, x.Runs ticket → x.Runs other → ticket = other
  /-- No call is under way while a caller owes its notice. -/
  told : .request ∈ x.owed → ∀ ticket, ¬x.Runs ticket
  /-- The slot is not free while a call waits for its result. -/
  kept : ∀ ticket k, x.call? ticket = some k → k.standing = .waiting → x.direction.request ≠ .empty
  /-- The request of a call that sleeps is with the worker, or the worker
  is about to tell of it, unless the direction is shut down. -/
  served : x.direction.exit = false → ∀ ticket k, x.call? ticket = some k → k.phase = .asleep →
    (∃ buffer, x.direction.request = .pending buffer) ∨ x.direction.request = .servicing ∨
      x.worker = some .announcing

theorem runs_of_waiting (h : x.call? ticket = some k) (hwaits : k.standing = .waiting) :
    x.Runs ticket := by
  refine ⟨k, h, Call.result?_of_running fun r hr => ?_⟩
  rw [hwaits] at hr
  exact Standing.noConfusion hr

/-- **A caller that is alone starts one call at most.** -/
theorem one_step (hstep : x.Step who y) (hfree : who = .caller → x.Free) (h : x.Lone) :
    ∀ ticket other, y.Runs ticket → y.Runs other → ticket = other := by
  intro ticket other hticket hother
  by_cases hwho : who = .caller
  · obtain ⟨hnone, -⟩ := hfree hwho
    cases hstep with
    | begins new element policy fresh =>
      have hnew : ticket = new := (runs_of_put hticket).resolve_right (hnone ticket)
      have hnew' : other = new := (runs_of_put hother).resolve_right (hnone other)
      rw [hnew, hnew']
    | refused => exact h.one ticket other hticket hother
    | issues buffer requester length runs free => exact h.one ticket other hticket hother
    | collects owner t done => exact h.one ticket other hticket hother
    | _ => cases hwho
  · exact h.one ticket other (runs_step hstep hwho hticket) (runs_step hstep hwho hother)

/-- **A notice that a caller owes is given before it starts a call.** -/
theorem told_step (hstep : x.Step who y) (hfree : who = .caller → x.Free) (h : x.Lone) :
    .request ∈ y.owed → ∀ ticket, ¬y.Runs ticket := by
  intro howed ticket hruns
  by_cases hwho : who = .caller
  · obtain ⟨hnone, hgiven⟩ := hfree hwho
    cases hstep with
    | begins new element policy fresh => exact hgiven howed
    | refused => exact hnone ticket hruns
    | issues buffer requester length runs free => exact hnone ticket hruns
    | collects owner t done => exact hnone ticket hruns
    | _ => cases hwho
  · refine h.told ?_ ticket (runs_step hstep hwho hruns)
    cases hstep with
    | issues buffer requester length runs free => exact absurd rfl hwho
    | shutsDown => simpa using howed
    | keepsRequest i hi => exact List.mem_of_mem_eraseIdx howed
    | keepsCallers i hi => exact List.mem_of_mem_eraseIdx howed
    | keepsShutDown i hi =>
      exact (List.mem_or_eq_of_mem_set howed).resolve_right Pledge.noConfusion
    | _ => exact howed

/-- Nobody waits after a call has collected the result of the only one
under way. -/
theorem Lone.not_waiting_of_takes {other : Nat} {retrier : Retrier} {t : Transfer} (h : x.Lone)
    (hother : x.call? other = some ⟨other, retrier, .checking⟩)
    (hk : (x.put (Call.collected ⟨other, retrier, .checking⟩ t)).call? ticket = some k) :
    k.standing ≠ .waiting := by
  intro hwaits
  rcases call_of_put hk with ⟨-, rfl⟩ | ⟨hne, hbefore⟩
  · rw [Call.standing_collected] at hwaits
    exact Call.standingAfter_ne_waiting t hwaits
  · -- two calls would be under way
    rw [Call.ticket_collected] at hne
    exact hne (h.one ticket other (runs_of_waiting hbefore hwaits) ⟨_, hother, rfl⟩)

/-- **Nobody but the caller frees the slot.** -/
theorem kept_step (hstep : x.Step who y) (hfree : who = .caller → x.Free) (h : x.Lone) :
    ∀ ticket k, y.call? ticket = some k → k.standing = .waiting →
      y.direction.request ≠ .empty := by
  intro ticket k hk hwaits
  -- a call that was put elsewhere and waits there waited before
  have hput {new before : Call} (hk : (x.put new).call? ticket = some k)
      (hbefore : x.call? new.ticket = some before)
      (hstill : new.standing = .waiting → before.standing = .waiting) :
      x.direction.request ≠ .empty := by
    rcases call_of_put hk with ⟨-, rfl⟩ | ⟨-, hother⟩
    · exact h.kept _ before hbefore (hstill hwaits)
    · exact h.kept ticket k hother hwaits
  -- a notice does not change what a call waits for
  have htold (hk : x.callersTold.call? ticket = some k) : x.direction.request ≠ .empty := by
    obtain ⟨before, hbefore, rfl⟩ := Option.map_eq_some_iff.1 hk
    exact h.kept ticket before hbefore (by rwa [Call.standing_noticed] at hwaits)
  cases hstep with
  | issues buffer requester length runs free => exact Request.noConfusion
  | collects owner t done =>
    exact absurd (runs_of_waiting (x := x) hk hwaits) ((hfree rfl).1 ticket)
  | begins new element policy fresh =>
    rcases call_of_put hk with ⟨-, rfl⟩ | ⟨-, hother⟩
    · exact Standing.noConfusion hwaits
    · exact h.kept ticket k hother hwaits
  | submits other retrier buffer requester hk' length runs free => exact Request.noConfusion
  | fails other retrier phase e hk' awake told cause => exact hput hk hk' Standing.noConfusion
  | tells other retrier hk' => exact hput hk hk' fun _ => rfl
  | takes other retrier owner t hk' done => exact absurd hwaits (h.not_waiting_of_takes hk' hk)
  | fallsAsleep other retrier hk' nothing runs => exact hput hk hk' fun _ => rfl
  | naps other retrier buffer delay hk' runs => exact hput hk hk' Standing.noConfusion
  | resumes other retrier buffer hk' runs => exact hput hk hk' Standing.noConfusion
  | timeUp other retrier buffer delay hk' => exact hput hk hk' Standing.noConfusion
  | keepsCallers i hi => exact htold hk
  | announces hw => exact htold hk
  | ends hw => exact htold hk
  | picksUp buffer hw up runs waits => exact Request.noConfusion
  | publishes t hw => exact Request.noConfusion
  | _ => exact h.kept ticket k hk hwaits

/-- **The request of a sleeper stays with the worker** until it tells. -/
theorem served_step (hstep : x.Step who y) (hfree : who = .caller → x.Free) (h : x.Lone) :
    y.direction.exit = false → ∀ ticket k, y.call? ticket = some k → k.phase = .asleep →
      (∃ buffer, y.direction.request = .pending buffer) ∨ y.direction.request = .servicing ∨
        y.worker = some .announcing := by
  intro hexit ticket k hk hasleep
  have hwaits : k.standing = .waiting := by rw [Call.standing, hasleep]; rfl
  -- a call that sleeps slept before, if none was put to sleep
  have hput {new : Call} (hk : (x.put new).call? ticket = some k) (hawake : new.phase ≠ .asleep) :
      x.call? ticket = some k := by
    rcases call_of_put hk with ⟨-, rfl⟩ | ⟨-, hother⟩
    · exact absurd hasleep hawake
    · exact hother
  -- nobody sleeps after a notice to all
  have htold (hk : x.callersTold.call? ticket = some k) : False := by
    have hawake := awake_of_callersTold hk
    rw [Call.isAsleep, hasleep] at hawake
    exact Bool.noConfusion hawake
  have hnoticed (h : x.worker = some .announcing) :
      x.worker.map WorkerPhase.noticed = some .announcing := by rw [h]; rfl
  -- a worker that is not about to tell has the request still before it
  have hbefore {w : WorkerPhase} (hexit : x.direction.exit = false)
      (hk : x.call? ticket = some k) (hw : x.worker = some w) (hne : w ≠ .announcing) :
      (∃ buffer, x.direction.request = .pending buffer) ∨ x.direction.request = .servicing :=
    (or_assoc.2 (h.served hexit ticket k hk hasleep)).resolve_right fun htells =>
      hne (Option.some.inj (hw.symm.trans htells))
  cases hstep with
  | issues buffer requester length runs free => exact .inl ⟨buffer, rfl⟩
  | collects owner t done =>
    exact absurd (runs_of_waiting (x := x) hk hwaits) ((hfree rfl).1 ticket)
  | begins new element policy fresh =>
    exact h.served hexit ticket k (hput hk CallPhase.noConfusion) hasleep
  | submits other retrier buffer requester hk' length runs free => exact .inl ⟨buffer, rfl⟩
  | fails other retrier phase e hk' awake told cause =>
    exact h.served hexit ticket k (hput hk CallPhase.noConfusion) hasleep
  | tells other retrier hk' =>
    exact (h.served hexit ticket k (hput hk CallPhase.noConfusion) hasleep).imp id
      (Or.imp id hnoticed)
  | takes other retrier owner t hk' done => exact absurd hwaits (h.not_waiting_of_takes hk' hk)
  | fallsAsleep other retrier hk' nothing runs =>
    -- it looked for its result in vain, and the slot was not free
    have hkept := h.kept other _ hk' rfl
    cases hrequest : x.direction.request with
    | pending buffer => exact .inl ⟨buffer, hrequest⟩
    | servicing => exact .inr (.inl hrequest)
    | finished t => exact absurd hrequest (nothing t)
    | empty => exact absurd hrequest hkept
  | naps other retrier buffer delay hk' runs =>
    exact h.served hexit ticket k (hput hk CallPhase.noConfusion) hasleep
  | resumes other retrier buffer hk' runs =>
    exact h.served hexit ticket k (hput hk CallPhase.noConfusion) hasleep
  | timeUp other retrier buffer delay hk' =>
    exact h.served hexit ticket k (hput hk CallPhase.noConfusion) hasleep
  | shutsDown => exact Bool.noConfusion hexit
  | keepsRequest i hi => exact (h.served hexit ticket k hk hasleep).imp id (Or.imp id hnoticed)
  | keepsShutDown i hi => exact (h.served hexit ticket k hk hasleep).imp id (Or.imp id hnoticed)
  | keepsCallers i hi => exact (htold hk).elim
  | announces hw => exact (htold hk).elim
  | ends hw => exact (htold hk).elim
  | publishes t hw => exact .inr (.inr rfl)
  | picksUp buffer hw up runs waits => exact .inr (.inl rfl)
  | leaves hw up ended => exact absurd (ended.symm.trans hexit) Bool.noConfusion
  | rests hw down => exact (hbefore hexit hk hw WorkerPhase.noConfusion).imp id .inl
  | looksAgain hw up runs vain => exact (hbefore hexit hk hw WorkerPhase.noConfusion).imp id .inl
  | serves owner buffer attempt after hw length =>
    exact (hbefore hexit hk hw WorkerPhase.noConfusion).imp id .inl
  | _ => exact h.served hexit ticket k hk hasleep

/-- **Every step that a caller that is alone allows keeps it alone.** -/
theorem Lone.step (hstep : x.Step who y) (hfree : who = .caller → x.Free) (h : x.Lone) : y.Lone :=
  ⟨one_step hstep hfree h, told_step hstep hfree h, kept_step hstep hfree h,
    served_step hstep hfree h⟩

end Scene

namespace Vigil

variable {v : Vigil} {ticket : Nat} {k : Call}

/-! ## Runs of a lane with one caller -/

theorem free_of_isFree (h : v.isFree = true) : v.scene.Free := by
  rw [isFree, Bool.and_eq_true, Bool.not_eq_true', Bool.not_eq_true'] at h
  obtain ⟨hbusy, howed⟩ := h
  refine ⟨fun ticket hruns => ?_, fun hmem => ?_⟩
  · obtain ⟨k, hk, hrunning⟩ := hruns
    have hk : v.course.lane.handshake.calls.find? (·.ticket == ticket) = some k := hk
    have hidle := List.any_eq_false.1 hbusy k (List.mem_of_find?_eq_some hk)
    rw [hrunning] at hidle
    exact hidle rfl
  · have hmem : Pledge.request ∈ v.owed := hmem
    rw [List.contains_iff_mem.2 hmem] at howed
    exact Bool.noConfusion howed

/-- It is an act like any other, by a caller only if it is free, or none. -/
theorem soleAct_cases (v : Vigil) (a : Act) :
    v.soleAct a = v ∨ v.soleAct a = v.act a ∧ (a.thread = .caller → v.scene.Free) := by
  unfold soleAct
  split
  · split
    · exact .inr ⟨rfl, fun _ => free_of_isFree ‹_›⟩
    · exact .inl rfl
  · rename_i hwho
    exact .inr ⟨rfl, fun h => absurd h hwho⟩

/-- **What a caller that is alone keeps true.** -/
structure Watched (v : Vigil) : Prop where
  numbered : v.course.Numbered
  told : v.scene.Told
  lone : v.scene.Lone

theorem Watched.soleAct (h : v.Watched) (a : Act) : (v.soleAct a).Watched := by
  rcases v.soleAct_cases a with hsame | ⟨hact, hfree⟩
  · rw [hsame]
    exact h
  · have hstep := step_act h.numbered a
    rw [hact]
    exact ⟨numbered_act h.numbered a, h.told.step hstep, h.lone.step hstep hfree⟩

theorem watched_start (view : View) (role : Role) (elementSize : UInt64) (s : Store) :
    (start view role elementSize s).Watched := by
  have hnone (ticket : Nat) : (start view role elementSize s).scene.call? ticket = none := rfl
  have hidle (ticket : Nat) : ¬(start view role elementSize s).scene.Runs ticket := by
    rintro ⟨k, hk, -⟩
    rw [hnone] at hk
    cases hk
  exact ⟨numbered_start view role elementSize s, told_start view role elementSize s,
    ⟨fun ticket other h _ => absurd h (hidle ticket), fun _ => hidle,
      fun ticket k hk => (by rw [hnone] at hk; cases hk),
      fun _ ticket k hk => (by rw [hnone] at hk; cases hk)⟩⟩

theorem watched_runSole (view : View) (role : Role) (elementSize : UInt64) (s : Store)
    (acts : List Act) : ((start view role elementSize s).runSole acts).Watched := by
  have h := watched_start view role elementSize s
  revert h
  generalize start view role elementSize s = v
  intro h
  induction acts generalizing v with
  | nil => exact h
  | cons a rest ih => exact ih _ (h.soleAct a)

/-! ## The steps that wake the sleeper -/

/-- **Others can wake the call with a ticket**: the worker takes steps and
notices that are owed are given, and then the call looks for its result
again. -/
def Wakes (v : Vigil) (ticket : Nat) : Prop :=
  ∃ others : List Act, (∀ a ∈ others, a = .worker ∨ ∃ i, a = .keep i) ∧
    ∃ k, (v.run others).call? ticket = some k ∧ k.phase = .checking

theorem Wakes.after {a : Act} (ha : a = .worker ∨ ∃ i, a = .keep i) (h : (v.act a).Wakes ticket) :
    v.Wakes ticket := by
  obtain ⟨others, hothers, hwoken⟩ := h
  exact ⟨a :: others, List.forall_mem_cons.2 ⟨ha, hothers⟩, hwoken⟩

/-- A worker that is about to tell wakes it at once. -/
theorem wakes_of_announcing (hw : v.worker = some .announcing) (hk : v.call? ticket = some k)
    (hasleep : k.phase = .asleep) : v.Wakes ticket := by
  have hnext : (v.act .worker).scene.call? = v.scene.callersTold.call? := by
    have hstep := v.step_worker
    generalize (v.act .worker).scene = y at hstep ⊢
    have hworker : v.scene.worker = some .announcing := hw
    cases hstep with
    | announces _ => rfl
    | idle hquiet => exact absurd (hquiet _ hworker) Bool.noConfusion
    | ends _ => rfl
    | _ => simp_all
  refine ⟨[.worker], by simp, k.noticed, ?_, by rw [Call.noticed, hasleep]⟩
  exact (congrFun hnext ticket).trans (congrArg (Option.map Call.noticed) hk)

/-- A worker that is about to hand its result back hands it back first. -/
theorem wakes_of_publishing {t : Transfer} (hw : v.worker = some (.publishing t))
    (hk : v.call? ticket = some k) (hasleep : k.phase = .asleep) : v.Wakes ticket := by
  have hnext : (v.act .worker).scene.worker = some .announcing ∧
      (v.act .worker).scene.call? = v.scene.call? := by
    have hstep := v.step_worker
    generalize (v.act .worker).scene = y at hstep ⊢
    have hworker : v.scene.worker = some (.publishing t) := hw
    cases hstep with
    | publishes _ _ => exact ⟨rfl, rfl⟩
    | idle hquiet => exact absurd (hquiet _ hworker) Bool.noConfusion
    | _ => simp_all
  exact (wakes_of_announcing hnext.1 ((congrFun hnext.2 ticket).trans hk) hasleep).after (.inl rfl)

/-- A worker that is about to go to the ring goes there first. -/
theorem wakes_of_serving {buffer : Bytes} (hw : v.worker = some (.serving buffer))
    (hk : v.call? ticket = some k) (hasleep : k.phase = .asleep) : v.Wakes ticket := by
  have hnext : (∃ t, (v.act .worker).scene.worker = some (.publishing t)) ∧
      (v.act .worker).scene.call? = v.scene.call? := by
    have hstep := v.step_worker
    generalize (v.act .worker).scene = y at hstep ⊢
    have hworker : v.scene.worker = some (.serving buffer) := hw
    cases hstep with
    | serves _ _ _ _ _ _ => exact ⟨⟨_, rfl⟩, rfl⟩
    | idle hquiet => exact absurd (hquiet _ hworker) Bool.noConfusion
    | _ => simp_all
  obtain ⟨⟨t, hnext⟩, hcalls⟩ := hnext
  exact (wakes_of_publishing hnext ((congrFun hcalls ticket).trans hk) hasleep).after (.inl rfl)

/-- A worker that is about to look for a request that is there picks it up
first. -/
theorem wakes_of_looking {buffer : Bytes} (hw : v.worker = some .looking)
    (hready : v.direction.ready = true) (hexit : v.direction.exit = false)
    (hpending : v.direction.request = .pending buffer) (hk : v.call? ticket = some k)
    (hasleep : k.phase = .asleep) : v.Wakes ticket := by
  have hnext : (v.act .worker).scene.worker = some (.serving buffer) ∧
      (v.act .worker).scene.call? = v.scene.call? := by
    have hstep := v.step_worker
    generalize (v.act .worker).scene = y at hstep ⊢
    have hworker : v.scene.worker = some .looking := hw
    have hup : v.scene.direction.ready = true := hready
    have hruns : v.scene.direction.exit = false := hexit
    have hslot : v.scene.direction.request = .pending buffer := hpending
    cases hstep with
    | picksUp _ _ _ _ _ => simp_all
    | idle hquiet => exact absurd (hquiet _ hworker) Bool.noConfusion
    | _ => simp_all
  exact (wakes_of_serving hnext.1 ((congrFun hnext.2 ticket).trans hk) hasleep).after (.inl rfl)

/-- **Who has shut the direction down wakes it.** -/
theorem wakes_of_owed (howed : .shutDown ∈ v.owed ∨ .callers ∈ v.owed)
    (hk : v.call? ticket = some k) (hasleep : k.phase = .asleep) : v.Wakes ticket := by
  obtain ⟨notices, hnotices, htold⟩ := told_of_owed howed
  refine ⟨notices, fun a ha => .inr (hnotices a ha), k.noticed, ?_, ?_⟩
  · rw [htold, hk, Option.map_some]
  · rw [Call.noticed, hasleep]

/-- Call and worker sleep at once only in a shutdown whose notices are
still owed. -/
theorem Watched.wakes_of_asleep (h : v.Watched) (hw : v.worker = some .asleep)
    (hready : v.direction.ready = true) (hk : v.call? ticket = some k)
    (hasleep : k.phase = .asleep) : v.Wakes ticket := by
  have hruns : v.scene.Runs ticket :=
    Scene.runs_of_waiting hk (by rw [Call.standing, hasleep]; rfl)
  rcases h.told.worker hw with hdown | hrequest | hshut | ⟨other, retrier, hcalling⟩
  · exact absurd (hready.symm.trans hdown) Bool.noConfusion
  · exact absurd hruns (h.lone.told hrequest ticket)
  · exact wakes_of_owed (.inl hshut) hk hasleep
  · -- the only call under way sleeps, and tells nobody
    obtain rfl := h.lone.one ticket other hruns ⟨_, hcalling, rfl⟩
    rw [Option.some.inj (hk.symm.trans hcalling)] at hasleep
    exact CallPhase.noConfusion hasleep

/-- **A sleeper can be woken.** -/
theorem Watched.wakes (h : v.Watched) (hk : v.call? ticket = some k) (hasleep : k.phase = .asleep) :
    v.Wakes ticket := by
  cases hexit : v.direction.exit with
  | true =>
    exact wakes_of_owed
      (h.told.callers hexit ticket k hk (by rw [Call.isAsleep, hasleep])) hk hasleep
  | false =>
    have hagreed : Agreed v.direction v.worker := h.told.agreed
    obtain ⟨w, hw⟩ : ∃ w, v.worker = some w := h.told.present
    rcases h.lone.served hexit ticket k hk hasleep with ⟨buffer, hpending⟩ | hservicing | hannounce
    · have hready : v.direction.ready = true := (hagreed.ready_iff hexit).2 ⟨buffer, hpending⟩
      cases w with
      | looking => exact wakes_of_looking hw hready hexit hpending hk hasleep
      | asleep => exact h.wakes_of_asleep hw hready hk hasleep
      | serving b => exact wakes_of_serving hw hk hasleep
      | publishing t => exact wakes_of_publishing hw hk hasleep
      | announcing => exact wakes_of_announcing hw hk hasleep
      | leaving => exact absurd ((hagreed.left _ hw rfl).symm.trans hexit) Bool.noConfusion
      | stopped => exact absurd ((hagreed.left _ hw rfl).symm.trans hexit) Bool.noConfusion
    · rcases handOf_ne_free_iff.1 (hagreed.servicing_iff.1 hservicing) with ⟨b, hw⟩ | ⟨t, hw⟩
      · exact wakes_of_serving hw hk hasleep
      · exact wakes_of_publishing hw hk hasleep
    · exact wakes_of_announcing hannounce hk hasleep

/-- **No wake-up is lost** on a lane with one caller, in any order of steps
of caller, worker and whoever shuts the direction down. A worker that
sleeps has its flag down, or somebody who has raised it owes it a notice.
A call that sleeps for its result has its request in the slot with the
worker's flag up, or the worker has it in hand or is about to tell of it,
or somebody who has shut the direction down owes a notice to all. And the
steps of others alone can wake the call. -/
theorem wakeups_are_kept (view : View) (role : Role) (elementSize : UInt64) (s : Store)
    (acts : List Act) :
    let v := (start view role elementSize s).runSole acts
    (v.worker = some .asleep → v.direction.ready = false ∨ .request ∈ v.owed ∨
        .shutDown ∈ v.owed ∨ ∃ ticket k, v.call? ticket = some k ∧ k.phase = .calling) ∧
      ∀ ticket k, v.call? ticket = some k → k.phase = .asleep →
        ((∃ buffer, v.direction.request = .pending buffer) ∧ v.direction.ready = true ∨
          (∃ buffer, v.worker = some (.serving buffer)) ∨
          (∃ result, v.worker = some (.publishing result)) ∨ v.worker = some .announcing ∨
          .shutDown ∈ v.owed ∨ .callers ∈ v.owed) ∧
        .request ∉ v.owed ∧ v.Wakes ticket := by
  intro v
  have h : v.Watched := watched_runSole view role elementSize s acts
  refine ⟨fun hw => ?_, fun ticket k hk hasleep => ⟨?_, fun hrequest => ?_, h.wakes hk hasleep⟩⟩
  · refine (h.told.worker hw).imp id (Or.imp id (Or.imp id ?_))
    exact fun ⟨ticket, retrier, hcalling⟩ => ⟨ticket, _, hcalling, rfl⟩
  · cases hexit : v.direction.exit with
    | true =>
      exact .inr (.inr (.inr (.inr
        (h.told.callers hexit ticket k hk (by rw [Call.isAsleep, hasleep])))))
    | false =>
      have hagreed : Agreed v.direction v.worker := h.told.agreed
      rcases h.lone.served hexit ticket k hk hasleep with hpending | hservicing | hannounce
      · exact .inl ⟨hpending, (hagreed.ready_iff hexit).2 hpending⟩
      · rcases handOf_ne_free_iff.1 (hagreed.servicing_iff.1 hservicing) with hserving | hpublishing
        · exact .inr (.inl hserving)
        · exact .inr (.inr (.inl hpublishing))
      · exact .inr (.inr (.inr (.inl hannounce)))
  · exact h.lone.told hrequest ticket
      (Scene.runs_of_waiting hk (by rw [Call.standing, hasleep]; rfl))

end Vigil

end TwinRing
