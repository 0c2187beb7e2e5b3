import TwinRing.Proofs.Direction.Scene
import TwinRing.Proofs.Segment.Memory
/-!
# Lanes under way — every act of a vigil is a step of its thread

`step_act` says that every act of a vigil does to the scene what
`Scene.Step` has for the thread whose act it is. The calls of a course are
kept in a list and found by their tickets; the first part says what each
act does to what is found, the second reads the sections of callers and
worker one by one. `scene_run` then takes what every step keeps to every
list of acts.
-/

namespace TwinRing

/-! ## The calls of a course -/

namespace Course

variable {c : Course} {ticket : Nat} {k : Call}

/-- Every call has a ticket that was given out. -/
def Numbered (c : Course) : Prop := ∀ k ∈ c.lane.handshake.calls, k.ticket < c.nextTicket

theorem Numbered.call?_eq_none (h : c.Numbered) : c.call? c.nextTicket = none := by
  refine List.find?_eq_none.2 fun k hk heq => ?_
  have hlt := h k hk
  rw [beq_iff_eq.1 heq] at hlt
  exact Nat.lt_irrefl _ hlt

/-- Changes that keep tickets keep all calls numbered. -/
theorem Numbered.of_calls {c' : Course} {f : Call → Call} (h : c.Numbered)
    (hcalls : c'.lane.handshake.calls = c.lane.handshake.calls.map f)
    (hticket : ∀ k, (f k).ticket = k.ticket) (hnext : c'.nextTicket = c.nextTicket) :
    c'.Numbered := by
  intro k hk
  rw [hcalls] at hk
  obtain ⟨before, hbefore, rfl⟩ := List.mem_map.1 hk
  rw [hticket, hnext]
  exact h before hbefore

theorem Numbered.of_same {c' : Course} (h : c.Numbered)
    (hcalls : c'.lane.handshake.calls = c.lane.handshake.calls)
    (hnext : c'.nextTicket = c.nextTicket) : c'.Numbered :=
  h.of_calls (f := id) (by rw [List.map_id, hcalls]) (fun _ => rfl) hnext

/-- **No turn gives out a ticket twice.** -/
theorem Numbered.turn (h : c.Numbered) (t : Turn) : (c.turn t).Numbered := by
  cases t with
  | spawn =>
    rcases c.turn_spawn with ⟨-, hturn⟩ | ⟨-, hturn⟩ <;> rw [hturn]
    · exact h.of_same rfl rfl
    · exact h
  | submit buffer =>
    refine h.of_same ?_ ?_
    · simp only [Course.turn, moved, Lane.onHandshake, Handshake.submit]
      split <;> rfl
    · simp only [Course.turn, moved, Course.nextTicket, Lane.onHandshake, Handshake.submit]
      split <;> rfl
  | collect => exact h.of_same rfl rfl
  | shutDown => exact h.of_calls rfl Call.ticket_noticed rfl
  | begin element policy =>
    intro k hk
    rcases List.mem_append.1 hk with hold | hnew
    · exact Nat.lt_succ_of_lt (h k hold)
    · rw [List.mem_singleton.1 hnew]
      exact Nat.lt_succ_self _
  | call ticket =>
    cases hk : c.call? ticket with
    | none => simpa only [Course.turn, hk] using h
    | some k =>
      refine h.of_calls (calls_call hk) (ticket_changed hk) ?_
      have hfind : c.lane.handshake.calls.find? (·.ticket == ticket) = some k := hk
      simp only [Course.nextTicket, Course.turn, hk, moved, Lane.callStep, Lane.onHandshake,
        Handshake.callStep, hfind]
      split <;> rfl
  | rouse ticket => exact h.of_calls rfl (fun k => by split <;> simp) rfl
  | worker =>
    obtain ⟨hnext, hsame | htold⟩ := calls_workerStep c.lane c.store
    · exact h.of_same hsame hnext
    · exact h.of_calls htold Call.ticket_noticed hnext
  | rouseWorker => exact h.of_same rfl rfl
  | others s => exact h.of_same rfl rfl

theorem call?_of_calls {c' : Course} {f : Call → Call}
    (hcalls : c'.lane.handshake.calls = c.lane.handshake.calls.map f)
    (hticket : ∀ k, (f k).ticket = k.ticket) (ticket : Nat) :
    c'.call? ticket = (c.call? ticket).map f := by
  rw [call?, hcalls, find?_map_of_ticket hticket]
  rfl

/-- A change that is for one call leaves the others as they were. -/
theorem call?_of_changed {c' : Course} {f : Call → Call} (hk : c.call? ticket = some k)
    (hcalls : c'.lane.handshake.calls =
      c.lane.handshake.calls.map fun k => if k.ticket = ticket then f k else k)
    (hticket : ∀ k : Call, (if k.ticket = ticket then f k else k).ticket = k.ticket)
    (other : Nat) :
    c'.call? other = if other = ticket then some (f k) else c.call? other := by
  rw [call?_of_calls hcalls hticket]
  by_cases hsame : other = ticket
  · rw [if_pos hsame, hsame, hk, Option.map_some, if_pos (ticket_of_call? hk)]
  · rw [if_neg hsame]
    cases hother : c.call? other with
    | none => rfl
    | some k' =>
      rw [Option.map_some, if_neg fun h => hsame ((ticket_of_call? hother).symm.trans h)]

/-- The call that acted is as its step left it. -/
theorem call?_call (hk : c.call? ticket = some k) (other : Nat) :
    (c.turn (.call ticket)).call? other =
      if other = ticket then some (k.step c.direction).2 else c.call? other :=
  call?_of_changed (f := fun _ => (k.step c.direction).2) hk (calls_call hk) (ticket_changed hk)
    other

/-- The call that is roused is told. -/
theorem call?_rouse (hk : c.call? ticket = some k) (other : Nat) :
    (c.turn (.rouse ticket)).call? other =
      if other = ticket then some k.noticed else c.call? other :=
  call?_of_changed hk rfl (fun k => by split <;> simp) other

/-- The call that starts is to issue its element, and the others are as
they were. -/
theorem call?_begin (h : c.Numbered) (element : Bytes) (policy : RetryPolicy) (other : Nat) :
    (c.turn (.begin element policy)).call? other =
      if other = c.nextTicket then some ⟨c.nextTicket, ⟨policy, 0⟩, .submitting element⟩
      else c.call? other := by
  set new : Call := ⟨c.nextTicket, ⟨policy, 0⟩, .submitting element⟩ with hnew
  have hcalls : (c.turn (.begin element policy)).lane.handshake.calls =
      c.lane.handshake.calls ++ [new] := rfl
  rw [call?, hcalls, List.find?_append]
  by_cases hsame : other = c.nextTicket
  · have hnone : c.lane.handshake.calls.find? (·.ticket == other) = none :=
      hsame ▸ h.call?_eq_none
    rw [if_pos hsame, hnone, Option.none_or, List.find?_singleton, if_pos (by simp [hnew, hsame])]
  · have hnone : [new].find? (·.ticket == other) = none := by
      rw [List.find?_singleton, if_neg]
      rw [hnew, beq_iff_eq]
      exact fun heq => hsame heq.symm
    rw [if_neg hsame, hnone, Option.or_none]
    rfl

end Course

/-! ## Acts as steps -/

namespace Vigil

variable {v : Vigil} {ticket : Nat} {k : Call}

theorem numbered_start (view : View) (role : Role) (elementSize : UInt64) (s : Store) :
    (start view role elementSize s).course.Numbered :=
  fun _ hk => absurd hk List.not_mem_nil

theorem numbered_act (h : v.course.Numbered) (a : Act) : (v.act a).course.Numbered := by
  cases a with
  | issue buffer => exact h.of_same rfl rfl
  | collect => exact h.turn .collect
  | begin element policy => exact h.turn (.begin element policy)
  | call ticket => exact h.turn (.call ticket)
  | timeUp ticket =>
    simp only [act]
    split
    · exact h.turn (.rouse ticket)
    · exact h
  | shutDown => exact h.of_same rfl rfl
  | keep i =>
    simp only [act]
    split
    · exact h
    · exact h.turn .rouseWorker
    · exact h.turn .rouseWorker
    · exact h.of_calls rfl Call.ticket_noticed rfl
  | worker => exact h.turn .worker
  | others s => exact h.turn (.others s)

theorem numbered_run (h : v.course.Numbered) (acts : List Act) : (v.run acts).course.Numbered :=
  run_induction (P := fun v => v.course.Numbered) acts h fun _ a h => numbered_act h a

theorem step_issue (v : Vigil) (buffer : Bytes) :
    v.scene.Step .caller (v.act (.issue buffer)).scene := by
  rcases v.course.requested_cases buffer with ⟨e, he, hsame⟩ |
    ⟨hlength, hruns, hfree, -, hok, hrequested⟩
  · have hact : v.act (.issue buffer) = v := by simp only [act, direction, he, hsame]
    rw [hact]
    exact .refused
  · have hact : v.act (.issue buffer) = ⟨v.course.requested buffer, v.owed ++ [.request]⟩ := by
      simp only [act, direction, hok]
    rw [hact, hrequested]
    exact .issues buffer v.course.requester hlength hruns hfree

theorem step_collect (v : Vigil) : v.scene.Step .caller (v.act .collect).scene := by
  rcases v.course.direction.takeFinished_cases with ⟨t, ht, htake⟩ | hnone
  · have hresult : v.course.lane.handshake.direction.takeFinished =
        (some t, { v.course.direction with request := .empty, complete := false }) := htake
    have hscene : (v.act .collect).scene =
        v.scene.freed.noting [.collected none v.course.requester t] := by
      simp only [act, scene, direction, worker, Course.turn, Course.moved,
        Course.collectDeeds, htake, Lane.takeResult, Handshake.takeResult, hresult]
      rfl
    rw [hscene]
    exact .collects v.course.requester t ht
  · have hresult : v.course.lane.handshake.direction.takeFinished = (none, v.course.direction) :=
      hnone
    have hscene : (v.act .collect).scene = v.scene := by
      simp only [act, scene, direction, worker, Course.turn, Course.moved,
        Course.collectDeeds, hnone, Lane.takeResult, Handshake.takeResult, hresult, List.append_nil]
      rfl
    rw [hscene]
    exact .refused

theorem step_begin (h : v.course.Numbered) (element : Bytes) (policy : RetryPolicy) :
    v.scene.Step .caller (v.act (.begin element policy)).scene := by
  have hscene : (v.act (.begin element policy)).scene =
      (v.scene.put ⟨v.course.nextTicket, ⟨policy, 0⟩, .submitting element⟩).noting
        [.began v.course.nextTicket element] :=
    Scene.ext rfl rfl (funext (Course.call?_begin h element policy)) rfl rfl
  rw [hscene]
  exact .begins _ element policy h.call?_eq_none

/-! ### The next step of a call -/

/-- Only a call whose request has just been accepted tells the worker. -/
theorem worker_call (hk : v.call? ticket = some k) (h : k.phase ≠ .calling) :
    (v.act (.call ticket)).worker = v.worker := by
  have hcall : v.course.call? ticket = some k := hk
  have hfind : v.course.lane.handshake.calls.find? (·.ticket == ticket) = some k := hk
  simp only [act, worker, Course.worker, Course.turn, hcall, Course.moved, Lane.callStep,
    Lane.onHandshake, Handshake.callStep, hfind]

theorem worker_call_of_calling (hk : v.call? ticket = some k) (h : k.phase = .calling) :
    (v.act (.call ticket)).worker = v.worker.map WorkerPhase.noticed := by
  have hcall : v.course.call? ticket = some k := hk
  have hfind : v.course.lane.handshake.calls.find? (·.ticket == ticket) = some k := hk
  simp only [act, worker, Course.worker, Course.turn, hcall, Course.moved, Lane.callStep,
    Lane.onHandshake, Handshake.callStep, hfind, h]
  rfl

/-- **The scene after the step of a call.** -/
theorem scene_call (hk : v.call? ticket = some k) :
    (v.act (.call ticket)).scene =
      ({ v.scene with
          direction := (k.step v.direction).1, worker := (v.act (.call ticket)).worker }.put
        (k.step v.direction).2).noting
          (Course.callDeeds v.direction v.course.requester k).2 := by
  have hcall : v.course.call? ticket = some k := hk
  have hticket : (k.step v.direction).2.ticket = ticket := by
    rw [Call.ticket_step, Course.ticket_of_call? hcall]
  have hturn : (v.act (.call ticket)).course =
      v.course.moved (v.course.lane.callStep ticket)
        (Course.callDeeds v.direction v.course.requester k) := Course.turn_call hcall
  refine Scene.ext ?_ rfl (funext fun other => ?_) rfl (by rw [scene, hturn]; rfl)
  · rw [scene, direction, hturn]
    exact (Course.callStep_of_call? hcall).1
  · have hother := Course.call?_call hcall other
    simp only [Scene.noting, Scene.put, hticket]
    exact hother

/-- A call that collects an element that has crossed returns with it. -/
theorem returnDeeds_collected {d : Direction} {t : Transfer} (hrunning : k.result? = none)
    (hstep : (k.step d).2 = k.collected t) :
    Course.returnDeeds d k = Call.outcome (some k.ticket) t := by
  cases htrans : t.transferred with
  | true =>
    have hafter : (k.collected t).result? = some (.ok t.buffer) := by
      rw [Call.result?_eq_some_iff, Call.standing_collected, Call.standingAfter_of_crossed htrans]
    simp only [Course.returnDeeds, hrunning, hstep, hafter, Call.outcome_of_crossed htrans]
  | false =>
    have hafter : (k.collected t).result? = none := by
      refine Call.result?_of_running fun r hr => ?_
      rw [Call.standing_collected, Call.standingAfter_of_refused htrans] at hr
      exact Standing.noConfusion hr
    simp only [Course.returnDeeds, hrunning, hstep, hafter, Call.outcome_of_refused htrans]

/-- A call that is about to issue its request. -/
theorem step_submitting {retrier : Retrier} {buffer : Bytes}
    (hk : v.call? ticket = some ⟨ticket, retrier, .submitting buffer⟩) :
    v.scene.Step (.call ticket) (v.act (.call ticket)).scene := by
  rw [scene_call hk, worker_call hk CallPhase.noConfusion]
  rcases v.direction.submit_cases buffer with ⟨e, he⟩ | ⟨hlength, hruns, hfree, -, hok⟩
  · have hstep : Call.step v.direction ⟨ticket, retrier, .submitting buffer⟩ =
        (v.direction, ⟨ticket, retrier, .returned (.error e)⟩) := by simp only [Call.step, he]
    have hdeeds : (Course.callDeeds v.direction v.course.requester
        ⟨ticket, retrier, .submitting buffer⟩).2 = [.returned ticket (.error e)] := by
      simp only [Course.callDeeds, Course.submitDeeds, Course.returnDeeds, he, hstep, Call.result?,
        List.nil_append]
    rw [hstep, hdeeds]
    exact Scene.Step.fails (x := v.scene) ticket _ _ e hk rfl CallPhase.noConfusion
      (.inl ⟨buffer, rfl, he⟩)
  · have hstep : Call.step v.direction ⟨ticket, retrier, .submitting buffer⟩ =
        ({ v.direction with request := .pending buffer, ready := true, complete := false },
          ⟨ticket, retrier, .calling⟩) := by simp only [Call.step, hok]
    have hdeeds : (Course.callDeeds v.direction v.course.requester
        ⟨ticket, retrier, .submitting buffer⟩).2 =
          Course.replacedDeeds v.course.requester v.direction.request ++
            [.accepted (some ticket) buffer] := by
      simp only [Course.callDeeds, Course.submitDeeds, Course.returnDeeds, hok, hstep, Call.result?,
        List.append_nil]
    rw [hstep, hdeeds]
    exact .submits ticket retrier buffer v.course.requester hk hlength hruns hfree

/-- A call that looks for its result. -/
theorem step_checking {retrier : Retrier}
    (hk : v.call? ticket = some ⟨ticket, retrier, .checking⟩) :
    v.scene.Step (.call ticket) (v.act (.call ticket)).scene := by
  rw [scene_call hk, worker_call hk CallPhase.noConfusion]
  rcases v.direction.takeFinished_cases with ⟨t, ht, htake⟩ | hnone
  · have hstep : Call.step v.direction ⟨ticket, retrier, .checking⟩ =
        ({ v.direction with request := .empty, complete := false },
          Call.collected ⟨ticket, retrier, .checking⟩ t) := by simp only [Call.step, htake]
    have hdeeds : (Course.callDeeds v.direction v.course.requester
        ⟨ticket, retrier, .checking⟩).2 =
          .collected (some ticket) v.course.requester t :: Call.outcome (some ticket) t := by
      simp only [Course.callDeeds, Course.collectDeeds, htake,
        returnDeeds_collected (k := ⟨ticket, retrier, .checking⟩) rfl (congrArg Prod.snd hstep),
        List.singleton_append]
    rw [hstep, hdeeds]
    exact .takes ticket retrier v.course.requester t hk ht
  · have hnothing : ∀ t, v.direction.request ≠ .finished t := by
      intro t ht
      simp only [Direction.takeFinished, ht] at hnone
      cases hnone
    cases hexit : v.direction.exit with
    | true =>
      have hstep : Call.step v.direction ⟨ticket, retrier, .checking⟩ =
          (v.direction, ⟨ticket, retrier, .returned (.error .closed)⟩) := by
        simp only [Call.step, hnone, hexit, if_true]
      have hdeeds : (Course.callDeeds v.direction v.course.requester
          ⟨ticket, retrier, .checking⟩).2 = [.returned ticket (.error .closed)] := by
        simp only [Course.callDeeds, Course.collectDeeds, Course.returnDeeds, hnone, hstep,
          Call.result?, List.nil_append]
      rw [hstep, hdeeds]
      exact Scene.Step.fails (x := v.scene) ticket _ _ .closed hk rfl
        CallPhase.noConfusion (.inr ⟨hexit, rfl⟩)
    | false =>
      have hstep : Call.step v.direction ⟨ticket, retrier, .checking⟩ =
          (v.direction, ⟨ticket, retrier, .asleep⟩) := by
        simp only [Call.step, hnone, hexit]
        rfl
      have hdeeds : (Course.callDeeds v.direction v.course.requester
          ⟨ticket, retrier, .checking⟩).2 = [] := by
        simp only [Course.callDeeds, Course.collectDeeds, Course.returnDeeds, hnone, hstep,
          Call.result?, List.append_nil]
      rw [hstep, hdeeds, Scene.noting, List.append_nil]
      exact .fallsAsleep ticket retrier hk hnothing hexit

/-- A call that has slept, or is to sleep, before its next attempt goes on
only while the direction is not shut down. -/
theorem step_between {next : Call} (hk : v.call? ticket = some k) (hawake : k.isQuiet = false)
    (hcalling : k.phase ≠ .calling)
    (hdeeds : Course.callDeeds v.direction v.course.requester k =
      (v.course.requester, Course.returnDeeds v.direction k))
    (hstep : k.step v.direction =
      if v.direction.exit then (v.direction, { k with phase := .returned (.error .closed) })
      else (v.direction, next))
    (hrunning : ∀ r, k.standing ≠ .ended r) (hnext : ∀ r, next.standing ≠ .ended r)
    (hgoes : v.direction.exit = false → v.scene.Step (.call ticket) (v.scene.put next)) :
    v.scene.Step (.call ticket) (v.act (.call ticket)).scene := by
  obtain rfl : k.ticket = ticket := Course.ticket_of_call? (c := v.course) hk
  rw [scene_call hk, worker_call hk hcalling, hdeeds]
  cases hexit : v.direction.exit with
  | true =>
    rw [if_pos hexit] at hstep
    rw [Call.returnDeeds_of_ended hrunning (by rw [hstep]; rfl), hstep]
    exact Scene.Step.fails (x := v.scene) k.ticket _ _ .closed hk hawake hcalling
      (.inr ⟨hexit, rfl⟩)
  | false =>
    rw [if_neg (by simp [hexit])] at hstep
    rw [Call.returnDeeds_of_running (by rw [hstep]; exact hnext), hstep, Scene.noting,
      List.append_nil]
    exact hgoes hexit

/-- A call that can do nothing does nothing. -/
theorem step_quiet (hk : v.call? ticket = some k) (hquiet : k.isQuiet = true)
    (hcalling : k.phase ≠ .calling) (hstep : k.step v.direction = (v.direction, k))
    (hdeeds : Course.callDeeds v.direction v.course.requester k =
      (v.course.requester, Course.returnDeeds v.direction k)) :
    v.scene.Step (.call ticket) (v.act (.call ticket)).scene := by
  have hcall : v.scene.call? ticket = some k := hk
  have hsame : v.scene.put k = v.scene := by
    refine Scene.ext rfl rfl (funext fun other => ?_) rfl rfl
    rw [Scene.put, Course.ticket_of_call? (c := v.course) hk]
    dsimp only
    split
    · rename_i hother
      rw [hother, hcall]
    · rfl
  rw [scene_call hk, worker_call hk hcalling, hdeeds,
    Call.returnDeeds_of_still (by rw [hstep]), hstep, Scene.noting, List.append_nil]
  have hscene : v.scene.Step (.call ticket) v.scene :=
    .quiet ticket fun k' hk' => Option.some.inj (hcall.symm.trans hk') ▸ hquiet
  exact hsame.symm ▸ hscene

/-- **The step of a call is one of its own.** -/
theorem step_call (v : Vigil) (ticket : Nat) :
    v.scene.Step (.call ticket) (v.act (.call ticket)).scene := by
  cases hk : v.call? ticket with
  | none =>
    have hcall : v.course.call? ticket = none := hk
    have hact : v.act (.call ticket) = v := by simp only [act, Course.turn, hcall]
    rw [hact]
    refine .quiet ticket fun k hk' => ?_
    rw [show v.scene.call? ticket = none from hk] at hk'
    cases hk'
  | some k =>
    obtain ⟨named, retrier, phase⟩ := k
    obtain rfl : named = ticket := Course.ticket_of_call? (c := v.course) hk
    cases phase with
    | submitting buffer => exact step_submitting hk
    | checking => exact step_checking hk
    | calling =>
      have hdeeds : (Course.callDeeds v.direction v.course.requester
          ⟨named, retrier, .calling⟩).2 = [] := rfl
      rw [scene_call hk, worker_call_of_calling hk rfl, hdeeds, Scene.noting, List.append_nil]
      exact Scene.Step.tells (x := v.scene) named retrier hk
    | pausing buffer delay =>
      exact step_between hk rfl CallPhase.noConfusion rfl rfl (fun _ => Standing.noConfusion)
        (fun _ => Standing.noConfusion)
        (Scene.Step.naps (x := v.scene) named retrier buffer delay hk)
    | roused buffer =>
      exact step_between hk rfl CallPhase.noConfusion rfl rfl (fun _ => Standing.noConfusion)
        (fun _ => Standing.noConfusion)
        (Scene.Step.resumes (x := v.scene) named retrier buffer hk)
    | asleep => exact step_quiet hk rfl CallPhase.noConfusion rfl rfl
    | napping buffer delay => exact step_quiet hk rfl CallPhase.noConfusion rfl rfl
    | returned r => exact step_quiet hk rfl CallPhase.noConfusion rfl rfl

/-! ### What happens outside -/

/-- A call whose sleep between two attempts is over is up. -/
theorem scene_timeUp {retrier : Retrier} {buffer : Bytes} {delay : Duration}
    (hk : v.call? ticket = some ⟨ticket, retrier, .napping buffer delay⟩) :
    (v.act (.timeUp ticket)).scene = v.scene.put ⟨ticket, retrier, .roused buffer⟩ := by
  have hnaps : v.naps ticket = true := by rw [naps, hk]; rfl
  simp only [act, if_pos hnaps]
  exact Scene.ext rfl rfl (funext (Course.call?_rouse (c := v.course) hk)) rfl rfl

/-- One that does not sleep so is left alone. -/
theorem act_timeUp (h : v.naps ticket = false) : v.act (.timeUp ticket) = v := by
  simp only [act, h, Bool.false_eq_true, if_false]

theorem step_timeUp (v : Vigil) (ticket : Nat) :
    v.scene.Step .outside (v.act (.timeUp ticket)).scene := by
  cases hnaps : v.naps ticket with
  | false =>
    rw [act_timeUp hnaps]
    exact .aside
  | true =>
    cases hk : v.call? ticket with
    | none =>
      rw [naps, hk] at hnaps
      cases hnaps
    | some k =>
      obtain ⟨named, retrier, phase⟩ := k
      obtain rfl : named = ticket := Course.ticket_of_call? (c := v.course) hk
      rw [naps, hk] at hnaps
      cases phase with
      | napping buffer delay =>
        rw [scene_timeUp hk]
        exact Scene.Step.timeUp (x := v.scene) named retrier buffer delay hk
      | _ => cases hnaps

theorem call?_callersTold (v : Vigil) (ticket : Nat) :
    v.course.callersTold.call? ticket = (v.call? ticket).map Call.noticed :=
  Course.call?_of_calls (c := v.course) rfl Call.ticket_noticed ticket

theorem step_keep (v : Vigil) (i : Nat) : v.scene.Step .outside (v.act (.keep i)).scene := by
  cases hi : v.owed[i]? with
  | none =>
    have hact : v.act (.keep i) = v := by simp only [act, hi]
    rw [hact]
    exact .aside
  | some p =>
    have howed : v.scene.owed[i]? = some p := hi
    cases p with
    | request =>
      have hscene : (v.act (.keep i)).scene =
          { v.scene.workerTold with owed := v.owed.eraseIdx i } := by
        simp only [act, hi]
        rfl
      rw [hscene]
      exact .keepsRequest i howed
    | shutDown =>
      have hscene : (v.act (.keep i)).scene =
          { v.scene.workerTold with owed := v.owed.set i .callers } := by
        simp only [act, hi]
        rfl
      rw [hscene]
      exact .keepsShutDown i howed
    | callers =>
      have hscene : (v.act (.keep i)).scene =
          { v.scene.callersTold with owed := v.owed.eraseIdx i } := by
        simp only [act, hi]
        exact Scene.ext rfl rfl (funext v.call?_callersTold) rfl rfl
      rw [hscene]
      exact .keepsCallers i howed

/-! ### The next step of the worker -/

/-- Where the worker is not at the ring, its step is the handshake's. -/
theorem scene_worker (h : ∀ buffer, v.worker ≠ some (.serving buffer)) :
    (v.act .worker).scene =
      { v.scene with
        direction := v.course.lane.handshake.workerStep.direction
        worker := v.course.lane.handshake.workerStep.worker
        call? := fun ticket =>
          v.course.lane.handshake.workerStep.calls.find? (·.ticket == ticket) } := by
  have hdeeds : Course.workerDeeds v.course.lane v.course.store v.course.requester = [] := by
    unfold Course.workerDeeds
    split
    · exact absurd (by assumption) (h _)
    · rfl
  have hlane : (v.course.lane.workerStep v.course.store).1.handshake =
      v.course.lane.handshake.workerStep := by
    unfold Lane.workerStep
    split
    · exact absurd (by assumption) (h _)
    · rfl
    · rfl
  refine Scene.ext ?_ ?_ (funext fun ticket => ?_) rfl ?_
  · exact congrArg Handshake.direction hlane
  · exact congrArg Handshake.worker hlane
  · exact congrArg (fun hs : Handshake => hs.calls.find? (·.ticket == ticket)) hlane
  · exact (congrArg (v.course.record ++ ·) hdeeds).trans (List.append_nil _)

/-- The worker looks into the slot. -/
theorem step_looking (hw : v.worker = some .looking) :
    v.scene.Step .worker (v.act .worker).scene := by
  have hlane : v.course.lane.handshake.worker = some .looking := hw
  rw [scene_worker fun buffer h => by rw [hw] at h; cases h]
  simp only [Handshake.workerStep, hlane]
  have hdirection : v.course.lane.handshake.direction = v.direction := rfl
  rw [hdirection]
  cases hready : v.direction.ready with
  | false =>
    have hpick : v.direction.pickUp = (.nothing, v.direction) := by
      simp only [Direction.pickUp, hready]
      rfl
    rw [hpick]
    exact Scene.Step.rests (x := v.scene) hw hready
  | true =>
    cases hexit : v.direction.exit with
    | true =>
      have hpick : v.direction.pickUp = (.exit, { v.direction with ready := false }) := by
        simp only [Direction.pickUp, hready, hexit, if_true]
      rw [hpick]
      exact Scene.Step.leaves (x := v.scene) hw hready hexit
    | false =>
      cases hrequest : v.direction.request with
      | pending buffer =>
        have hpick : v.direction.pickUp =
            (.request buffer, { v.direction with ready := false, request := .servicing }) := by
          simp only [Direction.pickUp, hready, hexit, hrequest]
          rfl
        rw [hpick]
        exact Scene.Step.picksUp (x := v.scene) buffer hw hready hexit hrequest
      | _ =>
        have hpick : v.direction.pickUp = (.noRequest, { v.direction with ready := false }) := by
          simp only [Direction.pickUp, hready, hexit, hrequest]
          rfl
        rw [hpick]
        exact Scene.Step.looksAgain (x := v.scene) hw hready hexit fun buffer h => by
          rw [show v.direction.request = _ from h] at hrequest
          cases hrequest

/-- At the ring the worker's buffer may be filled, but keeps its length. -/
theorem length_serve (role : Role) (g : Geometry) (buffer : Bytes) (o : Object) :
    (Ring.serve role g buffer o).2.1.length = buffer.length := by
  cases role with
  | writer => rfl
  | reader =>
    simp only [Ring.serve, Ring.dequeue]
    split
    · rfl
    split
    · rfl
    split
    · rfl
    · have hfit : g.fitting (Ring.readIndex o % g.bandSize).toNat buffer.length ≤ buffer.length :=
        Nat.min_le_right ..
      simp only [Ring.copyOut, List.length_append, Object.length_read]
      omega

/-- The scene after the worker was at the ring. -/
theorem scene_serving {buffer : Bytes} (hw : v.worker = some (.serving buffer)) :
    (v.act .worker).scene =
      { v.scene.noting [.served v.course.requester buffer
          (Ring.serve v.course.lane.role v.course.lane.view.geometry buffer
            (v.course.lane.view.object v.course.store)).1
          (Ring.serve v.course.lane.role v.course.lane.view.geometry buffer
            (v.course.lane.view.object v.course.store)).2.1] with
        worker := some (.publishing
          ⟨(Ring.serve v.course.lane.role v.course.lane.view.geometry buffer
              (v.course.lane.view.object v.course.store)).1.isMoved,
            (Ring.serve v.course.lane.role v.course.lane.view.geometry buffer
              (v.course.lane.view.object v.course.store)).2.1⟩) } := by
  have hlane : v.course.lane.handshake.worker = some (.serving buffer) := hw
  simp only [act, scene, Course.turn, Course.moved, Course.workerDeeds, Lane.workerStep, hlane,
    Store.updateObject_eq]
  rfl

/-- The worker is at the ring. -/
theorem step_serving {buffer : Bytes} (hw : v.worker = some (.serving buffer)) :
    v.scene.Step .worker (v.act .worker).scene := by
  rw [scene_serving hw]
  exact .serves _ buffer _ _ hw (length_serve ..)

/-- **The step of the worker is one of its own.** -/
theorem step_worker (v : Vigil) : v.scene.Step .worker (v.act .worker).scene := by
  by_cases hserving : ∃ buffer, v.worker = some (.serving buffer)
  · obtain ⟨buffer, hw⟩ := hserving
    exact step_serving hw
  · have hscene := scene_worker fun buffer hw => hserving ⟨buffer, hw⟩
    -- a worker that can do nothing leaves the handshake as it is
    have hidle (hquiet : ∀ w, v.worker = some w → w.isQuiet = true)
        (hsame : v.course.lane.handshake.workerStep = v.course.lane.handshake) :
        v.scene.Step .worker (v.act .worker).scene := by
      rw [hsame] at hscene
      rw [hscene]
      exact Scene.Step.idle (x := v.scene) hquiet
    cases hw : v.worker with
    | none =>
      have hlane : v.course.lane.handshake.worker = none := hw
      exact hidle (fun w hw' => by rw [hw] at hw'; cases hw')
        (by simp only [Handshake.workerStep, hlane])
    | some w =>
      have hlane : v.course.lane.handshake.worker = some w := hw
      simp only [Handshake.workerStep, hlane] at hscene hidle
      cases w with
      | looking => exact step_looking hw
      | serving buffer => exact absurd ⟨buffer, hw⟩ hserving
      | publishing t =>
        rw [hscene]
        exact Scene.Step.publishes (x := v.scene) t hw
      | announcing =>
        have htold : (v.act .worker).scene = { v.scene.callersTold with worker := some .looking } :=
          hscene.trans (Scene.ext rfl rfl (funext v.call?_callersTold) rfl rfl)
        rw [htold]
        exact Scene.Step.announces (x := v.scene) hw
      | leaving =>
        have htold : (v.act .worker).scene = { v.scene.callersTold with worker := some .stopped } :=
          hscene.trans (Scene.ext rfl rfl (funext v.call?_callersTold) rfl rfl)
        rw [htold]
        exact Scene.Step.ends (x := v.scene) hw
      | asleep =>
        exact hidle (fun w hw' => by rw [hw] at hw'; cases hw'; rfl) rfl
      | stopped =>
        exact hidle (fun w hw' => by rw [hw] at hw'; cases hw'; rfl) rfl

/-! ### Every act -/

/-- **Every act is a step of the thread whose act it is.** -/
theorem step_act (h : v.course.Numbered) (a : Act) : v.scene.Step a.thread (v.act a).scene := by
  cases a with
  | issue buffer => exact v.step_issue buffer
  | collect => exact v.step_collect
  | begin element policy => exact step_begin h element policy
  | call ticket => exact v.step_call ticket
  | timeUp ticket => exact v.step_timeUp ticket
  | shutDown => exact .shutsDown
  | keep i => exact v.step_keep i
  | worker => exact v.step_worker
  | others s => exact .aside

/-- **What every step keeps holds after all acts** if it held before. -/
theorem scene_run {P : Scene → Prop} (h : v.course.Numbered) (acts : List Act) (init : P v.scene)
    (step : ∀ x y who, x.Step who y → P x → P y) : P (v.run acts).scene := by
  have hboth : (v.run acts).course.Numbered ∧ P (v.run acts).scene :=
    run_induction (P := fun v => v.course.Numbered ∧ P v.scene) acts ⟨h, init⟩ fun v a hv =>
      ⟨numbered_act hv.1 a, step _ _ _ (step_act hv.1 a) hv.2⟩
  exact hboth.2

end Vigil

end TwinRing
