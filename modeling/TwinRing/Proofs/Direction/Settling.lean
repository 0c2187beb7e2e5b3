import TwinRing.Proofs.Direction.Account
import TwinRing.Proofs.Direction.Custody
import TwinRing.Proofs.Direction.Notices
/-!
# Lanes under way — slot and hand run dry after a shutdown

From the step that shuts a direction down, slot and hand of the worker can
only run dry: `Scene.Settles` lists the four things that can still happen
to them, and accepting and picking up are not among them. `Since` is what
they come to from one scene to a later one: the worker goes to the ring
with what it had in hand and with nothing else, and every result that was
there, or is made of that, is taken once or is still there.

Why a call fails after the shutdown is in `Cause`. It is told of the
shutdown, unless it was started with a buffer of the wrong length; that a
later attempt cannot have one is in `Sized`.
-/

namespace TwinRing

/-! ## Sections after the shutdown -/

/-- **A direction that is shut down refuses every request**, and says so
to whoever has a buffer of the right length. -/
theorem Direction.submit_of_exit {d : Direction} (h : d.exit = true) (buffer : Bytes) :
    d.submit buffer = (.error (if buffer.length = d.elementSize.toNat then .closed
      else .elementSize d.elementSize.toNat buffer.length), d) := by
  unfold submit
  by_cases hlength : buffer.length = d.elementSize.toNat
  · rw [if_neg (not_not.2 hlength), if_pos h, if_pos hlength]
  · rw [if_pos hlength, if_neg hlength]

/-! ## What results are made and taken -/

/-- The result that the worker makes of a request. -/
def Deed.made? : Deed → Option Transfer
  | .served _ _ attempt after => some ⟨attempt.isMoved, after⟩
  | _ => none

/-- The result that a caller takes. -/
def Deed.taken? : Deed → Option Transfer
  | .collected _ _ result => some result
  | _ => none

/-- Only the call that collects an element that has crossed returns by it. -/
theorem returned_mem_outcome {caller : Option Nat} {t : Transfer} {ticket : Nat}
    {result : Except ChannelError Bytes} : .returned ticket result ∈ Call.outcome caller t ↔
      caller = some ticket ∧ t.transferred = true ∧ result = .ok t.buffer := by
  rw [Call.mem_outcome_iff]
  constructor
  · rintro ⟨taker, rfl, hcrossed, hreturn⟩
    cases hreturn
    exact ⟨rfl, hcrossed, rfl⟩
  · rintro ⟨rfl, hcrossed, rfl⟩
    exact ⟨ticket, rfl, hcrossed, rfl⟩

theorem Call.result?_collected_iff {k : Call} {t : Transfer} {result : Except ChannelError Bytes} :
    (k.collected t).result? = some result ↔ t.transferred = true ∧ result = .ok t.buffer := by
  rw [Call.result?_eq_some_iff, Call.standing_collected]
  cases htrans : t.transferred with
  | true => simp [Call.standingAfter_of_crossed htrans, eq_comm]
  | false => simp [Call.standingAfter_of_refused htrans]

/-- A call that owes after collecting a result owes the buffer of it. -/
theorem Call.buffer_of_owing {t : Transfer} {buffer : Bytes}
    (h : standingAfter t = .owing buffer) : t.buffer = buffer := by
  unfold standingAfter at h
  split at h
  · cases h
  · exact Standing.owing.inj h

namespace Scene

variable {x y z : Scene} {who : Thread} {ticket : Nat} {k : Call} {deeds later : List Deed}

/-! ## Buffers keep their length -/

/-- **Every buffer on its way is one element long.** -/
structure Sized (n : Nat) (x : Scene) : Prop where
  elementSize : x.direction.elementSize.toNat = n
  /-- The one in the slot. -/
  slot : ∀ buffer, x.direction.request.buffer? = some buffer → buffer.length = n
  /-- The one in the worker's hand. -/
  hand : ∀ buffer, (handOf x.worker).buffer? = some buffer → buffer.length = n
  /-- The one that a call is to issue, unless it was started with it. -/
  owing : ∀ ticket k buffer, x.call? ticket = some k → k.standing = .owing buffer →
    buffer.length = n ∨ .began ticket buffer ∈ x.record

variable {n : Nat}

/-- A call that is put elsewhere with a buffer of the right length. -/
theorem Sized.put (h : x.Sized n) (k : Call)
    (hput : ∀ buffer, k.standing = .owing buffer →
      buffer.length = n ∨ .began k.ticket buffer ∈ x.record) : (x.put k).Sized n := by
  refine ⟨h.elementSize, h.slot, h.hand, fun ticket k' buffer hk' howes => ?_⟩
  rcases call_of_put hk' with ⟨rfl, rfl⟩ | ⟨-, hother⟩
  · exact hput buffer howes
  · exact h.owing ticket k' buffer hother howes

/-- A call that is put elsewhere with no other buffer than it had. -/
theorem Sized.put_of_still {before : Call} (h : x.Sized n)
    (hbefore : x.call? k.ticket = some before)
    (hstill : ∀ buffer, k.standing = .owing buffer → before.standing = .owing buffer) :
    (x.put k).Sized n :=
  h.put k fun buffer howes => h.owing _ before buffer hbefore (hstill buffer howes)

theorem Sized.callersTold (h : x.Sized n) : x.callersTold.Sized n := by
  refine ⟨h.elementSize, h.slot, h.hand, fun ticket k buffer hk howes => ?_⟩
  obtain ⟨before, hbefore, rfl⟩ := Option.map_eq_some_iff.1 hk
  rw [Call.standing_noticed] at howes
  exact h.owing ticket before buffer hbefore howes

theorem Sized.workerTold (h : x.Sized n) : x.workerTold.Sized n :=
  ⟨h.elementSize, h.slot, fun buffer hb => h.hand buffer (handOf_map_noticed x.worker ▸ hb),
    h.owing⟩

theorem Sized.noting (h : x.Sized n) (deeds : List Deed) : (x.noting deeds).Sized n :=
  ⟨h.elementSize, h.slot, h.hand, fun ticket k buffer hk howes =>
    (h.owing ticket k buffer hk howes).imp id (List.mem_append_left _)⟩

theorem Sized.accepting (h : x.Sized n) {buffer : Bytes}
    (hlength : buffer.length = x.direction.elementSize.toNat) : (x.accepting buffer).Sized n := by
  refine ⟨h.elementSize, fun b hb => ?_, h.hand, h.owing⟩
  cases hb
  exact hlength.trans h.elementSize

theorem Sized.freed (h : x.Sized n) : x.freed.Sized n :=
  ⟨h.elementSize, fun _ hb => (by cases hb), h.hand, h.owing⟩

/-- **Every step keeps the length of every buffer.** -/
theorem Sized.step (hstep : x.Step who y) (h : x.Sized n) : y.Sized n := by
  cases hstep with
  | issues buffer requester length runs free =>
    have hnext := (h.accepting length).noting
      (Course.replacedDeeds requester x.direction.request ++ [.accepted none buffer])
    exact ⟨hnext.elementSize, hnext.slot, hnext.hand, hnext.owing⟩
  | collects owner t done => exact h.freed.noting _
  | begins ticket element policy fresh =>
    refine (h.noting [.began ticket element]).put ⟨ticket, ⟨policy, 0⟩, .submitting element⟩
      fun buffer howes => .inr ?_
    cases howes
    exact List.mem_append_right _ (List.mem_singleton_self _)
  | submits ticket retrier buffer requester hk length runs free =>
    have hput := (h.accepting length).put_of_still (k := ⟨ticket, retrier, .calling⟩) hk
      fun _ => Standing.noConfusion
    exact hput.noting _
  | fails ticket retrier phase e hk awake told cause =>
    have hput := h.put_of_still (k := ⟨ticket, retrier, .returned (.error e)⟩) hk
      fun _ => Standing.noConfusion
    exact hput.noting _
  | tells ticket retrier hk =>
    exact h.workerTold.put_of_still (k := ⟨ticket, retrier, .checking⟩) hk
      fun _ => Standing.noConfusion
  | takes ticket retrier owner t hk done =>
    have hput := h.freed.put (Call.collected ⟨ticket, retrier, .checking⟩ t) fun buffer howes => by
      rw [Call.standing_collected] at howes
      exact .inl (h.slot buffer (by rw [done, ← Call.buffer_of_owing howes]; rfl))
    exact hput.noting _
  | fallsAsleep ticket retrier hk nothing runs =>
    exact h.put_of_still (k := ⟨ticket, retrier, .asleep⟩) hk fun _ => Standing.noConfusion
  | naps ticket retrier buffer delay hk runs =>
    exact h.put_of_still (k := ⟨ticket, retrier, .napping buffer delay⟩) hk fun _ => id
  | resumes ticket retrier buffer hk runs =>
    exact h.put_of_still (k := ⟨ticket, retrier, .submitting buffer⟩) hk fun _ => id
  | timeUp ticket retrier buffer delay hk =>
    exact h.put_of_still (k := ⟨ticket, retrier, .roused buffer⟩) hk fun _ => id
  | shutsDown => exact ⟨h.elementSize, h.slot, h.hand, h.owing⟩
  | keepsRequest i hi =>
    exact ⟨h.elementSize, h.slot, h.workerTold.hand, h.owing⟩
  | keepsShutDown i hi =>
    exact ⟨h.elementSize, h.slot, h.workerTold.hand, h.owing⟩
  | keepsCallers i hi => exact ⟨h.elementSize, h.slot, h.hand, h.callersTold.owing⟩
  | rests hw down => exact ⟨h.elementSize, h.slot, fun _ hb => (by cases hb), h.owing⟩
  | leaves hw up ended => exact ⟨h.elementSize, h.slot, fun _ hb => (by cases hb), h.owing⟩
  | picksUp buffer hw up runs waits =>
    refine ⟨h.elementSize, fun _ hb => (by cases hb), fun b hb => ?_, h.owing⟩
    cases hb
    exact h.slot buffer (by rw [waits]; rfl)
  | looksAgain hw up runs vain => exact ⟨h.elementSize, h.slot, fun _ hb => (by cases hb), h.owing⟩
  | serves owner buffer attempt after hw length =>
    refine ⟨h.elementSize, h.slot, fun b hb => ?_, (h.noting _).owing⟩
    cases hb
    exact length.trans (h.hand buffer (by rw [hw]; rfl))
  | publishes t hw =>
    refine ⟨h.elementSize, fun b hb => ?_, fun _ hb => (by cases hb), h.owing⟩
    cases hb
    exact h.hand t.buffer (by rw [hw]; rfl)
  | announces hw =>
    exact ⟨h.elementSize, h.slot, fun _ hb => (by cases hb), h.callersTold.owing⟩
  | ends hw => exact ⟨h.elementSize, h.slot, fun _ hb => (by cases hb), h.callersTold.owing⟩
  | _ => exact h

/-! ## Calls return as it is noted -/

/-- **A return is noted when a call returns, with what it returns.** -/
def Reported (x : Scene) : Prop :=
  ∀ ticket result, .returned ticket result ∈ x.record ↔
    ∃ k, x.call? ticket = some k ∧ k.result? = some result

/-- No return is noted of a call that has not returned. -/
theorem Reported.not_mem (h : x.Reported) (hnone : ∀ k, x.call? ticket = some k → k.result? = none)
    (result : Except ChannelError Bytes) : .returned ticket result ∉ x.record := by
  intro hd
  obtain ⟨k, hk, hresult⟩ := (h ticket result).1 hd
  rw [hnone k hk] at hresult
  cases hresult

theorem Reported.noting (h : x.Reported)
    (hnone : ∀ ticket result, .returned ticket result ∉ deeds) : (x.noting deeds).Reported :=
  fun ticket result => List.mem_append.trans
    ((or_iff_left (hnone ticket result)).trans (h ticket result))

/-- A call that had not returned is put elsewhere, and its return is noted
if it has returned then. -/
theorem Reported.put (h : x.Reported) (deeds : List Deed) (k : Call)
    (hbefore : ∀ before, x.call? k.ticket = some before → before.result? = none)
    (hdeeds : ∀ ticket result, .returned ticket result ∈ deeds ↔
      ticket = k.ticket ∧ k.result? = some result) : ((x.put k).noting deeds).Reported := by
  intro ticket result
  by_cases hsame : ticket = k.ticket
  · have hcall : (x.put k).call? ticket = some k := if_pos hsame
    rw [hsame] at hcall ⊢
    constructor
    · intro hd
      rcases List.mem_append.1 hd with hd | hd
      · exact absurd hd (h.not_mem hbefore result)
      · exact ⟨k, hcall, ((hdeeds _ _).1 hd).2⟩
    · rintro ⟨k', hk', hresult⟩
      cases Option.some.inj (hcall.symm.trans hk')
      exact List.mem_append_right _ ((hdeeds _ _).2 ⟨rfl, hresult⟩)
  · have hcall : (x.put k).call? ticket = x.call? ticket := if_neg hsame
    have hnot : .returned ticket result ∉ deeds := fun hd => hsame ((hdeeds _ _).1 hd).1
    rw [show ((x.put k).noting deeds).call? ticket = x.call? ticket from hcall, ← h ticket result]
    exact List.mem_append.trans (or_iff_left hnot)

/-- A call that had not returned is put elsewhere and has not returned. -/
theorem Reported.put_of_running (h : x.Reported) {before : Call}
    (hbefore : x.call? k.ticket = some before) (hwas : before.result? = none)
    (hrunning : k.result? = none) : (x.put k).Reported := by
  have hput := h.put [] k (fun b hb => Option.some.inj (hbefore.symm.trans hb) ▸ hwas)
    fun ticket result => iff_of_false List.not_mem_nil fun hr => by
      rw [hrunning] at hr
      cases hr.2
  rwa [Scene.noting, List.append_nil] at hput

theorem Reported.callersTold (h : x.Reported) : x.callersTold.Reported := by
  intro ticket result
  refine (h ticket result).trans ⟨fun ⟨k, hk, hresult⟩ => ⟨k.noticed, ?_, ?_⟩, ?_⟩
  · exact congrArg (Option.map Call.noticed) hk
  · rwa [Call.result?_eq_some_iff, Call.standing_noticed, ← Call.result?_eq_some_iff]
  · rintro ⟨k, hk, hresult⟩
    obtain ⟨before, hbefore, rfl⟩ := Option.map_eq_some_iff.1 hk
    rw [Call.result?_eq_some_iff, Call.standing_noticed, ← Call.result?_eq_some_iff] at hresult
    exact ⟨before, hbefore, hresult⟩

/-- **Every step notes what returns.** -/
theorem Reported.step (hstep : x.Step who y) (h : x.Reported) : y.Reported := by
  -- no return is among the deeds of a request that is accepted
  have haccepted (requester caller : Option Nat) (request : Request) (buffer : Bytes)
      (ticket : Nat) (result : Except ChannelError Bytes) : .returned ticket result ∉
        Course.replacedDeeds requester request ++ [.accepted caller buffer] := by
    cases request <;> simp [Course.replacedDeeds]
  cases hstep with
  | issues buffer requester length runs free => exact h.noting (haccepted _ _ _ _)
  | collects owner t done => exact h.noting fun _ _ => by simp
  | begins ticket element policy fresh =>
    exact h.put [.began ticket element] ⟨ticket, ⟨policy, 0⟩, .submitting element⟩
      (fun before hb => by rw [show x.call? ticket = some before from hb] at fresh; cases fresh)
      fun _ _ => by simp [Call.result?]
  | submits ticket retrier buffer requester hk length runs free =>
    have hput := h.put_of_running (k := ⟨ticket, retrier, .calling⟩) hk rfl rfl
    exact hput.noting (haccepted _ _ _ _)
  | fails ticket retrier phase e hk awake told cause =>
    refine h.put _ ⟨ticket, retrier, .returned (.error e)⟩ (fun before hb => ?_) fun t r => ?_
    · rw [← Option.some.inj (hk.symm.trans hb)]
      exact Call.result?_of_awake awake
    · simp [Call.result?, eq_comm]
  | tells ticket retrier hk =>
    exact h.put_of_running (k := ⟨ticket, retrier, .checking⟩) hk rfl rfl
  | takes ticket retrier owner t hk done =>
    refine Reported.put (x := x.freed) h _ (Call.collected ⟨ticket, retrier, .checking⟩ t)
      (fun before hb => ?_) fun other result => ?_
    · rw [Call.ticket_collected] at hb
      rw [← Option.some.inj (hk.symm.trans hb)]
      rfl
    · rw [Call.ticket_collected, Call.result?_collected_iff, List.mem_cons, returned_mem_outcome,
        or_iff_right Deed.noConfusion]
      exact and_congr_left fun _ => Option.some_inj.trans eq_comm
  | fallsAsleep ticket retrier hk nothing runs =>
    exact h.put_of_running (k := ⟨ticket, retrier, .asleep⟩) hk rfl rfl
  | naps ticket retrier buffer delay hk runs =>
    exact h.put_of_running (k := ⟨ticket, retrier, .napping buffer delay⟩) hk rfl rfl
  | resumes ticket retrier buffer hk runs =>
    exact h.put_of_running (k := ⟨ticket, retrier, .submitting buffer⟩) hk rfl rfl
  | timeUp ticket retrier buffer delay hk =>
    exact h.put_of_running (k := ⟨ticket, retrier, .roused buffer⟩) hk rfl rfl
  | keepsCallers i hi => exact h.callersTold
  | serves owner buffer attempt after hw length => exact h.noting (by simp)
  | announces hw => exact h.callersTold
  | ends hw => exact h.callersTold
  | _ => exact h

/-! ## Slot and hand run dry -/

/-- Why a call fails after the shutdown: it is told so, or it was started
with an element of another length and no request of its was accepted. -/
def Cause (n : Nat) (record : List Deed) (ticket : Nat) (e : ChannelError) : Prop :=
  e = .closed ∨ ∃ element, .began ticket element ∈ record ∧ element.length ≠ n ∧
    e = .elementSize n element.length

/-- Deeds after the shutdown that have to do with neither slot nor hand. -/
def Beside (n : Nat) (record : List Deed) : Deed → Prop
  | .began _ _ => True
  | .returned ticket (.error e) => Cause n record ticket e
  | _ => False

/-- **What can still happen to slot and hand after the shutdown.** -/
inductive Settles (n : Nat) (x y : Scene) : Prop
  | beside (deeds : List Deed) (slot : y.direction.request = x.direction.request)
      (hand : handOf y.worker = handOf x.worker) (record : y.record = x.record ++ deeds)
      (h : ∀ d ∈ deeds, Beside n x.record d)
  | collected (caller owner : Option Nat) (t : Transfer)
      (done : x.direction.request = .finished t) (slot : y.direction.request = .empty)
      (hand : handOf y.worker = handOf x.worker)
      (record : y.record = x.record ++ .collected caller owner t :: Call.outcome caller t)
  | served (owner : Option Nat) (buffer : Bytes) (attempt : Attempt) (after : Bytes)
      (carried : handOf x.worker = .carrying buffer)
      (slot : y.direction.request = x.direction.request)
      (hand : handOf y.worker = .returning ⟨attempt.isMoved, after⟩)
      (record : y.record = x.record ++ [.served owner buffer attempt after])
  | published (t : Transfer) (carried : handOf x.worker = .returning t)
      (slot : y.direction.request = .finished t) (hand : handOf y.worker = .free)
      (record : y.record = x.record)

theorem exit_step (hstep : x.Step who y) (hexit : x.direction.exit = true) :
    y.direction.exit = true := by
  cases hstep <;> first | exact hexit | rfl

/-- Nothing happens to slot and hand, and nothing is noted. -/
theorem Settles.same (slot : y.direction.request = x.direction.request)
    (hand : handOf y.worker = handOf x.worker) (record : y.record = x.record) : x.Settles n y :=
  .beside [] slot hand (record.trans (List.append_nil _).symm) fun _ hd =>
    absurd hd List.not_mem_nil

/-- **After the shutdown nothing is accepted and nothing is picked up.** -/
theorem settles_step (hstep : x.Step who y) (hexit : x.direction.exit = true) (h : x.Sized n) :
    x.Settles n y := by
  have hopen {P : Prop} (runs : x.direction.exit = false) : P :=
    absurd (hexit.symm.trans runs) Bool.noConfusion
  cases hstep with
  | issues buffer requester length runs free => exact hopen runs
  | collects owner t done => exact .collected none owner t done rfl rfl rfl
  | begins ticket element policy fresh =>
    exact .beside [.began ticket element] rfl rfl rfl (by simp [Beside])
  | submits ticket retrier buffer requester hk length runs free => exact hopen runs
  | fails ticket retrier phase e hk awake told cause =>
    refine .beside [.returned ticket (.error e)] rfl rfl rfl fun d hd => ?_
    rw [List.mem_singleton.1 hd]
    rcases cause with ⟨buffer, rfl, hrefused⟩ | ⟨-, rfl⟩
    · rw [Direction.submit_of_exit hexit, h.elementSize] at hrefused
      have he := Except.error.inj (Prod.ext_iff.1 hrefused).1
      by_cases hlength : buffer.length = n
      · rw [if_pos hlength] at he
        exact .inl he.symm
      · rw [if_neg hlength] at he
        have hbegan := (h.owing ticket _ buffer hk rfl).resolve_left hlength
        exact .inr ⟨buffer, hbegan, hlength, he.symm⟩
    · exact .inl rfl
  | tells ticket retrier hk => exact .same rfl (handOf_map_noticed _) rfl
  | takes ticket retrier owner t hk done => exact .collected (some ticket) owner t done rfl rfl rfl
  | fallsAsleep ticket retrier hk nothing runs => exact hopen runs
  | naps ticket retrier buffer delay hk runs => exact hopen runs
  | resumes ticket retrier buffer hk runs => exact hopen runs
  | keepsRequest i hi => exact .same rfl (handOf_map_noticed _) rfl
  | keepsShutDown i hi => exact .same rfl (handOf_map_noticed _) rfl
  | rests hw down => exact .same rfl (by rw [hw]; rfl) rfl
  | leaves hw up ended => exact .same rfl (by rw [hw]; rfl) rfl
  | picksUp buffer hw up runs waits => exact hopen runs
  | looksAgain hw up runs vain => exact hopen runs
  | serves owner buffer attempt after hw length =>
    exact .served owner buffer attempt after (by rw [hw]; rfl) rfl rfl rfl
  | publishes t hw => exact .published t (by rw [hw]; rfl) rfl rfl rfl
  | announces hw => exact .same rfl (by rw [hw]; rfl) rfl
  | ends hw => exact .same rfl (by rw [hw]; rfl) rfl
  | _ => exact .same rfl rfl rfl

/-- The results that nobody has taken: the one in the worker's hand, and
the one in the slot. -/
def due (x : Scene) : List Transfer := (handOf x.worker).results ++ x.direction.request.results

/-- **What is done since the shutdown**, from one scene to a later one. -/
structure Since (n : Nat) (x y : Scene) (since : List Deed) : Prop where
  record : y.record = x.record ++ since
  /-- The worker goes to the ring with what it had in hand, and no more. -/
  served : since.filterMap Deed.served? ++ (handOf y.worker).carried = (handOf x.worker).carried
  /-- Every result that was there or is made is taken once, or is there. -/
  due : x.due ++ since.filterMap Deed.made? = since.filterMap Deed.taken? ++ y.due
  accepted : since.filterMap Deed.accepted? = []
  /-- A call returns with an element that has crossed, or for a cause. -/
  returned : ∀ ticket result, .returned ticket result ∈ since →
    (∃ owner buffer, result = .ok buffer ∧
      .collected (some ticket) owner ⟨true, buffer⟩ ∈ since) ∨
      ∃ e, result = .error e ∧ Cause n y.record ticket e
  waiting : ∀ buffer, x.direction.request = .pending buffer → y.direction.request = .pending buffer
  started : y.direction.request = .servicing → x.direction.request = .servicing

theorem Cause.append {record deeds : List Deed} {e : ChannelError} (h : Cause n record ticket e) :
    Cause n (record ++ deeds) ticket e :=
  h.imp id fun ⟨element, hbegan, hlength⟩ => ⟨element, List.mem_append_left _ hbegan, hlength⟩

theorem Since.refl (n : Nat) (x : Scene) : Since n x x [] :=
  ⟨(List.append_nil _).symm, rfl, List.append_nil _, rfl, fun _ _ h => absurd h List.not_mem_nil,
    fun _ => id, id⟩

theorem Since.trans (h : Since n x y deeds) (h' : Since n y z later) :
    Since n x z (deeds ++ later) := by
  refine ⟨?_, ?_, ?_, ?_, fun ticket result hd => ?_,
    fun buffer => h'.waiting buffer ∘ h.waiting buffer, h.started ∘ h'.started⟩
  · rw [h'.record, h.record, List.append_assoc]
  · rw [List.filterMap_append, List.append_assoc, h'.served, h.served]
  · calc x.due ++ (deeds ++ later).filterMap Deed.made?
        = (x.due ++ deeds.filterMap Deed.made?) ++ later.filterMap Deed.made? := by
          rw [List.filterMap_append, List.append_assoc]
      _ = deeds.filterMap Deed.taken? ++ (y.due ++ later.filterMap Deed.made?) := by
          rw [h.due, List.append_assoc]
      _ = (deeds ++ later).filterMap Deed.taken? ++ z.due := by
          rw [h'.due, List.filterMap_append, List.append_assoc]
  · rw [List.filterMap_append, h.accepted, h'.accepted, List.append_nil]
  · rcases List.mem_append.1 hd with hd | hd
    · refine (h.returned ticket result hd).imp ?_ ?_
      · exact fun ⟨owner, buffer, hok, htaken⟩ =>
          ⟨owner, buffer, hok, List.mem_append_left _ htaken⟩
      · rw [h'.record]
        exact fun ⟨e, he, hcause⟩ => ⟨e, he, hcause.append⟩
    · refine (h'.returned ticket result hd).imp ?_ id
      exact fun ⟨owner, buffer, hok, htaken⟩ =>
        ⟨owner, buffer, hok, List.mem_append_right _ htaken⟩

theorem Beside.none_of {record : List Deed} {d : Deed} (h : Beside n record d) :
    d.served? = none ∧ d.made? = none ∧ d.taken? = none ∧ d.accepted? = none := by
  cases d with
  | began ticket element => exact ⟨rfl, rfl, rfl, rfl⟩
  | returned ticket result => exact ⟨rfl, rfl, rfl, rfl⟩
  | _ => exact h.elim

/-- **One step since the shutdown.** -/
theorem Settles.next (h : x.Settles n y) (hagreed : Agreed x.direction x.worker) :
    ∃ deeds, Since n x y deeds := by
  -- the hand is free where the slot says that no request is served
  have hfree (hidle : x.direction.request ≠ .servicing) : handOf x.worker = .free :=
    not_not.1 fun hhand => hidle (hagreed.servicing_iff.2 hhand)
  cases h with
  | beside deeds slot hand record hbeside =>
    refine ⟨deeds, record, ?_, ?_, ?_, fun ticket result hd => .inr ?_, fun b hb => slot.trans hb,
      fun hb => slot.symm.trans hb⟩
    · rw [List.filterMap_eq_nil_iff.2 fun d hd => (hbeside d hd).none_of.1, hand, List.nil_append]
    · rw [List.filterMap_eq_nil_iff.2 fun d hd => (hbeside d hd).none_of.2.1,
        List.filterMap_eq_nil_iff.2 fun d hd => (hbeside d hd).none_of.2.2.1, due, due, slot, hand,
        List.append_nil, List.nil_append]
    · exact List.filterMap_eq_nil_iff.2 fun d hd => (hbeside d hd).none_of.2.2.2
    · have hd := hbeside _ hd
      cases result with
      | ok buffer => exact hd.elim
      | error e => exact ⟨e, rfl, record ▸ hd.append⟩
  | collected caller owner t done slot hand record =>
    have hhand := hfree (by rw [done]; exact Request.noConfusion)
    have haccepted : (Call.outcome caller t).filterMap Deed.accepted? = [] :=
      Call.filterMap_outcome fun _ => rfl
    have hserved : (Call.outcome caller t).filterMap Deed.served? = [] :=
      Call.filterMap_outcome fun _ => rfl
    have hmade : (Call.outcome caller t).filterMap Deed.made? = [] :=
      Call.filterMap_outcome fun _ => rfl
    have htaken : (Call.outcome caller t).filterMap Deed.taken? = [] :=
      Call.filterMap_outcome fun _ => rfl
    refine ⟨.collected caller owner t :: Call.outcome caller t, record, ?_, ?_, ?_,
      fun ticket result hd => .inl ?_, fun b hb => ?_, fun hb => ?_⟩
    · simp only [List.filterMap_cons, Deed.served?, hserved, hand, List.nil_append]
    · simp only [due, List.filterMap_cons, Deed.made?, Deed.taken?, hmade, htaken, hand, hhand,
        slot, done, Hand.results, Request.results, List.nil_append, List.append_nil]
    · simp only [List.filterMap_cons, Deed.accepted?, haccepted]
    · -- the call that collects an element that has crossed returns with it
      rcases List.mem_cons.1 hd with hd | hd
      · cases hd
      · obtain ⟨rfl, hcrossed, rfl⟩ := returned_mem_outcome.1 hd
        obtain ⟨transferred, buffer⟩ := t
        cases hcrossed
        exact ⟨owner, buffer, rfl, List.mem_cons_self ..⟩
    · rw [done] at hb
      cases hb
    · rw [slot] at hb
      cases hb
  | served owner buffer attempt after carried slot hand record =>
    have hservicing : x.direction.request = .servicing :=
      hagreed.servicing_iff.2 (by rw [carried]; exact Hand.noConfusion)
    refine ⟨[.served owner buffer attempt after], record, ?_, ?_, rfl, fun ticket result hd => ?_,
      fun b hb => slot.trans hb, fun hb => slot.symm.trans hb⟩
    · rw [hand, carried]
      rfl
    · simp only [due, carried, hand, slot, hservicing]
      rfl
    · cases List.mem_singleton.1 hd
  | published t carried slot hand record =>
    have hservicing : x.direction.request = .servicing :=
      hagreed.servicing_iff.2 (by rw [carried]; exact Hand.noConfusion)
    refine ⟨[], record.trans (List.append_nil _).symm, ?_, ?_, rfl,
      fun ticket result hd => absurd hd List.not_mem_nil, fun b hb => ?_, fun _ => hservicing⟩
    · rw [hand, carried]
      rfl
    · simp only [due, carried, hand, slot, hservicing]
      rfl
    · rw [hservicing] at hb
      cases hb

end Scene

end TwinRing
