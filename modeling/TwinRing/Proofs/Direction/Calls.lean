import TwinRing.Proofs.Direction.Course
import TwinRing.Proofs.Direction.Sections
/-!
# Blocking calls — what their next step comes to

A blocking call is at one of eight places, but to the rest of the lane it
stands in one of three ways: it owes a request, it waits for a result, or
it has ended. Sleeping, waking and telling the worker change the place and
not the standing. `Call.Move` lists the four things that a call's next
step can come to, in these terms.
-/

namespace TwinRing

/-! ## How a call stands -/

/-- **How a call stands to the rest of the lane.** -/
inductive Standing
  /-- It is to issue a request with this buffer. -/
  | owing (buffer : Bytes)
  /-- Its request was accepted; it looks for a result. -/
  | waiting
  /-- It has returned. -/
  | ended (result : Except ChannelError Bytes)

/-- How a call stands that is at a place. -/
def CallPhase.standing : CallPhase → Standing
  | .submitting buffer => .owing buffer
  | .pausing buffer _ => .owing buffer
  | .napping buffer _ => .owing buffer
  | .roused buffer => .owing buffer
  | .calling => .waiting
  | .checking => .waiting
  | .asleep => .waiting
  | .returned result => .ended result

namespace Call

def standing (k : Call) : Standing := k.phase.standing

@[simp] theorem standing_noticed (k : Call) : k.noticed.standing = k.standing := by
  obtain ⟨ticket, retrier, phase⟩ := k
  cases phase <;> rfl

@[simp] theorem ticket_noticed (k : Call) : k.noticed.ticket = k.ticket := by
  obtain ⟨ticket, retrier, phase⟩ := k
  cases phase <;> rfl

/-! ## What a step comes to -/

/-- How a call stands that has collected a result. -/
def standingAfter (t : Transfer) : Standing :=
  if t.transferred then .ended (.ok t.buffer) else .owing t.buffer

/-- What comes of it that a caller collects a result: a blocking call that
collects an element that has crossed returns with it. -/
def outcome : Option Nat → Transfer → List Deed
  | some ticket, t => if t.transferred then [.returned ticket (.ok t.buffer)] else []
  | none, _ => []

section Collected

variable {t : Transfer} {ticket : Nat}

theorem standingAfter_of_crossed (h : t.transferred = true) :
    standingAfter t = .ended (.ok t.buffer) := if_pos h

theorem standingAfter_of_refused (h : t.transferred = false) :
    standingAfter t = .owing t.buffer := if_neg (Bool.not_eq_true _ ▸ h)

theorem outcome_of_crossed (h : t.transferred = true) :
    outcome (some ticket) t = [.returned ticket (.ok t.buffer)] := if_pos h

theorem outcome_of_refused (h : t.transferred = false) : outcome (some ticket) t = [] :=
  if_neg (Bool.not_eq_true _ ▸ h)

/-- **What an outcome notes** is that the caller, a blocking call, returns
with an element that has crossed. -/
theorem mem_outcome_iff {caller : Option Nat} {deed : Deed} :
    deed ∈ outcome caller t ↔ ∃ ticket, caller = some ticket ∧ t.transferred = true ∧
      deed = .returned ticket (.ok t.buffer) := by
  constructor
  · intro h
    cases caller with
    | none => exact absurd h List.not_mem_nil
    | some ticket =>
      cases htrans : t.transferred with
      | true =>
        rw [outcome_of_crossed htrans] at h
        exact ⟨ticket, rfl, rfl, List.mem_singleton.1 h⟩
      | false =>
        rw [outcome_of_refused htrans] at h
        exact absurd h List.not_mem_nil
  · rintro ⟨ticket, rfl, htrans, rfl⟩
    rw [outcome_of_crossed htrans]
    exact List.mem_singleton_self _

/-- So what is true of every return is true of all that an outcome notes. -/
theorem forall_mem_outcome {P : Deed → Prop} {caller : Option Nat}
    (h : ∀ ticket, P (.returned ticket (.ok t.buffer))) : ∀ deed ∈ outcome caller t, P deed := by
  intro deed hd
  obtain ⟨ticket, -, -, rfl⟩ := mem_outcome_iff.1 hd
  exact h ticket

theorem filterMap_outcome {β : Type} {f : Deed → Option β} {caller : Option Nat}
    (h : ∀ ticket, f (.returned ticket (.ok t.buffer)) = none) :
    (outcome caller t).filterMap f = [] :=
  List.filterMap_eq_nil_iff.2 (forall_mem_outcome h)

end Collected

/-- **What the next step of a call comes to.** -/
inductive Move (d : Direction) (requester : Option Nat) (k : Call) :
    Direction → Standing → Option Nat × List Deed → Prop
  | accepted (buffer : Bytes) (owes : k.standing = .owing buffer)
      (free : d.request.isOutstanding = false)
      (kept : d.role = .reader → d.request.holdsElement = false) :
      Move d requester k { d with request := .pending buffer, ready := true, complete := false }
        .waiting
        (some k.ticket, Course.replacedDeeds requester d.request ++
          [.accepted (some k.ticket) buffer])
  | collected (t : Transfer) (waits : k.standing = .waiting) (h : d.request = .finished t) :
      Move d requester k { d with request := .empty, complete := false } (standingAfter t)
        (requester, .collected (some k.ticket) requester t :: outcome (some k.ticket) t)
  | failed (e : ChannelError) (running : ∀ r, k.standing ≠ .ended r) :
      Move d requester k d (.ended (.error e)) (requester, [.returned k.ticket (.error e)])
  | still : Move d requester k d k.standing (requester, [])

theorem standing_collected (k : Call) (t : Transfer) :
    (k.collected t).standing = standingAfter t := by
  unfold collected standingAfter
  cases t.transferred with
  | true => rfl
  | false =>
    rw [if_neg Bool.false_ne_true, if_neg Bool.false_ne_true]
    rcases k.retrier.nextDelay with ⟨_ | delay, retrier⟩ <;> rfl

theorem ticket_collected (k : Call) (t : Transfer) : (k.collected t).ticket = k.ticket := by
  unfold collected
  split
  · rfl
  · rcases k.retrier.nextDelay with ⟨_ | delay, retrier⟩ <;> rfl

theorem result?_eq_some_iff {k : Call} {r : Except ChannelError Bytes} :
    k.result? = some r ↔ k.standing = .ended r := by
  obtain ⟨ticket, retrier, phase⟩ := k
  cases phase with
  | returned result =>
    exact ⟨fun h => congrArg _ (Option.some.inj h), fun h => congrArg _ (Standing.ended.inj h)⟩
  | _ => exact ⟨fun h => (by cases h), fun h => (by cases h)⟩

theorem result?_of_running {k : Call} (h : ∀ r, k.standing ≠ .ended r) : k.result? = none := by
  obtain ⟨ticket, retrier, phase⟩ := k
  cases phase with
  | returned r => exact absurd rfl (h r)
  | _ => rfl

variable {d : Direction} {k : Call}

/-- **What no step of a call changes**: its ticket, and of the direction all
but the slot and the two flags. -/
theorem step_frame (d : Direction) (k : Call) :
    (k.step d).2.ticket = k.ticket ∧
      ∃ request ready complete, (k.step d).1 = { d with request, ready, complete } := by
  obtain ⟨ticket, retrier, phase⟩ := k
  cases phase with
  | submitting buffer =>
    rcases d.submit_cases buffer with ⟨e, he⟩ | ⟨-, -, -, -, hok⟩
    · simp only [step, he, true_and]
      exact ⟨_, _, _, rfl⟩
    · simp only [step, hok, true_and]
      exact ⟨_, _, _, rfl⟩
  | checking =>
    rcases d.takeFinished_cases with ⟨t, -, htake⟩ | hnone
    · simp only [step, htake]
      exact ⟨ticket_collected _ t, _, _, _, rfl⟩
    · simp only [step, hnone]
      split <;> exact ⟨rfl, _, _, _, rfl⟩
  | pausing buffer delay => simp only [step]; split <;> exact ⟨rfl, _, _, _, rfl⟩
  | roused buffer => simp only [step]; split <;> exact ⟨rfl, _, _, _, rfl⟩
  | calling => exact ⟨rfl, _, _, _, rfl⟩
  | asleep => exact ⟨rfl, _, _, _, rfl⟩
  | napping buffer delay => exact ⟨rfl, _, _, _, rfl⟩
  | returned result => exact ⟨rfl, _, _, _, rfl⟩

theorem ticket_step (d : Direction) (k : Call) : (k.step d).2.ticket = k.ticket :=
  (k.step_frame d).1

/-- No step of a call undoes a shutdown. -/
theorem exit_step (d : Direction) (k : Call) : (k.step d).1.exit = d.exit := by
  obtain ⟨-, request, ready, complete, h⟩ := k.step_frame d
  rw [h]

theorem elementSize_step (d : Direction) (k : Call) : (k.step d).1.elementSize = d.elementSize := by
  obtain ⟨-, request, ready, complete, h⟩ := k.step_frame d
  rw [h]

/-- A step that does not change how a call stands is no return. -/
theorem returnDeeds_of_still (h : (k.step d).2.standing = k.standing) :
    Course.returnDeeds d k = [] := by
  unfold Course.returnDeeds
  -- A call that has ended stays so, and its return was noted before.
  by_cases hended : ∃ r, k.standing = .ended r
  · obtain ⟨r, hr⟩ := hended
    rw [result?_eq_some_iff.2 hr]
  · have hrunning : ∀ r, k.standing ≠ .ended r := fun r hr => hended ⟨r, hr⟩
    rw [result?_of_running hrunning, result?_of_running (h ▸ hrunning)]

theorem returnDeeds_of_ended {r : Except ChannelError Bytes} (hrunning : ∀ r, k.standing ≠ .ended r)
    (h : (k.step d).2.standing = .ended r) :
    Course.returnDeeds d k = [.returned k.ticket r] := by
  unfold Course.returnDeeds
  rw [result?_of_running hrunning, result?_eq_some_iff.2 h]

theorem returnDeeds_of_running (h : ∀ r, (k.step d).2.standing ≠ .ended r) :
    Course.returnDeeds d k = [] := by
  unfold Course.returnDeeds
  rw [result?_of_running h]
  split
  · contradiction
  · rfl

/-- A call that is about to issue its request has it accepted, or fails. -/
theorem move_of_submitting {buffer : Bytes} (requester : Option Nat)
    (hphase : k.phase = .submitting buffer) :
    Move d requester k (k.step d).1 (k.step d).2.standing (Course.callDeeds d requester k) := by
  have howes : k.standing = .owing buffer := by rw [standing, hphase]; rfl
  have hrunning : ∀ r, k.standing ≠ .ended r := by rw [howes]; exact fun r => Standing.noConfusion
  rcases d.submit_cases buffer with ⟨e, he⟩ | ⟨-, -, hfree, hkept, hok⟩
  · have hstep : k.step d = (d, { k with phase := .returned (.error e) }) := by
      simp only [step, hphase, he]
    have hdeeds : Course.callDeeds d requester k =
        (requester, [.returned k.ticket (.error e)]) := by
      have hreturn := returnDeeds_of_ended hrunning (by rw [hstep]; rfl)
      simp only [Course.callDeeds, hphase, Course.submitDeeds, he, hreturn, List.nil_append]
    rw [hstep, hdeeds]
    exact .failed e hrunning
  · have hstep : k.step d =
        ({ d with request := .pending buffer, ready := true, complete := false },
          { k with phase := .calling }) := by
      simp only [step, hphase, hok]
    have hdeeds : Course.callDeeds d requester k =
        (some k.ticket, Course.replacedDeeds requester d.request ++
          [.accepted (some k.ticket) buffer]) := by
      have hreturn : Course.returnDeeds d k = [] :=
        returnDeeds_of_running (by rw [hstep]; exact fun r => Standing.noConfusion)
      simp only [Course.callDeeds, hphase, Course.submitDeeds, hok, hreturn, List.append_nil]
    rw [hstep, hdeeds]
    exact .accepted buffer howes hfree hkept

/-- A call that looks for its result collects one, fails, or goes to sleep. -/
theorem move_of_checking (requester : Option Nat) (hphase : k.phase = .checking) :
    Move d requester k (k.step d).1 (k.step d).2.standing (Course.callDeeds d requester k) := by
  have hwaits : k.standing = .waiting := by rw [standing, hphase]; rfl
  have hrunning : ∀ r, k.standing ≠ .ended r := by rw [hwaits]; exact fun r => Standing.noConfusion
  rcases d.takeFinished_cases with ⟨t, ht, htake⟩ | hnone
  · have hstep : k.step d = ({ d with request := .empty, complete := false }, k.collected t) := by
      simp only [step, hphase, htake]
    have hdeeds : Course.callDeeds d requester k =
        (requester, .collected (some k.ticket) requester t :: outcome (some k.ticket) t) := by
      have hreturn : Course.returnDeeds d k = outcome (some k.ticket) t := by
        have hafter : (k.step d).2.standing = standingAfter t := by
          rw [hstep, standing_collected]
        cases htrans : t.transferred with
        | true =>
          rw [outcome_of_crossed htrans]
          exact returnDeeds_of_ended hrunning (hafter.trans (standingAfter_of_crossed htrans))
        | false =>
          rw [outcome_of_refused htrans]
          rw [standingAfter_of_refused htrans] at hafter
          exact returnDeeds_of_running (by rw [hafter]; exact fun r => Standing.noConfusion)
      simp only [Course.callDeeds, hphase, Course.collectDeeds, htake, hreturn,
        List.singleton_append]
    rw [hstep, hdeeds, standing_collected]
    exact .collected t hwaits ht
  · -- It looks at the exit flag only after the slot had nothing for it.
    cases hexit : d.exit with
    | true =>
      have hstep : k.step d = (d, { k with phase := .returned (.error .closed) }) := by
        simp only [step, hphase, hnone, hexit, if_true]
      have hdeeds : Course.callDeeds d requester k =
          (requester, [.returned k.ticket (.error .closed)]) := by
        have hreturn := returnDeeds_of_ended hrunning (by rw [hstep]; rfl)
        simp only [Course.callDeeds, hphase, Course.collectDeeds, hnone, hreturn, List.nil_append]
      rw [hstep, hdeeds]
      exact .failed .closed hrunning
    | false =>
      have hstep : k.step d = (d, { k with phase := .asleep }) := by
        simp only [step, hphase, hnone, hexit]
        rfl
      have hstill : (k.step d).2.standing = k.standing := by rw [hstep, hwaits]; rfl
      have hdeeds : Course.callDeeds d requester k = (requester, []) := by
        simp only [Course.callDeeds, hphase, Course.collectDeeds, hnone,
          returnDeeds_of_still hstill, List.append_nil]
      rw [hstill, hstep, hdeeds]
      exact .still

/-- A call between two attempts fails if the direction is shut down, and
goes on otherwise. -/
theorem move_of_between {buffer : Bytes} (requester : Option Nat)
    (howes : k.standing = .owing buffer)
    (hdeeds : Course.callDeeds d requester k = (requester, Course.returnDeeds d k))
    (next : Call) (hnext : next.standing = .owing buffer)
    (hstep : k.step d = if d.exit then (d, { k with phase := .returned (.error .closed) })
      else (d, next)) :
    Move d requester k (k.step d).1 (k.step d).2.standing (Course.callDeeds d requester k) := by
  have hrunning : ∀ r, k.standing ≠ .ended r := by rw [howes]; exact fun r => Standing.noConfusion
  cases hexit : d.exit with
  | true =>
    rw [if_pos hexit] at hstep
    rw [hdeeds, returnDeeds_of_ended hrunning (by rw [hstep]; rfl), hstep]
    exact .failed .closed hrunning
  | false =>
    rw [if_neg (by simp [hexit])] at hstep
    have hstill : (k.step d).2.standing = k.standing := by rw [hstep, howes, hnext]
    rw [hdeeds, returnDeeds_of_still hstill, hstill, hstep]
    exact .still

/-- A call at a place where it touches nothing goes on as it stands. -/
theorem move_of_idle (requester : Option Nat) (hdirection : (k.step d).1 = d)
    (hstill : (k.step d).2.standing = k.standing)
    (hdeeds : Course.callDeeds d requester k = (requester, Course.returnDeeds d k)) :
    Move d requester k (k.step d).1 (k.step d).2.standing (Course.callDeeds d requester k) := by
  rw [hdeeds, returnDeeds_of_still hstill, hstill, hdirection]
  exact .still

/-- **The next step of a call is one of its four moves.** -/
theorem moves (d : Direction) (requester : Option Nat) (k : Call) :
    Move d requester k (k.step d).1 (k.step d).2.standing (Course.callDeeds d requester k) := by
  obtain ⟨ticket, retrier, phase⟩ := k
  cases phase with
  | submitting buffer => exact move_of_submitting requester rfl
  | checking => exact move_of_checking requester rfl
  | pausing buffer delay =>
    exact move_of_between requester rfl rfl ⟨ticket, retrier, .napping buffer delay⟩ rfl rfl
  | roused buffer =>
    exact move_of_between requester rfl rfl ⟨ticket, retrier, .submitting buffer⟩ rfl rfl
  | calling => exact move_of_idle requester rfl rfl rfl
  | asleep => exact move_of_idle requester rfl rfl rfl
  | napping buffer delay => exact move_of_idle requester rfl rfl rfl
  | returned result => exact move_of_idle requester rfl rfl rfl

end Call

end TwinRing
