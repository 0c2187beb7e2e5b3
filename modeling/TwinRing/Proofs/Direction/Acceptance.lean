import Mathlib.Data.List.Basic
import TwinRing.Proofs.Direction.Sections
/-!
# Directions — which requests are accepted, and what a result is worth

The answer to a request depends on four things, looked at in one order:
the length of the buffer, the shutdown, whether the slot is taken, and, for
a reader, whether it holds an element that nobody has collected. The rule
is written down as a relation, `Answers`, with one constructor for each
thing that can be found; the section that issues a request gives the answer
that the rule gives, whatever state the direction is in.

A section that fails leaves no trace, so it fails again in the same way.
A section that collects a result frees the slot. What any list of sections
of callers and worker hands out is therefore part of what was in the slot
at first and what was handed back since, in that order: a result goes out
once or not at all.
-/

namespace TwinRing

namespace Request

/-- The result that waits in the slot, if one does. -/
def result? : Request → Option Transfer
  | .finished result => some result
  | .empty => none
  | .pending _ => none
  | .servicing => none

end Request

namespace Direction

variable {d : Direction} {buffer : Bytes} {t : Transfer}

/-! ## The rule -/

/-- **How a request is answered**, by what is found. The length comes
first, even after the shutdown; then the shutdown, whatever the slot holds. -/
inductive Answers (d : Direction) (buffer : Bytes) : Except ChannelError Unit → Prop
  /-- The buffer has not the length of an element. -/
  | elementSize (unfit : buffer.length ≠ d.elementSize.toNat) :
    Answers d buffer (.error (.elementSize d.elementSize.toNat buffer.length))
  /-- The direction has been shut down. -/
  | closed (fits : buffer.length = d.elementSize.toNat) (ended : d.exit = true) :
    Answers d buffer (.error .closed)
  /-- A request waits for the worker. -/
  | pending (fits : buffer.length = d.elementSize.toNat) (live : d.exit = false)
    (waiting : Bytes) (slot : d.request = .pending waiting) :
    Answers d buffer (.error .requestPending)
  /-- The worker is at the ring. -/
  | servicing (fits : buffer.length = d.elementSize.toNat) (live : d.exit = false)
    (slot : d.request = .servicing) : Answers d buffer (.error .requestPending)
  /-- The slot of a reader holds an element. -/
  | uncollected (fits : buffer.length = d.elementSize.toNat) (live : d.exit = false)
    (role : d.role = .reader) (element : Bytes) (slot : d.request = .finished ⟨true, element⟩) :
    Answers d buffer (.error .uncollectedResult)
  /-- The slot is free. -/
  | free (fits : buffer.length = d.elementSize.toNat) (live : d.exit = false)
    (slot : d.request = .empty) : Answers d buffer (.ok ())
  /-- The slot holds a result that nobody misses. -/
  | spare (fits : buffer.length = d.elementSize.toNat) (live : d.exit = false)
    (result : Transfer) (slot : d.request = .finished result)
    (own : d.role = .writer ∨ result.transferred = false) : Answers d buffer (.ok ())

/-- The rule has an answer to every request. -/
theorem exists_answer (d : Direction) (buffer : Bytes) : ∃ answer, d.Answers buffer answer := by
  by_cases fits : buffer.length = d.elementSize.toNat
  · cases live : d.exit with
    | true => exact ⟨_, .closed fits live⟩
    | false =>
      cases slot : d.request with
      | empty => exact ⟨_, .free fits live slot⟩
      | pending waiting => exact ⟨_, .pending fits live waiting slot⟩
      | servicing => exact ⟨_, .servicing fits live slot⟩
      | finished result =>
        obtain ⟨transferred, element⟩ := result
        cases transferred with
        | false => exact ⟨_, .spare fits live _ slot (.inr rfl)⟩
        | true =>
          cases role : d.role with
          | writer => exact ⟨_, .spare fits live _ slot (.inl role)⟩
          | reader => exact ⟨_, .uncollected fits live role element slot⟩
  · exact ⟨_, .elementSize fits⟩

/-- **The section follows the rule**: what the rule says is the answer, and
the direction is as it was unless the request is accepted. -/
theorem submit_of_answers {answer : Except ChannelError Unit} (h : d.Answers buffer answer) :
    d.submit buffer = (answer,
      match answer with
      | .ok _ => { d with request := .pending buffer, ready := true, complete := false }
      | .error _ => d) := by
  unfold submit
  cases h with
  | elementSize unfit => rw [if_pos unfit]
  | closed fits ended => rw [if_neg (not_not.2 fits), if_pos ended]
  | pending fits live waiting slot =>
    rw [if_neg (not_not.2 fits), live, slot]
    rfl
  | servicing fits live slot =>
    rw [if_neg (not_not.2 fits), live, slot]
    rfl
  | uncollected fits live role element slot =>
    rw [if_neg (not_not.2 fits), live, slot, role]
    rfl
  | free fits live slot =>
    have kept : ¬(d.role = .reader ∧ Request.empty.holdsElement = true) := fun h =>
      Bool.noConfusion h.2
    rw [if_neg (not_not.2 fits), live, slot, if_neg Bool.noConfusion,
      if_neg Bool.noConfusion, if_neg kept]
  | spare fits live result slot own =>
    have kept : ¬(d.role = .reader ∧ (Request.finished result).holdsElement = true) := by
      rintro ⟨hrole, hheld⟩
      cases own with
      | inl hwriter => exact Role.noConfusion (hwriter.symm.trans hrole)
      | inr hrefused => exact Bool.noConfusion (hrefused.symm.trans hheld)
    rw [if_neg (not_not.2 fits), live, slot, if_neg Bool.noConfusion,
      if_neg Bool.noConfusion, if_neg kept]

/-- An answer is given exactly where the rule gives it. -/
theorem submit_eq_iff_answers {answer : Except ChannelError Unit} :
    (d.submit buffer).1 = answer ↔ d.Answers buffer answer := by
  constructor
  · rintro rfl
    obtain ⟨answer, h⟩ := d.exists_answer buffer
    rw [submit_of_answers h]
    exact h
  · intro h
    rw [submit_of_answers h]

/-- A request that is refused changes nothing. -/
theorem submit_of_error {e : ChannelError} (h : (d.submit buffer).1 = .error e) :
    d.submit buffer = (.error e, d) :=
  submit_of_answers (submit_eq_iff_answers.1 h)

theorem submit_of_ok (h : (d.submit buffer).1 = .ok ()) :
    d.submit buffer =
      (.ok (), { d with request := .pending buffer, ready := true, complete := false }) :=
  submit_of_answers (submit_eq_iff_answers.1 h)

/-! ## Collecting -/

theorem takeFinished_eq_some_iff : d.takeFinished.1 = some t ↔ d.request = .finished t := by
  unfold takeFinished
  cases d.request <;> simp

theorem takeFinished_of_finished (h : d.request = .finished t) :
    d.takeFinished = (some t, { d with request := .empty, complete := false }) := by
  rw [takeFinished, h]

theorem takeFinished_of_none (h : d.takeFinished.1 = none) : d.takeFinished = (none, d) := by
  cases takeFinished_cases d with
  | inl taken =>
    obtain ⟨t, -, ht⟩ := taken
    simp [ht] at h
  | inr none => exact none

/-! ## Any sections in any order -/

/-- **A section of a caller or of the worker.** -/
inductive Section
  | submit (buffer : Bytes)
  | collect
  | shutDown
  | pickUp
  | publish (result : Transfer)

/-- The direction after a section, and the result that the section hands
out, if it does. -/
def enter (d : Direction) : Section → Option Transfer × Direction
  | .submit buffer => (none, (d.submit buffer).2)
  | .collect => d.takeFinished
  | .shutDown => (none, d.signalExit)
  | .pickUp => (none, d.pickUp.2)
  | .publish result => (none, d.publish result)

/-- The results that sections hand out one after the other. -/
def handsOut (d : Direction) : List Section → List Transfer
  | [] => []
  | x :: rest => (d.enter x).1.toList ++ (d.enter x).2.handsOut rest

/-- The result that a section hands back to the slot. -/
def Section.publishes? : Section → Option Transfer
  | .publish result => some result
  | .submit _ => none
  | .collect => none
  | .shutDown => none
  | .pickUp => none

/-- The results that are in the slot at first or are handed back later. -/
def published (d : Direction) (sections : List Section) : List Transfer :=
  d.request.result?.toList ++ sections.filterMap Section.publishes?

/-- Picking a request up puts no result into the slot, and takes none out. -/
theorem result?_pickUp (d : Direction) : d.pickUp.2.request.result? = d.request.result? := by
  cases d.pickUp_cases with
  | inl picked =>
    obtain ⟨buffer, hpending, -, h⟩ := picked
    rw [h, hpending]
    rfl
  | inr stays => rw [stays.2]

/-- **One section keeps count**: what it hands out and what it leaves in
the slot was in the slot before, or is handed back by it. -/
theorem enter_sublist (d : Direction) (x : Section) :
    ((d.enter x).1.toList ++ (d.enter x).2.request.result?.toList).Sublist
      (d.request.result?.toList ++ x.publishes?.toList) := by
  cases x with
  | submit buffer =>
    cases d.submit_cases buffer with
    | inl refused =>
      obtain ⟨e, he⟩ := refused
      simp [enter, he, Section.publishes?]
    | inr accepted =>
      -- The result in the slot, if any, is lost to the new request.
      obtain ⟨-, -, -, -, h⟩ := accepted
      simp [enter, h, Request.result?]
  | collect =>
    cases d.takeFinished_cases with
    | inl taken =>
      obtain ⟨t, hfinished, ht⟩ := taken
      simp [enter, ht, hfinished, Request.result?, Section.publishes?]
    | inr none => simp [enter, none, Section.publishes?]
  | shutDown => simp [enter, signalExit, Section.publishes?]
  | pickUp => simp [enter, result?_pickUp, Section.publishes?]
  | publish result =>
    exact List.sublist_append_right d.request.result?.toList [result]

/-- **A result is handed out at most once**, whatever sections callers and
worker enter, and in whatever order. -/
theorem handsOut_sublist (d : Direction) (sections : List Section) :
    (d.handsOut sections).Sublist (d.published sections) := by
  induction sections generalizing d with
  | nil => exact List.nil_sublist _
  | cons x rest ih =>
    have hfirst : (x :: rest).filterMap Section.publishes? =
        x.publishes?.toList ++ rest.filterMap Section.publishes? := by
      cases h : x.publishes? <;> simp [h]
    have hrest : ((d.enter x).1.toList ++ (d.enter x).2.handsOut rest).Sublist
        ((d.enter x).1.toList ++ (d.enter x).2.published rest) := (ih _).append_left _
    have hhead := (d.enter_sublist x).append_right (rest.filterMap Section.publishes?)
    rw [List.append_assoc, List.append_assoc, ← hfirst] at hhead
    exact hrest.trans hhead

/-- **The acceptance rule.** In every state of a direction a request is
answered as the rule says, with the direction unchanged when it is refused,
so that it is refused again in the same way; a result is collected exactly
where there is one, which frees the slot; and no result goes out twice. -/
theorem acceptance_rule (d : Direction) (buffer : Bytes) :
    (∀ answer, (d.submit buffer).1 = answer ↔ d.Answers buffer answer) ∧
      (∀ e, (d.submit buffer).1 = .error e →
        (d.submit buffer).2 = d ∧ (d.submit buffer).2.submit buffer = (.error e, d)) ∧
      ((d.submit buffer).1 = .ok () →
        (d.submit buffer).2 =
          { d with request := .pending buffer, ready := true, complete := false }) ∧
      (∀ t, d.takeFinished.1 = some t ↔ d.request = .finished t) ∧
      (∀ t, d.takeFinished.1 = some t →
        d.takeFinished.2 = { d with request := .empty, complete := false }) ∧
      (d.takeFinished.1 = none → d.takeFinished.2 = d) ∧
      ∀ sections, (d.handsOut sections).Sublist (d.published sections) := by
  refine ⟨fun answer => submit_eq_iff_answers, fun e he => ?_, fun hok => ?_,
    fun t => takeFinished_eq_some_iff, fun t ht => ?_, fun hnone => ?_, d.handsOut_sublist⟩
  · have h := submit_of_error he
    rw [h]
    exact ⟨rfl, h⟩
  · rw [submit_of_ok hok]
  · rw [takeFinished_of_finished (takeFinished_eq_some_iff.1 ht)]
  · rw [takeFinished_of_none hnone]

end Direction

end TwinRing
