import Mathlib.Tactic.Common
import TwinRing.Direction.Basic
/-!
# Directions — critical sections by what they can come to

A section of a caller either does its one thing or leaves the direction as
it is; so does the worker's look at the slot, flags apart. Each lemma here
says which, with all that the section has checked by then, so that no
proof about threads reads a section again.
-/

namespace TwinRing

namespace Direction

/-- **A request is refused and changes nothing, or it is accepted** into a
slot that holds neither a request on its way nor, for a reader, an element. -/
theorem submit_cases (d : Direction) (buffer : Bytes) :
    (∃ e, d.submit buffer = (.error e, d)) ∨
      buffer.length = d.elementSize.toNat ∧ d.exit = false ∧ d.request.isOutstanding = false ∧
        (d.role = .reader → d.request.holdsElement = false) ∧
        d.submit buffer =
          (.ok (), { d with request := .pending buffer, ready := true, complete := false }) := by
  unfold submit
  by_cases hlength : buffer.length = d.elementSize.toNat
  · rw [if_neg (not_not.2 hlength)]
    cases hexit : d.exit with
    | true => exact .inl ⟨.closed, rfl⟩
    | false =>
      cases hout : d.request.isOutstanding with
      | true => exact .inl ⟨.requestPending, rfl⟩
      | false =>
        by_cases hheld : d.role = .reader ∧ d.request.holdsElement = true
        · exact .inl ⟨.uncollectedResult, if_pos hheld⟩
        · refine .inr ⟨hlength, rfl, rfl, fun hrole => ?_, if_neg hheld⟩
          exact Bool.eq_false_iff.2 fun h => hheld ⟨hrole, h⟩
  · rw [if_pos hlength]
    exact .inl ⟨_, rfl⟩

/-- A buffer that fits is accepted into a free slot. -/
theorem submit_of_free {d : Direction} {buffer : Bytes}
    (fits : buffer.length = d.elementSize.toNat) (runs : d.exit = false)
    (free : d.request.isOutstanding = false)
    (kept : d.role = .reader → d.request.holdsElement = false) :
    d.submit buffer =
      (.ok (), { d with request := .pending buffer, ready := true, complete := false }) := by
  have hkept : ¬ (d.role = .reader ∧ d.request.holdsElement = true) :=
    fun hheld => Bool.false_ne_true ((kept hheld.1).symm.trans hheld.2)
  rw [submit, if_neg (not_not.2 fits), if_neg (by simp [runs]), if_neg (by simp [free]),
    if_neg hkept]

/-- **A result is taken out of the slot, or there is none** and nothing
changes. -/
theorem takeFinished_cases (d : Direction) :
    (∃ t, d.request = .finished t ∧
        d.takeFinished = (some t, { d with request := .empty, complete := false })) ∨
      d.takeFinished = (none, d) := by
  unfold takeFinished
  cases d.request with
  | finished t => exact .inl ⟨t, rfl, rfl⟩
  | empty => exact .inr rfl
  | pending buffer => exact .inr rfl
  | servicing => exact .inr rfl

/-- **The worker picks a request up, or the slot stays as it is.** -/
theorem pickUp_cases (d : Direction) :
    (∃ buffer, d.request = .pending buffer ∧ d.exit = false ∧
        d.pickUp = (.request buffer, { d with ready := false, request := .servicing })) ∨
      (∀ buffer, d.pickUp.1 ≠ .request buffer) ∧ d.pickUp.2.request = d.request := by
  unfold pickUp
  cases d.ready with
  | false => exact .inr ⟨fun _ => Found.noConfusion, rfl⟩
  | true =>
    cases d.exit with
    | true => exact .inr ⟨fun _ => Found.noConfusion, rfl⟩
    | false =>
      cases d.request with
      | pending buffer => exact .inl ⟨buffer, rfl, rfl, rfl⟩
      | empty => exact .inr ⟨fun _ => Found.noConfusion, rfl⟩
      | servicing => exact .inr ⟨fun _ => Found.noConfusion, rfl⟩
      | finished t => exact .inr ⟨fun _ => Found.noConfusion, rfl⟩

/-- To look for something to do changes the slot and the flag that led
there, and no more. -/
theorem pickUp_frame (d : Direction) :
    ∃ ready request, d.pickUp.2 = { d with ready, request } := by
  obtain ⟨role, elementSize, ready, exit, request, complete⟩ := d
  cases ready <;> cases exit <;> cases request <;> exact ⟨_, _, rfl⟩

end Direction

end TwinRing
