import TwinRing.Proofs.Channel.Opened
import TwinRing.Proofs.Direction.Lengths
import TwinRing.Proofs.Ring.Wrap
/-!
# Channels — backpressure, and nothing else

A channel gives each direction the element size of its ring, so whatever
its callers do, no length ever goes wrong between them, the workers and
the rings. What a worker brings back without having moved an element then
has one of few causes (`Backpressure`). Three of them are what a caller
waits for: the ring was full, it was empty, its lock could not be taken.
The fourth is not: a ring whose write index has run over, and whose read
index has not, gives nothing out although elements are unread in it.
-/

namespace TwinRing

namespace Ring

/-- **Why a ring does not move an element** that has the right length. -/
inductive Backpressure (role : Role) (g : Geometry) (o : Object) : Prop
  | lock (h : o.lock = .broken)
  | full (hrole : role = .writer) (h : isFull g o = true)
  | empty (hrole : role = .reader) (h : isEmpty g o = true)
  /-- The write index has run over, and the read index has not. -/
  | wrapped (hrole : role = .reader) (h : writeIndex o < readIndex o)

variable {g : Geometry} {o : Object} {buffer : Bytes} {role : Role}

/-- The test for room fails only in a ring that tells that it is full,
wherever its indices stand. -/
theorem isFull_of_bandSize_le (hv : g.Valid) (hlock : o.lock = .sound)
    (hfull : g.bandSize ≤ writeIndex o - readIndex o) : isFull g o = true := by
  have hsound : o.lock ≠ .broken := by rw [hlock]; decide
  have hroom := UInt64.le_iff_toNat_le.1 hfull
  rw [hv.bandSize_toNat] at hroom
  rw [isFull, decide_eq_true_iff, length, if_neg hsound, UInt64.le_iff_toNat_le, UInt64.toNat_div]
  exact (Nat.le_div_iff_mul_le hv.elementSize_pos).2 hroom

theorem isEmpty_of_eq (heq : writeIndex o = readIndex o) : isEmpty g o = true := by
  rw [isEmpty, beq_iff_eq, length]
  split
  · rfl
  · rw [heq, UInt64.sub_self, UInt64.zero_div]

/-- **An element of the right length is held back by backpressure only.** -/
theorem backpressure_of_not_moved (hv : g.Valid) (hb : buffer.length = g.elementSize.toNat)
    (h : (serve role g buffer o).1.isMoved = false) : Backpressure role g o := by
  cases hlock : o.lock with
  | broken => exact .lock hlock
  | sound =>
    have hsound : o.lock ≠ .broken := by rw [hlock]; decide
    cases role with
    | writer =>
      simp only [serve, enqueue] at h
      rw [if_neg (not_not.2 hb), if_neg hsound] at h
      by_cases hfull : g.bandSize ≤ writeIndex o - readIndex o
      · exact .full rfl (isFull_of_bandSize_le hv hlock hfull)
      · rw [if_neg hfull] at h
        cases h
    | reader =>
      simp only [serve, dequeue] at h
      rw [if_neg (not_not.2 hb), if_neg hsound] at h
      by_cases hle : writeIndex o ≤ readIndex o
      · rcases UInt64.lt_or_eq_of_le hle with hlt | heq
        · exact .wrapped rfl hlt
        · exact .empty rfl (isEmpty_of_eq heq)
      · rw [if_neg hle] at h
        cases h

end Ring

namespace Channel

variable {config : Config} {s s' : Store} {c : Channel}

/-- **What holds of the lengths on a lane**, whose elements have so many
bytes, at every moment. -/
structure LengthsHold (n : Nat) (course : Course) : Prop where
  /-- Every buffer in the slot, in the worker's hand, and that was accepted,
  served, collected, replaced or returned has the length of an element, and
  no attempt at the ring failed for a length. -/
  buffers : course.exchange.Fits n
  /-- What the worker is about to bring back without having moved an element
  was held back at the ring. -/
  reasons : ∀ buffer t, course.worker = some (.serving buffer) →
    (course.turn .worker).worker = some (.publishing t) → t.transferred = false →
      Ring.Backpressure course.direction.role course.lane.view.geometry
        (course.lane.view.object course.store)
  /-- A call that fails for a length has had nothing accepted, so this was
  its first attempt; and its own buffer had the wrong length. -/
  retries : ∀ ticket expected actual,
    .returned ticket (.error (.elementSize expected actual)) ∈ course.record →
      (∀ buffer, .accepted (some ticket) buffer ∉ course.record) ∧
        ∃ element, .began ticket element ∈ course.record ∧ actual = element.length ∧
          expected = n ∧ actual ≠ n
  /-- A blocking get into a buffer, which works on one of the same length,
  ends with that buffer filled, or as it was if there is an error. -/
  gets : ∀ ticket element result dst, .began ticket element ∈ course.record →
    .returned ticket result ∈ course.record → dst.length = element.length →
      ∃ outcome after, fill? dst result = some (outcome, after) ∧
        after.length = dst.length ∧
        (outcome = .ok () ↔ result = .ok after) ∧ ∀ e, outcome = .error e → after = dst

/-- The worker brings back what the ring made of its buffer. -/
theorem not_moved_of_publishing {course : Course} {buffer : Bytes} {t : Transfer}
    (hw : course.worker = some (.serving buffer))
    (hpublishing : (course.turn .worker).worker = some (.publishing t))
    (hrefused : t.transferred = false) :
    (Ring.serve course.direction.role course.lane.view.geometry buffer
      (course.lane.view.object course.store)).1.isMoved = false := by
  have hhand := congrArg Exchange.hand (Course.exchange_worker_of_serving hw)
  have hreturning : (course.turn .worker).exchange.hand = .returning t := by
    rw [Course.exchange, hpublishing]
    rfl
  have hsame := Hand.returning.inj (hreturning.symm.trans hhand)
  exact (congrArg Transfer.transferred hsame).symm.trans hrefused

theorem lengthsHold_of_measured {course : Course} {n : Nat} (h : course.Measured n)
    (hv : course.lane.view.geometry.Valid) : LengthsHold n course where
  buffers := h.fits
  reasons buffer t hw hpublishing hrefused := by
    have hb : buffer.length = n := h.fits.hand buffer (by rw [Course.exchange, hw]; rfl)
    exact Ring.backpressure_of_not_moved hv (hb.trans h.geometry.symm)
      (not_moved_of_publishing hw hpublishing hrefused)
  retries ticket expected actual hreturned := by
    obtain ⟨element, hbegan, hexpected, hactual, hne⟩ :=
      h.refusals ticket expected actual hreturned
    exact ⟨h.not_accepted_of_elementSize hreturned, element, hbegan, hactual, hexpected, hne⟩
  gets ticket element result dst hbegan hreturned hdst := by
    cases result with
    | error e =>
      exact ⟨.error e, dst, rfl, rfl, ⟨fun hok => (by cases hok), fun hok => (by cases hok)⟩,
        fun _ _ => rfl⟩
    | ok got =>
      have hlength : got.length = dst.length := by
        rw [h.fits.deeds _ hreturned got rfl, hdst, h.length_of_returned_ok hbegan hreturned]
      exact ⟨.ok (), got, if_pos hlength, hlength, ⟨fun _ => rfl, fun _ => rfl⟩,
        fun e he => (by cases he)⟩

/-- **Lengths never go wrong, and backpressure is all that holds an element
back.** On each side of a channel that was built, in every order in which
callers with buffers of any length, the worker, a shutdown and all others
that have the ring open can act. -/
theorem lengths_hold (h : build config s = (.ok c, s')) (role : Role) (turns : List Turn) :
    LengthsHold (config.geometry role).elementSize.toNat
      (({ lane := c.lane role, store := s' } : Course).run turns) := by
  obtain ⟨s₁, s₂, hopened⟩ := opened_of_build h
  have hready : ({ lane := c.lane role, store := s' } : Course) =
      (Course.start (c.lane role).view role (config.geometry role).elementSize s').run
        [.spawn, .worker] := by
    rw [hopened.lane_eq role]
    rfl
  have hmeasured : (({ lane := c.lane role, store := s' } : Course).run turns).Measured
      (config.geometry role).elementSize.toNat := by
    rw [hready, ← Course.run_append]
    exact (Course.Measured.start rfl (by rw [hopened.geometry_eq])).run _
  refine lengthsHold_of_measured hmeasured ?_
  have hview : (({ lane := c.lane role, store := s' } : Course).run turns).lane.view =
      (c.lane role).view :=
    Course.run_induction (P := fun course => course.lane.view = (c.lane role).view) turns rfl
      fun course t ih => (Course.view_turn course t).trans ih
  rw [hview, hopened.geometry_eq]
  exact hopened.valid role

/-! ### An element that is held back though it is unread -/

/-- A store with one ring of two elements, into which as many bytes were
put as there are words: one element is unread, and the write index has run
over. -/
def overrunStore : Store :=
  { names := [(.ofLetter 'w' (Eq.refl true), 0)]
    objects := #[Ring.setIndices 0xffffffffffffffff 0 { size := 58 }] }

/-- A channel that has this ring as its inbound one and clears nothing. -/
def overrunConfig : Config := .ofParts "w" "/out" 2 2 1 1 1000 false false

theorem isSome_overrun : (build overrunConfig overrunStore).1.toOption.isSome = true := by
  decide +kernel

def overrunChannel : Channel := Option.get _ isSome_overrun

theorem build_overrun :
    build overrunConfig overrunStore =
      (.ok overrunChannel, (build overrunConfig overrunStore).2) := by
  have hget : (build overrunConfig overrunStore).1.toOption = some overrunChannel :=
    (Option.some_get isSome_overrun).symm
  rcases hbuild : build overrunConfig overrunStore with ⟨e | c, s⟩
  · rw [hbuild] at hget
    cases hget
  · rw [hbuild] at hget
    cases hget
    rfl

/-- A blocking get begins, issues its request, and the worker goes to the
ring with its buffer. -/
def overrunTurns : List Turn :=
  [.begin [0xaa] (.fixed ⟨0, 0⟩), .call 0, .call 0, .rouseWorker, .worker]

theorem lengths_hold_overrun :
    ((({ lane := overrunChannel.lane .reader, store := (build overrunConfig overrunStore).2 } :
        Course).run overrunTurns).worker = some (.serving [0xaa])) ∧
      LengthsHold 1
        (({ lane := overrunChannel.lane .reader, store := (build overrunConfig overrunStore).2 } :
          Course).run overrunTurns) :=
  ⟨by decide +kernel, lengths_hold build_overrun .reader overrunTurns⟩

/-- **A get is refused though the ring is not empty**, its lock sound and
the buffer of the right length. -/
theorem refuses_unread :
    let s := (build overrunConfig overrunStore).2
    let o := overrunChannel.inbound.view.object s
    o.lock = .sound ∧ Ring.Spaced overrunConfig.inGeometry o 1 ∧
      Ring.isEmpty overrunConfig.inGeometry o = false ∧
      (overrunChannel.getAsync [0xaa] s).1.isOk = true ∧
      (overrunChannel.getAsync [0xaa] s).2.1.getResult.1 = some ⟨false, [0xaa]⟩ :=
  ⟨by decide +kernel, ⟨by decide +kernel, by decide +kernel, by decide +kernel⟩,
    by decide +kernel, by decide +kernel, by decide +kernel⟩

end Channel

end TwinRing
