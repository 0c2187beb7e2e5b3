import TwinRing.Proofs.Ring.Founding
/-!
# Opening a ring together — what becomes of it

`outcome_of_run` says what holds of a race after any moves of any number
of processes. Exactly one of them is the creator, whatever the order. An
open succeeds exactly if its process did not measure the object before it
had a size, and what was put in is kept exactly if nothing was unread when
the indices were set to zero. Both can go wrong, for nothing keeps a
process that joins from measuring, or from using the ring, before the
creator is done: `loses_or_fails` plays both orders through.
-/

namespace TwinRing

namespace Race

variable {ι : Type} [DecidableEq ι] {name : SegmentName} {g : Geometry} {size : UInt64} {n : Nat}
  {s : Store} {c p : ι} {r : Race ι} {moves : List (Move ι)}

/-- A process holds the view of the creator. -/
def IsCreator (r : Race ι) (p : ι) : Prop :=
  ∃ v, r.opening p = .opened v ∧ v.handle.creator = true

/-- **What becomes of a race** after so many moves. An open has seven steps
at most. -/
structure Outcome (name : SegmentName) (g : Geometry) (size : UInt64) (n : Nat)
    (moves : List (Move ι)) (r : Race ι) : Prop where
  /-- A process that takes its steps has its view exactly if it has not
  measured early, -/
  opened_iff : ∀ p, 7 ≤ moves.count (.advance p) →
    ((∃ v, r.opening p = .opened v) ↔ ¬ MeasuredEarly p r.record)
  /-- and no process fails that has not. -/
  failed_iff : ∀ p cause,
    r.opening p = .failed cause ↔ cause = tooEarly name size ∧ MeasuredEarly p r.record
  /-- If all take their steps, exactly one is the creator, -/
  creator : (∀ p, 7 ≤ moves.count (.advance p)) → ∃! p, r.IsCreator p
  /-- and there never are two. -/
  creator_unique : ∀ p q, r.IsCreator p → r.IsCreator q → p = q
  /-- All views are on one object. -/
  shared : ∀ p v, r.opening p = .opened v → v.IsOn g n r.store
  /-- What was put in after the indices were set to zero was taken out, in
  this order, or is unread. -/
  kept_after : (puts r.record).flatten.length < UInt64.size → ∀ before p after,
    r.record = before ++ .zeroed p :: after →
      puts after = takes after ++ Ring.contents g (r.store.object n)
  /-- That is so of all that was put in, exactly if nothing was unread when
  the indices were set to zero. -/
  kept_iff : (puts r.record).flatten.length < UInt64.size →
    (puts r.record = takes r.record ++ Ring.contents g (r.store.object n) ↔ ZeroedDry r.record)

/-- **A race that has its founder ends like this.** -/
theorem Founded.outcome (hu : Unhindered name g size s) (h : Founded name g size n c r)
    (hsteps : ∀ p, 7 ≤ moves.count (.advance p) → (r.opening p).stepsLeft = 0) :
    Outcome name g size n moves r := by
  have failed_iff : ∀ p cause, r.opening p = .failed cause ↔
      cause = tooEarly name size ∧ MeasuredEarly p r.record := by
    intro p cause
    refine ⟨fun hfailed => ?_, fun hfails => hfails.1 ▸ (h.early p).1 hfails.2⟩
    have hcause : cause = tooEarly name size := by
      by_cases hp : p = c
      · subst hp
        exact absurd hfailed h.founder.ne_failed
      · have hjoiner := h.joiners p hp
        rwa [hfailed] at hjoiner
    exact ⟨hcause, (h.early p).2 (hcause ▸ hfailed)⟩
  have isCreator_iff : ∀ {p v}, r.opening p = .opened v → (v.handle.creator = true ↔ p = c) :=
    fun hv => (h.isOn_of_view? hu (RingOpening.view?_eq_some_iff.2 hv)).2
  have unique : ∀ p, r.IsCreator p → p = c := fun p ⟨_, hv, hcreator⟩ =>
    (isCreator_iff hv).1 hcreator
  refine ⟨fun p hp => ?_, failed_iff, fun hall => ⟨c, ?_, unique⟩,
    fun p q hp hq => (unique p hp).trans (unique q hq).symm,
    fun p v hv => (h.isOn_of_view? hu (RingOpening.view?_eq_some_iff.2 hv)).1,
    fun hbound _ _ _ hsplit => (h.account hbound).kept_after hsplit,
    fun hbound => (h.account hbound).kept_iff⟩
  · rcases RingOpening.stepsLeft_eq_zero_iff.1 (hsteps p hp) with ⟨v, hv⟩ | ⟨cause, hcause⟩
    · refine iff_of_true ⟨v, hv⟩ fun hearly => ?_
      have hfailed := (h.early p).1 hearly
      rw [hv] at hfailed
      cases hfailed
    · refine iff_of_false ?_ (not_not.2 ((failed_iff p cause).1 hcause).2)
      rintro ⟨v, hv⟩
      rw [hcause] at hv
      cases hv
  · rcases RingOpening.stepsLeft_eq_zero_iff.1 (hsteps c (hall c)) with ⟨v, hv⟩ | ⟨cause, hcause⟩
    · exact ⟨v, hv, (isCreator_iff hv).2 rfl⟩
    · exact absurd hcause h.founder.ne_failed

/-- Nothing comes of a race in which nobody has moved. -/
theorem outcome_of_start [Nonempty ι]
    (hsteps : ∀ p : ι, 7 ≤ moves.count (.advance p) →
      ((start s : Race ι).opening p).stepsLeft = 0) :
    Outcome name g size s.objects.size moves (start s) := by
  have hcontents : Ring.contents g (s.object s.objects.size) = [] := by
    rw [show s.object s.objects.size = {} by simp [Store.object]]
    exact Ring.contents_of_readIndex_eq (by decide)
  have hunzeroed : Unzeroed (start s : Race ι).record := fun _ => List.not_mem_nil
  have hidle : ∀ p : ι, ¬ 7 ≤ moves.count (.advance p) := fun p hp =>
    absurd (hsteps p hp) (show 7 ≠ 0 by decide)
  refine ⟨fun p hp => absurd hp (hidle p), fun p cause => ?_, fun hall => ?_, ?_, ?_, ?_, ?_⟩
  · exact iff_of_false (fun h => RingOpening.noConfusion h) fun h => not_measuredEarly_nil h.2
  · exact absurd (hall (Classical.arbitrary ι)) (hidle _)
  · rintro p q ⟨v, hv, -⟩
    cases hv
  · intro p v hv
    cases hv
  · exact fun _ _ _ _ hsplit => absurd hsplit hunzeroed.ne_cut
  · exact fun _ => iff_of_true hcontents.symm fun _ _ _ hsplit => absurd hsplit hunzeroed.ne_cut

/-- **Until someone opens, nothing happens**, and then there is a
founder. -/
theorem founded_of_run (hu : Unhindered name g size s) (moves : List (Move ι)) :
    (start s).run name g size moves = start s ∨
      ∃ c, Founded name g size s.objects.size c ((start s).run name g size moves) := by
  induction moves with
  | nil => exact .inl rfl
  | cons m moves ih =>
    cases m with
    | advance p => exact .inr ⟨p, (founded_of_start hu).run hu moves⟩
    | enqueue p element => exact ih
    | dequeue p buffer => exact ih

/-- **What becomes of a race.** Any number of processes open a ring under
a name that nobody has created, and use it as soon as they have it; no
call fails. After any moves, in any order, all views are on one object. A
process that has taken its steps has its view exactly if it did not
measure the object before it was given its size, and no other process
fails; of those that have taken their steps exactly one is the creator.
And as long as fewer bytes were put in than a word counts, all that was
put in was taken out, in this order, or is unread, exactly if nothing was
unread when the creator set the indices to zero; what was put in after
that always was or is. -/
theorem outcome_of_run [Nonempty ι] (hu : Unhindered name g size s) (moves : List (Move ι)) :
    Outcome name g size s.objects.size moves ((start s).run name g size moves) := by
  have hsteps : ∀ p : ι, 7 ≤ moves.count (.advance p) →
      (((start s).run name g size moves).opening p).stepsLeft = 0 := fun p hp =>
    Nat.le_zero.1 (Nat.le_trans (stepsLeft_run moves) (Nat.le_of_eq (Nat.sub_eq_zero_of_le hp)))
  rcases founded_of_run hu moves with hstart | ⟨c, hfounded⟩
  · rw [hstart] at hsteps ⊢
    exact outcome_of_start hsteps
  · exact hfounded.outcome hu hsteps

/-! ### Two processes and a ring of two bytes -/

def raceName : SegmentName := .ofLetter 'r' (Eq.refl true)

/-- A race on a store on which nobody has opened anything. -/
def raced (moves : List (Move Bool)) : Race Bool := (start {}).run raceName ⟨2, 1⟩ 58 moves

/-- The second process waits for the creator to be done. -/
def patientMoves : List (Move Bool) :=
  List.replicate 7 (.advance true) ++ List.replicate 7 (.advance false) ++
    [.enqueue false [7], .dequeue true [0]]

theorem outcome_of_run_patient :
    Unhindered raceName ⟨2, 1⟩ 58 {} ∧ (∀ p, 7 ≤ patientMoves.count (.advance p)) ∧
      Outcome raceName ⟨2, 1⟩ 58 0 patientMoves (raced patientMoves) := by
  have hunhindered : Unhindered raceName ⟨2, 1⟩ 58 {} :=
    ⟨by rfl, by decide, by decide +kernel, rfl, rfl⟩
  exact ⟨hunhindered, by decide, outcome_of_run hunhindered patientMoves⟩

/-- The creator has given the object its size when the other measures it.
The other has its view at once and puts an element in. Then the creator
zeroes the indices and makes the lock, and the other finds nothing to take
out. -/
def hastyMoves : List (Move Bool) :=
  [.advance true, .advance false, .advance false, .advance true, .advance false, .advance false,
    .enqueue false [7], .advance true, .advance true, .advance true, .dequeue false [0]]

/-- The other measures the object before the creator has given it its
size. -/
def earlyMoves : List (Move Bool) :=
  [.advance true, .advance false, .advance false, .advance false]

/-- **Whoever joins too soon loses an element, or fails.** -/
theorem loses_or_fails :
    (∀ p, ∃ v, (raced hastyMoves).opening p = .opened v) ∧
      puts (raced hastyMoves).record = [[7]] ∧ takes (raced hastyMoves).record = [] ∧
      Ring.contents ⟨2, 1⟩ ((raced hastyMoves).store.object 0) = [] ∧
      ∃ cause, (raced earlyMoves).opening false = .failed cause := by
  have hviews : ∀ p, ((raced hastyMoves).opening p).view?.isSome = true := by decide +kernel
  have hended : ((raced earlyMoves).opening false).stepsLeft = 0 := by decide +kernel
  have hnone : ((raced earlyMoves).opening false).view?.isSome = false := by decide +kernel
  refine ⟨fun p => ?_, by decide +kernel, by decide +kernel, by decide +kernel, ?_⟩
  · obtain ⟨v, hv⟩ := Option.isSome_iff_exists.1 (hviews p)
    exact ⟨v, RingOpening.view?_eq_some_iff.1 hv⟩
  · rcases RingOpening.stepsLeft_eq_zero_iff.1 hended with ⟨v, hv⟩ | hfailed
    · rw [hv] at hnone
      cases hnone
    · exact hfailed

end Race

end TwinRing
