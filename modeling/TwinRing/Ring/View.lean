import TwinRing.Ring.Basic
import TwinRing.Segment.Opening
/-!
# Ring views

A view is a ring as one caller has opened it: a handle on its segment and
the geometry it was opened with. Only the view that created the segment
makes it a ring, by zeroing the indices and making the lock; a later view
takes the segment as it finds it, provided it is large enough. Views of
different geometry may lie on one segment, and each sees it in its own
way.
-/

namespace TwinRing

/-- **A ring as opened.** -/
structure View where
  /-- The handle on its segment. -/
  handle : Handle
  /-- The geometry it was opened with. -/
  geometry : Geometry

/-! ## Opening -/

/-- **How far the opening of a ring has come.** -/
inductive RingOpening
  /-- Its segment is being opened. -/
  | segment (o : Opening)
  /-- Its segment is new: the indices are to be zeroed. -/
  | zeroing (h : Handle)
  /-- The indices are zero: the lock is to be made. -/
  | locking (h : Handle)
  /-- It has succeeded. -/
  | opened (v : View)
  /-- It has failed. -/
  | failed (cause : SegmentError)

namespace RingOpening

/-- What comes after a step of the opening of the segment: only a creator
has more to do. -/
def afterSegment (g : Geometry) : Opening → RingOpening
  | .opened h => if h.creator then .zeroing h else .opened ⟨h, g⟩
  | .failed cause => .failed cause
  | .creating => .segment .creating
  | .joining => .segment .joining
  | .sizing d => .segment (.sizing d)
  | .measuring d => .segment (.measuring d)
  | .mapping d creator => .segment (.mapping d creator)

/-- Undo the creation of a segment whose lock could not be made: drop the
handle, and remove the name. -/
def abandon (h : Handle) (s : Store) : Store :=
  match (h.drop s).unlinkName h.name with
  | (.ok _, s) => s
  | (.error cause, s) => s.report (.cleanupFailed cause)

/-- **The next step of the opening of a ring** under a name, in a segment
of so many bytes. -/
def step (name : SegmentName) (g : Geometry) (size : UInt64) :
    RingOpening → Store → RingOpening × Store
  | .segment o, s =>
    let (o, s) := o.step name size s
    (afterSegment g o, s)
  | .zeroing h, s => (.locking h, s.modifyObject h.object (Ring.setIndices 0 0))
  | .locking h, s =>
    match h.initLock s with
    | (.ok _, s) => (.opened ⟨h, g⟩, s)
    | (.error e, s) => (.failed (.lockFailed e), abandon h s)
  | .opened v, s => (.opened v, s)
  | .failed cause, s => (.failed cause, s)

/-- How many steps the opening of a ring may still take. -/
def stepsLeft : RingOpening → Nat
  | .segment o => o.stepsLeft + 3
  | .zeroing _ => 2
  | .locking _ => 1
  | .opened _ => 0
  | .failed _ => 0

/-- What follows a step of the segment has as many steps left as that
step leaves, and those of the creator. -/
theorem stepsLeft_afterSegment_le (g : Geometry) (o : Opening) :
    (afterSegment g o).stepsLeft ≤ o.stepsLeft + 3 := by
  cases o <;> simp only [afterSegment] <;> (try split) <;> simp [stepsLeft, Opening.stepsLeft]

/-- What follows the end of the opening of the segment has fewer steps
left than the opening of the segment counts. -/
theorem stepsLeft_afterSegment_lt (g : Geometry) (o : Opening) (h : o.stepsLeft = 0) :
    (afterSegment g o).stepsLeft < 3 := by
  cases o <;> simp [Opening.stepsLeft] at h <;> simp only [afterSegment] <;> (try split) <;>
    simp [stepsLeft]

/-- Every step of an opening that has not come to its end brings it
nearer. -/
theorem stepsLeft_step_lt (name : SegmentName) (g : Geometry) (size : UInt64)
    (r : RingOpening) (s : Store) (h : 0 < r.stepsLeft) :
    (r.step name g size s).1.stepsLeft < r.stepsLeft := by
  cases r with
  | segment o =>
    change (afterSegment g (o.step name size s).1).stepsLeft < o.stepsLeft + 3
    rcases Nat.eq_zero_or_pos (o.step name size s).1.stepsLeft with h0 | hpos
    · have := stepsLeft_afterSegment_lt g _ h0
      omega
    · -- an opening that has steps left after a step had some before it
      have hle := stepsLeft_afterSegment_le g (o.step name size s).1
      rcases Nat.eq_zero_or_pos o.stepsLeft with hz | ho
      · cases o <;> simp [Opening.stepsLeft] at hz <;>
          simp [Opening.step, Opening.stepsLeft] at hpos
      · have := Opening.stepsLeft_step_lt name size o s ho
        omega
  | zeroing h' => simp [step, stepsLeft]
  | locking h' => simp only [step]; split <;> simp [stepsLeft]
  | opened v => simp [stepsLeft] at h
  | failed cause => simp [stepsLeft] at h

/-- **Run the opening of a ring to its end.** -/
def run (name : SegmentName) (g : Geometry) (size : UInt64) (r : RingOpening) (s : Store) :
    Except SegmentError View × Store :=
  match r with
  | .opened v => (.ok v, s)
  | .failed cause => (.error cause, s)
  | .segment o => run name g size ((RingOpening.segment o).step name g size s).1
      ((RingOpening.segment o).step name g size s).2
  | .zeroing h => run name g size ((RingOpening.zeroing h).step name g size s).1
      ((RingOpening.zeroing h).step name g size s).2
  | .locking h => run name g size ((RingOpening.locking h).step name g size s).1
      ((RingOpening.locking h).step name g size s).2
termination_by r.stepsLeft
decreasing_by all_goals exact stepsLeft_step_lt name g size _ s (by simp [stepsLeft])

end RingOpening

namespace Store

/-- **Open the ring that a text names**, with a geometry. The geometry is
judged before the name, and the name before any system call. -/
def openRing (s : Store) (given : String) (g : Geometry) : Except SegmentError View × Store :=
  match g.segmentSize with
  | .error e => (.error e, s)
  | .ok size =>
    match SegmentName.ofString given with
    | .error e => (.error e, s)
    | .ok name => (RingOpening.segment .creating).run name g size s

end Store

/-! ## Using -/

namespace View

/-- The name of the segment. -/
def name (v : View) : SegmentName := v.handle.name

/-- The object that holds the ring. -/
def object (v : View) (s : Store) : Object := s.object v.handle.object

/-- The report that an operation on an object leaves: none, unless its
lock cannot be taken. -/
def lockReport? (v : View) (o : Object) : Option Event :=
  match o.lock with
  | .sound => none
  | .broken => some (.lockFailed v.name .invalidArgument)

/-- The report that an attempt leaves. -/
def attemptReport? (v : View) : Attempt → Option Event
  | .lockFailed => some (.lockFailed v.name .invalidArgument)
  | .moved => none
  | .wrongLength => none
  | .refused => none

/-- Put one element in. -/
def enqueue (v : View) (element : Bytes) (s : Store) : Attempt × Store :=
  let (attempt, s) := s.updateObject v.handle.object (Ring.enqueue v.geometry element)
  (attempt, s.report? (v.attemptReport? attempt))

/-- Take the oldest element out into a buffer. -/
def dequeue (v : View) (buffer : Bytes) (s : Store) : Attempt × Bytes × Store :=
  let ((attempt, buffer), s) := s.updateObject v.handle.object fun o =>
    let (attempt, buffer, o) := Ring.dequeue v.geometry buffer o
    ((attempt, buffer), o)
  (attempt, buffer, s.report? (v.attemptReport? attempt))

/-- Discard all that is unread, and report it. -/
def clear (v : View) (s : Store) : Store :=
  let o := v.object s
  (s.setObject v.handle.object (Ring.clear o)).report
    ((v.lockReport? o).getD (.cleared v.name))

/-- How many elements are unread. -/
def length (v : View) (s : Store) : UInt64 × Store :=
  let o := v.object s
  (Ring.length v.geometry o, s.report? (v.lockReport? o))

/-- Whether no element is unread. -/
def isEmpty (v : View) (s : Store) : Bool × Store :=
  let (n, s) := v.length s
  (n == 0, s)

/-- Whether as many elements are unread as the ring holds. -/
def isFull (v : View) (s : Store) : Bool × Store :=
  let (n, s) := v.length s
  (decide (v.geometry.capacity ≤ n), s)

/-- Give the view up; the segment and its name stay. -/
def drop (v : View) (s : Store) : Store := v.handle.drop s

/-- **Give the view up and, if asked to, remove the name of its segment.**
The view is gone even when the name cannot be removed. -/
def destroy (v : View) (unlink : Bool) (s : Store) : Except SegmentError Unit × Store :=
  let s := v.drop s
  if unlink then s.unlink v.name.full else (.ok (), s)

/-- A view as a diagnostic message shows it. The place of the band is
chance and has a stand-in; the indices are not shown, for they are not
looked at without the lock. -/
def shown (v : View) : Text.Shown :=
  .fields "RingQueue"
    [("name", .text v.name.full), ("capacity", .number v.geometry.capacity.toNat),
      ("element_size", .number v.geometry.elementSize.toNat),
      ("creator", .flag v.handle.creator), ("data", .word "PTR")] true

end View

end TwinRing
