import TwinRing.Segment.Handle
/-!
# Opening a segment

A segment is created by whoever opens its name first, and opened by all
who come after. Nobody asks beforehand whether the name is bound: the open
first tries to create it, on the condition that it is not bound, so that
of several that try at once exactly one succeeds; the others find the name
bound and open what is there.

The open is a sequence of system calls, and others may act between any two
of them. So it is given here as the steps of a state machine, one step to
a call, together with the run of these steps to their end.
-/

namespace TwinRing

/-- **How far an open has come.** -/
inductive Opening
  /-- The name is to be created, if it is not bound. -/
  | creating
  /-- The name was bound: it is to be opened as it is. -/
  | joining
  /-- The name was created: its object is to be given its size. -/
  | sizing (d : Descriptor)
  /-- The name was opened: its object is to be measured. -/
  | measuring (d : Descriptor)
  /-- The object is large enough and is to be mapped. -/
  | mapping (d : Descriptor) (creator : Bool)
  /-- It has succeeded. -/
  | opened (h : Handle)
  /-- It has failed. -/
  | failed (cause : SegmentError)

namespace Opening

/-- Undo what an open did that fails after it has a descriptor: close the
descriptor, and remove the name if this open created it. -/
def abandon (name : SegmentName) (d : Descriptor) (creator : Bool) (s : Store) : Store :=
  let s := (s.close d.number).2
  if creator then (s.removeName name).2 else s

/-- **The next step of an open** of so many bytes under a name. An open
that has come to its end stays there. -/
def step (name : SegmentName) (size : UInt64) : Opening → Store → Opening × Store
  | .creating, s =>
    match s.createName name with
    | (.ok d, s) => (.sizing d, s)
    | (.error e, s) =>
      if e = .alreadyExists then (.joining, s) else (.failed (.openFailed name.full e), s)
  | .joining, s =>
    match s.openName name with
    | (.ok d, s) => (.measuring d, s)
    | (.error e, s) => (.failed (.openFailed name.full e), s)
  | .sizing d, s =>
    match s.truncate d size with
    | (.ok _, s) => (.mapping d true, s)
    | (.error e, s) => (.failed (.openFailed name.full e), abandon name d true s)
  | .measuring d, s =>
    match s.measure d with
    | (.ok actual, s) =>
      if actual < size.toNat then
        (.failed (.sizeMismatch name.full size.toNat actual), abandon name d false s)
      else (.mapping d false, s)
    | (.error e, s) => (.failed (.openFailed name.full e), abandon name d false s)
  | .mapping d creator, s =>
    match s.map d size with
    | (.ok _, s) =>
      (.opened ⟨name, size, creator, d.number, d.object⟩,
        s.report (if creator then .created name size.toNat else .opened name size.toNat))
    | (.error e, s) => (.failed (.mapFailed name.full e), abandon name d creator s)
  | .opened h, s => (.opened h, s)
  | .failed cause, s => (.failed cause, s)

/-- How many steps an open may still take. -/
def stepsLeft : Opening → Nat
  | .creating => 4
  | .joining => 3
  | .sizing _ => 2
  | .measuring _ => 2
  | .mapping _ _ => 1
  | .opened _ => 0
  | .failed _ => 0

/-- Every step of an open that has not come to its end brings it nearer. -/
theorem stepsLeft_step_lt (name : SegmentName) (size : UInt64) (o : Opening) (s : Store)
    (h : 0 < o.stepsLeft) : (o.step name size s).1.stepsLeft < o.stepsLeft := by
  cases o with
  | creating => simp only [step]; split <;> (try split) <;> simp [stepsLeft]
  | joining => simp only [step]; split <;> simp [stepsLeft]
  | sizing d => simp only [step]; split <;> simp [stepsLeft]
  | measuring d => simp only [step]; split <;> (try split) <;> simp [stepsLeft]
  | mapping d creator => simp only [step]; split <;> simp [stepsLeft]
  | opened h' => simp [stepsLeft] at h
  | failed cause => simp [stepsLeft] at h

/-- **Run an open to its end.** -/
def run (name : SegmentName) (size : UInt64) (o : Opening) (s : Store) :
    Except SegmentError Handle × Store :=
  match o with
  | .opened h => (.ok h, s)
  | .failed cause => (.error cause, s)
  | .creating => run name size (Opening.creating.step name size s).1
      (Opening.creating.step name size s).2
  | .joining => run name size (Opening.joining.step name size s).1
      (Opening.joining.step name size s).2
  | .sizing d => run name size ((Opening.sizing d).step name size s).1
      ((Opening.sizing d).step name size s).2
  | .measuring d => run name size ((Opening.measuring d).step name size s).1
      ((Opening.measuring d).step name size s).2
  | .mapping d creator => run name size ((Opening.mapping d creator).step name size s).1
      ((Opening.mapping d creator).step name size s).2
termination_by o.stepsLeft
decreasing_by all_goals exact stepsLeft_step_lt name size _ s (by simp [stepsLeft])

end Opening

namespace Store

/-- Open so many bytes of the segment with a canonical name, creating it
if the name is not bound. -/
def openSegment (s : Store) (name : SegmentName) (size : UInt64) :
    Except SegmentError Handle × Store :=
  Opening.creating.run name size s

/-- **Open the segment that a text names.** -/
def openNamed (s : Store) (given : String) (size : UInt64) :
    Except SegmentError Handle × Store :=
  match SegmentName.ofString given with
  | .error e => (.error e, s)
  | .ok name => s.openSegment name size

end Store

end TwinRing
