import TwinRing.Ring.View
/-!
# System calls and opens that nothing strikes

With no fault waiting, what a system call comes to is a matter of its
arguments and of what is bound: each lemma here is an equation for one
call. From these come the equations for the steps of an open, so that a
proof about opens that nothing strikes meets no fault.
-/

namespace TwinRing

namespace Store

variable {s : Store} {name : SegmentName} {d : Descriptor} {size : UInt64} {n : Nat}

theorem strike_of_nil (hs : s.faults = []) (call : SystemCall) : s.strike call = (none, s) := by
  obtain ⟨names, objects, descriptors, mappings, nextDescriptor, faults, journal⟩ := s
  cases hs
  rfl

/-- **A name that is not bound is created**, for a new object. -/
theorem createName_of_absent (hs : s.faults = []) (hname : name.createRefusal? = none)
    (habsent : s.lookup name = none) :
    s.createName name = (.ok ⟨s.nextDescriptor, s.objects.size⟩,
      { s with
        names := (name, s.objects.size) :: s.names
        objects := s.objects.push {}
        descriptors := s.nextDescriptor :: s.descriptors
        nextDescriptor := s.nextDescriptor + 1 }) := by
  rw [createName, strike_of_nil hs]
  dsimp only
  rw [hname]
  dsimp only
  rw [habsent]
  rfl

theorem createName_of_bound (hs : s.faults = []) (hname : name.createRefusal? = none)
    (hbound : s.lookup name = some n) : s.createName name = (.error .alreadyExists, s) := by
  rw [createName, strike_of_nil hs]
  dsimp only
  rw [hname]
  dsimp only
  rw [hbound]

/-- **A name that is bound is opened**, and leads to its object. -/
theorem openName_of_bound (hs : s.faults = []) (hname : name.openRefusal? = none)
    (hbound : s.lookup name = some n) :
    s.openName name = (.ok ⟨s.nextDescriptor, n⟩,
      { s with
        descriptors := s.nextDescriptor :: s.descriptors
        nextDescriptor := s.nextDescriptor + 1 }) := by
  rw [openName, strike_of_nil hs]
  dsimp only
  rw [hname]
  dsimp only
  rw [hbound]
  rfl

theorem truncate_of_lt (hs : s.faults = []) (hsize : size.toNat < sizeBound) :
    s.truncate d size =
      (.ok (), s.modifyObject d.object fun o => { o with size := size.toNat }) := by
  rw [truncate, strike_of_nil hs]
  exact if_neg (Nat.not_le.2 hsize)

theorem measure_of_nil (hs : s.faults = []) :
    s.measure d = (.ok (s.object d.object).size, s) := by
  rw [measure, strike_of_nil hs]

theorem map_of_lt (hs : s.faults = []) (hpos : size ≠ 0) (hspan : size.toNat < addressSpan) :
    s.map d size = (.ok (), { s with mappings := d.object :: s.mappings }) := by
  rw [map, strike_of_nil hs]
  exact (if_neg hpos).trans (if_neg (Nat.not_le.2 hspan))

theorem perform_of_nil (hs : s.faults = []) (call : SystemCall) :
    s.perform call = (.ok true, s) := by
  rw [perform, strike_of_nil hs]

end Store

/-- **A lock is made for processes to share.** -/
theorem Handle.initLock_of_nil {s : Store} (h : Handle) (hs : s.faults = []) :
    h.initLock s = (.ok (), s.modifyObject h.object (·.makeLock Lock.sharedKind)) := by
  rw [initLock, Store.perform_of_nil hs]
  dsimp only
  rw [Store.perform_of_nil hs]
  dsimp only
  rw [Store.perform_of_nil hs]
  rfl

/-! ## The steps of an open -/

namespace RingOpening

open Store

variable {s : Store} {name : SegmentName} {g : Geometry} {size : UInt64} {d : Descriptor}
  {n : Nat}

theorem step_creating_of_absent (hs : s.faults = []) (hname : name.createRefusal? = none)
    (habsent : s.lookup name = none) :
    (RingOpening.segment .creating).step name g size s =
      (.segment (.sizing ⟨s.nextDescriptor, s.objects.size⟩),
        { s with
          names := (name, s.objects.size) :: s.names
          objects := s.objects.push {}
          descriptors := s.nextDescriptor :: s.descriptors
          nextDescriptor := s.nextDescriptor + 1 }) := by
  rw [step, Opening.step, createName_of_absent hs hname habsent]
  rfl

theorem step_creating_of_bound (hs : s.faults = []) (hname : name.createRefusal? = none)
    (hbound : s.lookup name = some n) :
    (RingOpening.segment .creating).step name g size s = (.segment .joining, s) := by
  rw [step, Opening.step, createName_of_bound hs hname hbound]
  rfl

theorem step_joining_of_bound (hs : s.faults = []) (hname : name.createRefusal? = none)
    (hbound : s.lookup name = some n) :
    (RingOpening.segment .joining).step name g size s =
      (.segment (.measuring ⟨s.nextDescriptor, n⟩),
        { s with
          descriptors := s.nextDescriptor :: s.descriptors
          nextDescriptor := s.nextDescriptor + 1 }) := by
  rw [step, Opening.step,
    openName_of_bound hs (SegmentName.openRefusal?_eq_none_iff.2 hname) hbound]
  rfl

theorem step_sizing (hs : s.faults = []) (hsize : size.toNat < sizeBound) :
    (RingOpening.segment (.sizing d)).step name g size s =
      (.segment (.mapping d true),
        s.modifyObject d.object fun o => { o with size := size.toNat }) := by
  rw [step, Opening.step, truncate_of_lt hs hsize]
  rfl

theorem step_measuring_of_lt (hs : s.faults = [])
    (hsmall : (s.object d.object).size < size.toNat) :
    (RingOpening.segment (.measuring d)).step name g size s =
      (.failed (.sizeMismatch name.full size.toNat (s.object d.object).size),
        (s.close d.number).2) := by
  rw [step, Opening.step, measure_of_nil hs]
  dsimp only
  rw [if_pos hsmall]
  rfl

theorem step_measuring_of_le (hs : s.faults = [])
    (hlarge : size.toNat ≤ (s.object d.object).size) :
    (RingOpening.segment (.measuring d)).step name g size s = (.segment (.mapping d false), s) := by
  rw [step, Opening.step, measure_of_nil hs]
  dsimp only
  rw [if_neg (Nat.not_lt.2 hlarge)]
  rfl

theorem step_mapping (hs : s.faults = []) (hpos : size ≠ 0) (hspan : size.toNat < addressSpan)
    (creator : Bool) :
    (RingOpening.segment (.mapping d creator)).step name g size s =
      (afterSegment g (.opened ⟨name, size, creator, d.number, d.object⟩),
        ({ s with mappings := d.object :: s.mappings } : Store).report
          (if creator then .created name size.toNat else .opened name size.toNat)) := by
  rw [step, Opening.step, map_of_lt hs hpos hspan]

theorem step_locking (hs : s.faults = []) (h : Handle) :
    (RingOpening.locking h).step name g size s =
      (.opened ⟨h, g⟩, s.modifyObject h.object (·.makeLock Lock.sharedKind)) := by
  rw [step, h.initLock_of_nil hs]

end RingOpening

end TwinRing
