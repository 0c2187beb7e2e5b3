import TwinRing.Proofs.Ring.Mapping
/-!
# Opening a ring — in a segment that is too small

An open measures the object that it finds under its name, and that it finds
too small only if it is: whatever calls fail on the way, an open that fails
for the size of its segment has found the name bound to an object of fewer
bytes than it asked for (`cramped_of_sizeMismatch`). So a name that leads to
an object with room for a ring (`Houses`) is never refused for its size,
and it leads there for as long as it is not removed.
-/

namespace TwinRing

namespace Store

variable {s₀ s s' : Store} {name other : SegmentName} {size : UInt64} {d : Descriptor}

/-- **A name leads to an object of fewer bytes.** -/
def Cramped (s : Store) (name : SegmentName) (size : UInt64) : Prop :=
  ∃ n, s.lookup name = some n ∧ (s.object n).size < size.toNat

/-- **A name leads to an object that has room for so many bytes.** -/
structure Houses (s : Store) (name : SegmentName) (size : UInt64) (n : Nat) : Prop where
  live : n < s.objects.size
  bound : s.lookup name = some n
  fits : size.toNat ≤ (s.object n).size

theorem Houses.not_cramped {n : Nat} (h : s.Houses name size n) : ¬ s.Cramped name size := by
  rintro ⟨m, hbound, hsmall⟩
  obtain rfl := Option.some.inj (h.bound.symm.trans hbound)
  exact absurd h.fits (Nat.not_le.2 hsmall)

/-- What an open leaves alone houses what it housed. -/
theorem Houses.kept {n : Nat} (h : s.Houses name size n) (hk : Kept s other s') :
    s'.Houses name size n :=
  ⟨Nat.lt_of_lt_of_le h.live hk.size_le, hk.lookup_of_bound h.bound,
    (hk.objects n h.live).symm ▸ h.fits⟩

/-- What was joined is of the size that it was of before. -/
theorem Holding.object_eq (hh : Holding s₀ name d false s) :
    s.object d.object = s₀.object d.object := by
  have hsize := (hh.joined rfl).size
  by_cases live : d.object < s₀.objects.size
  · exact hh.objects _ live
  · have hgone : ∀ t : Store, t.objects.size = s₀.objects.size → t.object d.object = {} := by
      intro t ht
      rw [object, Array.getD_eq_getD_getElem?,
        Array.getElem?_eq_none (by rw [ht]; exact Nat.le_of_not_lt live)]
      rfl
    rw [hgone s hsize, hgone s₀ rfl]

end Store

open Store

namespace Opening

variable {s₀ s : Store} {name : SegmentName} {size : UInt64}

/-- **An open that has failed for the size of its segment** has found too
small a segment. -/
def Candid (s₀ : Store) (name : SegmentName) (size : UInt64) : Opening → Prop
  | .failed (.sizeMismatch _ _ _) => s₀.Cramped name size
  | _ => True

theorem Candid.step (o : Opening) (h : o.Tracked s₀ name s) (hc : o.Candid s₀ name size) :
    (o.step name size s).1.Candid s₀ name size := by
  cases o with
  | creating =>
    rw [Opening.step]
    rcases s.createName name with ⟨e | d, t⟩
    · dsimp only
      split <;> trivial
    · trivial
  | joining =>
    rw [Opening.step]
    rcases s.openName name with ⟨e | d, t⟩ <;> trivial
  | sizing d =>
    rw [Opening.step]
    rcases s.truncate d size with ⟨e | _, t⟩ <;> trivial
  | measuring d =>
    -- the object is that of before, so it was too small then
    obtain ⟨hholding, -⟩ := h
    obtain ⟨faults, ⟨e, hmeasure⟩ | hmeasure⟩ := s.measure_cases d <;>
      rw [Opening.step, hmeasure]
    · trivial
    · dsimp only
      split
      · rename_i hsmall
        exact ⟨d.object, (hholding.joined rfl).bound, hholding.object_eq ▸ hsmall⟩
      · trivial
  | mapping d creator =>
    rw [Opening.step]
    rcases s.map d size with ⟨e | _, t⟩ <;> trivial
  | opened k => exact hc
  | failed cause => exact hc

end Opening

namespace RingOpening

variable {s₀ s : Store} {name : SegmentName} {g : Geometry} {size : UInt64}

/-- The same of the opening of a ring. -/
def Candid (s₀ : Store) (name : SegmentName) (size : UInt64) : RingOpening → Prop
  | .segment o => o.Candid s₀ name size
  | .failed cause => (Opening.failed cause).Candid s₀ name size
  | .zeroing _ => True
  | .locking _ => True
  | .opened _ => True

theorem candid_afterSegment {o : Opening} (h : o.Candid s₀ name size) :
    (afterSegment g o).Candid s₀ name size := by
  cases o with
  | opened k =>
    dsimp only [afterSegment]
    split <;> trivial
  | _ => exact h

theorem Candid.step (r : RingOpening) (h : r.Tracked s₀ name g s) (hc : r.Candid s₀ name size) :
    (r.step name g size s).1.Candid s₀ name size := by
  cases r with
  | segment o => exact candid_afterSegment (Opening.Candid.step o h hc)
  | zeroing k => trivial
  | locking k =>
    rw [RingOpening.step]
    rcases k.initLock s with ⟨e | _, t⟩ <;> trivial
  | opened v => trivial
  | failed cause => exact hc

theorem candid_run (name : SegmentName) (g : Geometry) (size : UInt64) (s : Store) :
    (ended ((RingOpening.segment .creating).run name g size s).1).Candid s name size :=
  (run_induction (P := fun r t => r.Tracked s name g t ∧ r.Candid s name size)
    (r := .segment .creating) ⟨Untouched.refl, trivial⟩
    fun r _ ⟨ht, hc⟩ => ⟨ht.step r, Candid.step r ht hc⟩).2

end RingOpening

namespace Store

variable {s s' : Store} {given : String} {name : SegmentName} {g : Geometry} {size : UInt64}
variable {v : View} {cause : SegmentError}

/-- **An open of a ring that fails for the size of its segment** has found
too small a segment, whatever else was to fail. -/
theorem cramped_of_sizeMismatch {text : String} {expected actual : Nat}
    (hname : SegmentName.ofString given = .ok name) (hsize : g.segmentSize = .ok size)
    (h : s.openRing given g = (.error (.sizeMismatch text expected actual), s')) :
    s.Cramped name size := by
  have hend := RingOpening.candid_run name g size s
  rw [(openRing_of_valid hname hsize).symm.trans h] at hend
  exact hend

/-- **What is asked for is not refused** where the name and the shape are
in order. -/
theorem isRefusal_of_openRing (hname : SegmentName.ofString given = .ok name)
    (hsize : g.segmentSize = .ok size) (h : s.openRing given g = (.error cause, s')) :
    cause.isRefusal = false := by
  have hend := RingOpening.tracked_run name g size s
  rw [(openRing_of_valid hname hsize).symm.trans h] at hend
  exact hend.1

/-- **A ring that is open is housed.** -/
theorem houses_of_openRing (h : s.openRing given g = (.ok v, s')) :
    s'.Houses v.name v.handle.size v.handle.object := by
  have hgranted := ringGranted_of_openRing h
  have hself : s'.lookup v.handle.name = some v.handle.object :=
    hgranted.granted.held.name_eq ▸ hgranted.granted.held.lookup_self
  exact ⟨(View.mapped_of_openRing h).isOn.live, hself, hgranted.granted.fits⟩

end Store

end TwinRing
