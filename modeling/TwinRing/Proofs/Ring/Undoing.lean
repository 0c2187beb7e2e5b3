import TwinRing.Proofs.Ring.Contents
import TwinRing.Proofs.Segment.Undoing
/-!
# Opening a ring — what it takes and what it gives back

The creator of a ring has more to do than the creator of a segment, and
more to undo when that fails: a mapping, a descriptor and the name. Here
the account that `Opening.Tracked` keeps of a segment is carried on to the
end of the opening of a ring. At that end a ring is either held, and fresh
if it is new, or all is as it was. `failed_open_leaves_nothing` says the
latter of both kinds of open.
-/

namespace TwinRing

namespace RingOpening

/-- **Both indices are zero.** -/
def Zeroed (o : Object) : Prop := Ring.readIndex o = 0 ∧ Ring.writeIndex o = 0

theorem zeroed_setIndices (o : Object) : Zeroed (Ring.setIndices 0 0 o) := by
  refine ⟨?_, Object.wordAt_setWord_self ..⟩
  exact (Object.wordAt_setWord_of_disjoint (.inl (by decide))).trans
    (Object.wordAt_setWord_self ..)

/-- To make a lock is to write before the indices. -/
theorem Zeroed.makeLock {o : Object} (h : Zeroed o) (kind : UInt8) :
    Zeroed (o.makeLock kind) :=
  ⟨(Object.wordAt_makeLock_of_le (by decide)).trans h.1,
    (Object.wordAt_makeLock_of_le (by decide)).trans h.2⟩

end RingOpening

namespace Ring

/-- **A ring as its creator leaves it**: both indices are zero, and the
lock can be taken. -/
structure Fresh (o : Object) : Prop where
  zeroed : RingOpening.Zeroed o
  lock : o.lock = .sound

/-- An object whose lock can be taken is made a ring by its indices. -/
theorem fresh_of_lock {o : Object} (h : o.lock = .sound) : Fresh (setIndices 0 0 o) := by
  refine ⟨RingOpening.zeroed_setIndices o, ?_⟩
  rw [setIndices, lock_setWriteIndex, lock_setReadIndex, h]

/-- So is a new object; its lock, which is all zero, can be taken
already. -/
theorem fresh_setIndices {o : Object} (h : o.cells = #[]) : Fresh (setIndices 0 0 o) := by
  have hzero : o.byteAt Lock.kindOffset = 0 := by
    rw [Object.byteAt, h]
    rfl
  refine fresh_of_lock ?_
  rw [Object.lock, hzero]
  decide

theorem Fresh.makeLock {o : Object} (h : Fresh o) {kind : UInt8}
    (hkind : kind = Lock.sharedKind ∨ kind = Lock.plainKind) : Fresh (o.makeLock kind) :=
  ⟨h.zeroed.makeLock kind, Object.lock_makeLock hkind⟩

end Ring

namespace RingOpening

open Store
open TwinRing.Ring (Fresh)

variable {s₀ s : Store} {name : SegmentName} {g : Geometry} {size : UInt64} {h : Handle}

/-! ## Undoing -/

/-- **A creator that gives up leaves nothing.** -/
theorem restored_abandon (hheld : Held s₀ name h s) (hcreator : h.creator = true)
    (hc : s.Cleanable) : Restored s₀ (abandon h s) := by
  have hholding := hheld.holding
  have hcreated := hholding.created hcreator
  have hopen : h.descriptor ∈ s.descriptors := by
    rw [hholding.descriptors]
    exact List.mem_cons_self ..
  have hclosed : s.descriptors.erase h.descriptor = s₀.descriptors := by
    rw [hholding.descriptors]
    exact List.erase_cons_head ..
  have hunmapped : s.mappings.erase h.object = s₀.mappings := by
    rw [hheld.mappings]
    exact List.erase_cons_head ..
  have hdrop : h.drop s =
      { s with
        faults := (Fault.strike .unmap s.faults).2
        mappings := s₀.mappings
        descriptors := s₀.descriptors } := by
    rw [Handle.drop, unmap_eq hc.unmap, hunmapped]
    dsimp only
    rw [close_eq (by exact hopen), hclosed]
  -- giving the mapping back has used up no fault of the name
  have hunlink : (Fault.strike .unlink (h.drop s).faults).1 = none := by
    rw [hdrop]
    exact (Fault.strike_strike (by decide) s.faults).trans hc.unlink
  have hnames : (h.drop s).names = (name, h.object) :: s₀.names := by
    rw [hdrop]
    exact hcreated.names
  have hremoved := hcreated.removeName_eq hnames hunlink
  rw [abandon, hheld.name_eq, unlinkName, hremoved]
  refine ⟨rfl, fun n hn => ?_, ?_, ?_⟩
  · change (h.drop s).object n = s₀.object n
    rw [hdrop]
    exact hholding.objects n hn
  · change (h.drop s).descriptors = s₀.descriptors
    rw [hdrop]
  · change (h.drop s).mappings = s₀.mappings
    rw [hdrop]

/-! ## The lock -/

/-- **The making of a lock** fails and changes no object, or it succeeds
and changes its own at most. -/
theorem initLock_cases (h : Handle) (s : Store) :
    (∃ e s', h.initLock s = (.error e, s') ∧ Untouched s s') ∨
      ∃ s', Untouched s s' ∧ (h.initLock s = (.ok (), s') ∨
        ∃ kind, (kind = Lock.sharedKind ∨ kind = Lock.plainKind) ∧
          h.initLock s = (.ok (), s'.modifyObject h.object (·.makeLock kind))) := by
  have used : ∀ (s : Store) (call : SystemCall) (faults : List Fault),
      (s.perform call).2 = { s with faults } → (call ≠ .unmap ∧ call ≠ .unlink) →
        Untouched s { s with faults } := fun s call faults heq hother =>
    untouched_of_struck (by rw [← s.faults_perform call, heq]) hother
  obtain ⟨first, ⟨e, h1⟩ | ⟨_, h1⟩⟩ := s.perform_cases .lockAttributes <;> rw [Handle.initLock, h1]
  · exact .inl ⟨e, _, rfl, used s _ _ (by rw [h1]) ⟨by decide, by decide⟩⟩
  have hs₁ : Untouched s { s with faults := first } :=
    used s _ _ (by rw [h1]) ⟨by decide, by decide⟩
  dsimp only
  obtain ⟨second, ⟨e, h2⟩ | ⟨shared, h2⟩⟩ :=
    ({ s with faults := first } : Store).perform_cases .lockSharing <;> rw [h2]
  · exact .inl ⟨e, _, rfl, hs₁.trans (used _ _ _ (by rw [h2]) ⟨by decide, by decide⟩)⟩
  have hs₂ : Untouched s { s with faults := second } :=
    hs₁.trans (used _ _ _ (by rw [h2]) ⟨by decide, by decide⟩)
  dsimp only
  obtain ⟨third, ⟨e, h3⟩ | ⟨worked, h3⟩⟩ :=
    ({ s with faults := second } : Store).perform_cases .lockInit <;> rw [h3]
  · exact .inl ⟨e, _, rfl, hs₂.trans (used _ _ _ (by rw [h3]) ⟨by decide, by decide⟩)⟩
  have hs₃ : Untouched s { s with faults := third } :=
    hs₂.trans (used _ _ _ (by rw [h3]) ⟨by decide, by decide⟩)
  cases worked with
  | false => exact .inr ⟨_, hs₃, .inl rfl⟩
  | true =>
    refine .inr ⟨_, hs₃, .inr ⟨if shared then Lock.sharedKind else Lock.plainKind, ?_, rfl⟩⟩
    cases shared with
    | true => exact .inl rfl
    | false => exact .inr rfl

/-! ## The steps of an open -/

/-- **What the opening of a ring has taken at each place**, and that it has
given all back where it has failed. -/
def Tracked (s₀ : Store) (name : SegmentName) (g : Geometry) : RingOpening → Store → Prop
  | .segment o, s => o.Tracked s₀ name s
  | .zeroing h, s =>
    h.creator = true ∧ Held s₀ name h s ∧ (s.object h.object).cells = #[]
  | .locking h, s => h.creator = true ∧ Held s₀ name h s ∧ Fresh (s.object h.object)
  | .opened v, s =>
    v.geometry = g ∧ Held s₀ name v.handle s ∧
      (v.handle.creator = true → Fresh (s.object v.handle.object))
  | .failed cause, s => cause.isRefusal = false ∧ (s₀.Cleanable → Restored s₀ s)

theorem tracked_afterSegment {o : Opening} (ho : o.Tracked s₀ name s) :
    (afterSegment g o).Tracked s₀ name g s := by
  cases o with
  | opened k =>
    obtain ⟨hheld, hcells⟩ := ho
    cases hcreator : k.creator with
    | true =>
      rw [afterSegment, if_pos hcreator]
      exact ⟨hcreator, hheld, hcells hcreator⟩
    | false =>
      rw [afterSegment, if_neg (by simp [hcreator])]
      exact ⟨rfl, hheld, fun hc => absurd (hcreator.symm.trans hc) Bool.noConfusion⟩
  | failed cause => exact ho
  | creating => exact ho
  | joining => exact ho
  | sizing d => exact ho
  | measuring d => exact ho
  | mapping d creator => exact ho

/-- A creator may change its object. -/
theorem held_modify (hheld : Held s₀ name h s) (hcreator : h.creator = true)
    (change : Object → Object) : Held s₀ name h (s.modifyObject h.object change) :=
  ⟨hheld.name_eq, hheld.holding.modify hcreator change, hheld.mappings⟩

theorem held_untouched {s' : Store} (hheld : Held s₀ name h s) (hs : Untouched s s') :
    Held s₀ name h s' :=
  ⟨hheld.name_eq, hheld.holding.untouched hs, hs.mappings.trans hheld.mappings⟩

/-- **Every step takes what its place says, or gives all back.** -/
theorem Tracked.step (r : RingOpening) (hr : r.Tracked s₀ name g s) :
    (r.step name g size s).1.Tracked s₀ name g (r.step name g size s).2 := by
  cases r with
  | segment o => exact tracked_afterSegment (Opening.Tracked.step o hr)
  | zeroing h =>
    obtain ⟨hcreator, hheld, hcells⟩ := hr
    refine ⟨hcreator, held_modify hheld hcreator _, ?_⟩
    change Fresh ((s.modifyObject h.object (Ring.setIndices 0 0)).object h.object)
    rw [object_modifyObject_self (hheld.holding.live hcreator)]
    exact Ring.fresh_setIndices hcells
  | locking h =>
    obtain ⟨hcreator, hheld, hfresh⟩ := hr
    rw [RingOpening.step]
    rcases initLock_cases h s with ⟨e, s', hinit, hs⟩ | ⟨s', hs, hinit | ⟨kind, hkind, hinit⟩⟩ <;>
      rw [hinit]
    · refine ⟨rfl, fun hc => ?_⟩
      have hheld' := held_untouched hheld hs
      exact restored_abandon hheld' hcreator (hheld'.holding.cleanable hc)
    · exact ⟨rfl, held_untouched hheld hs, fun _ => (hs.object h.object).symm ▸ hfresh⟩
    · have hheld' := held_untouched hheld hs
      refine ⟨rfl, held_modify hheld' hcreator _, fun _ => ?_⟩
      change Fresh ((s'.modifyObject h.object (·.makeLock kind)).object h.object)
      rw [object_modifyObject_self (hheld'.holding.live hcreator), hs.object]
      exact hfresh.makeLock hkind
  | opened v => exact hr
  | failed cause => exact hr

/-- The place where the opening of a ring is that has come to its end. -/
def ended : Except SegmentError View → RingOpening
  | .ok v => .opened v
  | .error cause => .failed cause

/-- **What every step keeps holds at the end.** -/
theorem run_induction {P : RingOpening → Store → Prop} {r : RingOpening} (init : P r s)
    (step : ∀ r s, P r s → P (r.step name g size s).1 (r.step name g size s).2) :
    P (ended (r.run name g size s).1) (r.run name g size s).2 := by
  fun_induction run name g size r s with
  | case1 s v => exact init
  | case2 s cause => exact init
  | case3 s o ih => exact ih (step _ _ init)
  | case4 s k ih => exact ih (step _ _ init)
  | case5 s k ih => exact ih (step _ _ init)

theorem tracked_run (name : SegmentName) (g : Geometry) (size : UInt64) (s : Store) :
    (ended ((RingOpening.segment .creating).run name g size s).1).Tracked s name g
      ((RingOpening.segment .creating).run name g size s).2 :=
  run_induction (P := fun r s' => r.Tracked s name g s') Untouched.refl fun r _ hr => hr.step r

end RingOpening

/-! ## What an open comes to -/

namespace Store

/-- **An open that fails leaves nothing behind**: if the calls of its
undoing go through, then names, objects, descriptors and mappings are as
they were. And one whose request is refused has made no call: in every
store, whatever faults wait in it for whatever calls, it is refused in the
same way, and that store stays as it is. -/
def LeavesNothing {α : Type} (attempt : Store → Except SegmentError α × Store) : Prop :=
  ∀ (s s' : Store) (cause : SegmentError), attempt s = (.error cause, s') →
    (s.Cleanable → Restored s s') ∧
      (cause.isRefusal = true → ∀ t : Store, attempt t = (.error cause, t))

theorem leavesNothing_openNamed (given : String) (size : UInt64) :
    LeavesNothing fun s => s.openNamed given size := by
  intro s s' cause h
  dsimp only at h ⊢
  unfold openNamed at h ⊢
  cases hname : SegmentName.ofString given with
  | error e =>
    rw [hname] at h
    cases h
    exact ⟨fun _ => Untouched.refl.restored, fun _ _ => rfl⟩
  | ok name =>
    rw [hname] at h
    have htracked := Opening.tracked_run name size s
    rw [show s.openSegment name size = (.error cause, s') from h] at htracked
    exact ⟨htracked.2, fun hrefusal => absurd (htracked.1.symm.trans hrefusal) Bool.noConfusion⟩

theorem leavesNothing_openRing (given : String) (g : Geometry) :
    LeavesNothing fun s => s.openRing given g := by
  intro s s' cause h
  dsimp only at h ⊢
  unfold openRing at h ⊢
  cases hsize : g.segmentSize with
  | error e =>
    rw [hsize] at h
    cases h
    exact ⟨fun _ => Untouched.refl.restored, fun _ _ => rfl⟩
  | ok size =>
    rw [hsize] at h
    cases hname : SegmentName.ofString given with
    | error e =>
      rw [hname] at h
      cases h
      exact ⟨fun _ => Untouched.refl.restored, fun _ _ => rfl⟩
    | ok name =>
      rw [hname] at h
      have htracked := RingOpening.tracked_run name g size s
      rw [show (RingOpening.segment .creating).run name g size s = (.error cause, s') from h]
        at htracked
      exact ⟨htracked.2, fun hrefusal => absurd (htracked.1.symm.trans hrefusal) Bool.noConfusion⟩

/-- **Failed opens leave nothing behind**, of segments and of rings, with
whatever name, size and shape, in whatever store, and whichever of the
calls on the way fail. -/
theorem failed_open_leaves_nothing (given : String) (size : UInt64) (g : Geometry) :
    (LeavesNothing fun s => s.openNamed given size) ∧
      LeavesNothing fun s => s.openRing given g :=
  ⟨leavesNothing_openNamed given size, leavesNothing_openRing given g⟩

/-- A store in which one name is bound, the second mapping is to fail, and
so is the first making of a lock. -/
def crowdedStore : Store :=
  { names := [(.ofLetter 'a' (Eq.refl true), 0)]
    objects := #[{ size := 8, cells := #[1, 2, 3] }]
    descriptors := [4], mappings := [0], nextDescriptor := 5
    faults := [⟨.map, 2, .outOfMemory⟩, ⟨.lockInit, 1, .outOfMemory⟩] }

/-- A ring whose lock cannot be made: by then it has a descriptor, a
mapping and a name. -/
theorem failed_open_leaves_nothing_crowded :
    crowdedStore.Cleanable ∧
      (crowdedStore.openRing "b" ⟨2, 1⟩).1.isOk = false ∧
      Restored crowdedStore (crowdedStore.openRing "b" ⟨2, 1⟩).2 := by
  have hc : crowdedStore.Cleanable := ⟨by decide, by decide⟩
  have hfails : (crowdedStore.openRing "b" ⟨2, 1⟩).1.isOk = false := by decide +kernel
  refine ⟨hc, hfails, ?_⟩
  rcases hopen : crowdedStore.openRing "b" ⟨2, 1⟩ with ⟨cause | v, s'⟩
  · exact ((failed_open_leaves_nothing "b" 2 ⟨2, 1⟩).2 crowdedStore s' cause hopen).1 hc
  · rw [hopen] at hfails
    exact Bool.noConfusion hfails

end Store

end TwinRing
