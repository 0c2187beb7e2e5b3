import TwinRing.Proofs.Ring.Undoing
import TwinRing.Proofs.Segment.Residue
import TwinRing.Proofs.Segment.Unfailing
/-!
# Opening a ring — what stays of it

What `Kept` and `Granted` say of the open of a segment, carried on to the
end of the open of a ring. Its creator goes on to zero the indices and to
make the lock, and all other bytes of the object it leaves at zero
(`Blank`). The undoing of a ring gives one mapping back and no open that
succeeds does (`spares_of_openRing`), so it is known how many such calls a
sequence of opens makes.

A bound name is opened and measured before anything else is done with its
object, so an open fails for the size of a segment exactly if that is too
small: `openSegment_sizeMismatch_iff`, `openRing_sizeMismatch_iff`.
-/

namespace TwinRing

open Fault (Spares)

namespace Ring

/-- **A ring with nothing in it but the lock**: every other byte is zero. -/
def Blank (o : Object) : Prop := ∀ offset, Lock.size ≤ offset → o.byteAt offset = 0

theorem blank_of_cells {o : Object} (h : o.cells = #[]) : Blank o := fun offset _ => by
  rw [Object.byteAt, h]
  rfl

/-- To lay zero bytes over zero bytes is to leave them. -/
theorem Blank.setWord {o : Object} (h : Blank o) (offset : Nat) : Blank (o.setWord offset 0) := by
  intro i hi
  by_cases hin : offset ≤ i ∧ i < offset + 8
  · obtain ⟨k, rfl⟩ := Nat.exists_eq_add_of_le hin.1
    have hk : k < (Word.toBytes 0).length := by
      rw [Word.length_toBytes]
      omega
    have hzero : ∀ b ∈ Word.toBytes 0, b = 0 := fun b hb =>
      List.eq_of_mem_replicate (show b ∈ List.replicate 8 0 from hb)
    rw [Object.setWord, Object.byteAt_write_of_lt hk, List.getD_eq_getElem _ _ hk]
    exact hzero _ (List.getElem_mem hk)
  · rw [Object.byteAt_setWord_of_outside (by omega)]
    exact h i hi

theorem Blank.setIndices {o : Object} (h : Blank o) : Blank (setIndices 0 0 o) :=
  (h.setWord _).setWord _

theorem Blank.makeLock {o : Object} (h : Blank o) (kind : UInt8) : Blank (o.makeLock kind) :=
  fun i hi => (Object.byteAt_makeLock_of_le hi).trans (h i hi)

end Ring

namespace RingOpening

open Store
open TwinRing.Ring (Blank)

variable {s₀ s s' : Store} {name : SegmentName} {g : Geometry} {size : UInt64} {h : Handle}
variable {n : Nat}

/-- **A creator that gives up**, whatever fails. -/
theorem kept_abandon (hheld : Held s₀ name h s) (hcreator : h.creator = true) :
    Kept s₀ name (abandon h s) := by
  have hcreated := hheld.holding.created hcreator
  have hdropped : Kept s₀ name (h.drop s) :=
    hheld.holding.kept.congr (h.names_drop s) (h.objects_drop s)
  have hremoved := hdropped.removeName ((hcreated.number_eq ▸ hcreated).congr (h.names_drop s)
    (congrArg Array.size (h.objects_drop s)))
  rw [abandon, hheld.name_eq, unlinkName]
  rcases hremove : (h.drop s).removeName name with ⟨e | _, t⟩ <;> rw [hremove] at hremoved
  · exact hremoved.congr rfl rfl
  · exact hremoved.congr rfl rfl

theorem size_setIndices (read write : UInt64) (o : Object) :
    (Ring.setIndices read write o).size = o.size := by
  rw [Ring.setIndices, Object.size_setWord, Object.size_setWord]

/-- **What is known at each place** of the size and the bytes of a new
object, and of what stays where the open has failed. -/
def Assessed (s₀ : Store) (name : SegmentName) (size : UInt64) : RingOpening → Store → Prop
  | .segment o, s => o.KeptAt s₀ name s ∧ o.Roomy size s ∧ o.Exact size s
  | .zeroing h, s => h.size = size ∧ (s.object h.object).size = size.toNat
  | .locking h, s =>
    h.size = size ∧ (s.object h.object).size = size.toNat ∧ Blank (s.object h.object)
  | .opened v, s =>
    v.handle.size = size ∧ size.toNat ≤ (s.object v.handle.object).size ∧
      (v.handle.creator = true →
        (s.object v.handle.object).size = size.toNat ∧ Blank (s.object v.handle.object))
  | .failed _, s => Kept s₀ name s

theorem assessed_afterSegment {o : Opening} (hk : o.KeptAt s₀ name s) (hr : o.Roomy size s)
    (he : o.Exact size s) : (afterSegment g o).Assessed s₀ name size s := by
  cases o with
  | opened k =>
    cases hcreator : k.creator with
    | true =>
      rw [afterSegment, if_pos hcreator]
      exact ⟨hr.1, he hcreator⟩
    | false =>
      rw [afterSegment, if_neg (by simp [hcreator])]
      exact ⟨hr.1, hr.2, fun hc => absurd (hcreator.symm.trans hc) Bool.noConfusion⟩
  | failed cause => exact hk
  | creating => exact ⟨hk, hr, he⟩
  | joining => exact ⟨hk, hr, he⟩
  | sizing d => exact ⟨hk, hr, he⟩
  | measuring d => exact ⟨hk, hr, he⟩
  | mapping d creator => exact ⟨hk, hr, he⟩

theorem Assessed.step (r : RingOpening) (ht : r.Tracked s₀ name g s)
    (ha : r.Assessed s₀ name size s) :
    (r.step name g size s).1.Assessed s₀ name size (r.step name g size s).2 := by
  cases r with
  | segment o =>
    obtain ⟨hk, hr, he⟩ := ha
    exact assessed_afterSegment (hk.step o ht) (hr.step o) (he.step o hr)
  | zeroing h =>
    obtain ⟨hcreator, hheld, hcells⟩ := ht
    refine ⟨ha.1, ?_, ?_⟩
    · rw [← ha.2]
      exact size_object_modifyObject (size_setIndices 0 0)
    · change Blank ((s.modifyObject h.object (Ring.setIndices 0 0)).object h.object)
      rw [object_modifyObject_self (hheld.holding.live hcreator)]
      exact (Ring.blank_of_cells hcells).setIndices
  | locking h =>
    obtain ⟨hcreator, hheld, -⟩ := ht
    obtain ⟨hmapped, hsize, hblank⟩ := ha
    rw [RingOpening.step]
    rcases initLock_cases h s with ⟨e, s', hinit, hs⟩ | ⟨s', hs, hinit | ⟨kind, -, hinit⟩⟩ <;>
      rw [hinit]
    · exact kept_abandon (held_untouched hheld hs) hcreator
    · change h.size = size ∧ size.toNat ≤ (s'.object h.object).size ∧ (h.creator = true →
        (s'.object h.object).size = size.toNat ∧ Blank (s'.object h.object))
      rw [hs.object]
      exact ⟨hmapped, Nat.le_of_eq hsize.symm, fun _ => ⟨hsize, hblank⟩⟩
    · have hmade : ((s'.modifyObject h.object (·.makeLock kind)).object h.object) =
          (s.object h.object).makeLock kind := by
        rw [object_modifyObject_self ((held_untouched hheld hs).holding.live hcreator), hs.object]
      have hsame : ((s'.modifyObject h.object (·.makeLock kind)).object h.object).size =
          size.toNat := by
        rw [hmade, Object.size_makeLock, hsize]
      exact ⟨hmapped, Nat.le_of_eq hsame.symm,
        fun _ => ⟨hsame, hmade.symm ▸ hblank.makeLock kind⟩⟩
  | opened v => exact ha
  | failed cause => exact ha

/-! ## Mappings given back -/

/-- How many uses of the call that gives a mapping back go through at each
place: a failure may have had one of them. -/
def Sparing (n : Nat) : RingOpening → Store → Prop
  | .failed _, s => Spares .unmap n s.faults
  | .segment _, s => Spares .unmap (n + 1) s.faults
  | .zeroing _, s => Spares .unmap (n + 1) s.faults
  | .locking _, s => Spares .unmap (n + 1) s.faults
  | .opened _, s => Spares .unmap (n + 1) s.faults

theorem sparing_of_spares (r : RingOpening) (h : Spares .unmap (n + 1) s.faults) :
    r.Sparing n s := by
  cases r with
  | failed cause => exact h.pred
  | segment o => exact h
  | zeroing k => exact h
  | locking k => exact h
  | opened v => exact h

theorem spares_initLock (h : Handle) (s : Store) :
    Spares .unmap n (h.initLock s).2.faults ↔ Spares .unmap n s.faults := by
  have used : ∀ (t : Store) (call : SystemCall), call ≠ .unmap →
      (Spares .unmap n (t.perform call).2.faults ↔ Spares .unmap n t.faults) :=
    fun t call hother => spares_of_struck hother.symm (t.faults_perform call)
  have first := used s .lockAttributes (by decide)
  rw [Handle.initLock]
  rcases h1 : s.perform .lockAttributes with ⟨e | _, s₁⟩ <;> rw [h1] at first
  · exact first
  have second := used s₁ .lockSharing (by decide)
  dsimp only
  rcases h2 : s₁.perform .lockSharing with ⟨e | shared, s₂⟩ <;> rw [h2] at second
  · exact second.trans first
  have third := used s₂ .lockInit (by decide)
  dsimp only
  rcases h3 : s₂.perform .lockInit with ⟨e | _ | _, s₃⟩ <;> rw [h3] at third <;>
    exact third.trans (second.trans first)

theorem Sparing.step (r : RingOpening) (h : r.Sparing n s) :
    (r.step name g size s).1.Sparing n (r.step name g size s).2 := by
  cases r with
  | segment o => exact sparing_of_spares _ ((Opening.spares_step o).2 h)
  | zeroing k => exact h
  | locking k =>
    have hinit := spares_initLock (n := n + 1) k s
    rw [RingOpening.step]
    rcases hmake : k.initLock s with ⟨e | _, t⟩ <;> rw [hmake] at hinit
    · have hspared : Spares .unmap n (k.drop t).faults := by
        rw [k.faults_drop t]
        exact (hinit.2 h).2
      have hremoved : Spares .unmap n ((k.drop t).removeName k.name).2.faults :=
        (spares_of_struck (by decide) (faults_removeName (k.drop t) k.name)).2 hspared
      change Spares .unmap n (abandon k t).faults
      rw [abandon, unlinkName]
      rcases hremove : (k.drop t).removeName k.name with ⟨e' | _, t'⟩ <;>
        rw [hremove] at hremoved <;> exact hremoved
    · exact hinit.2 h
  | opened v => exact h
  | failed cause => exact h

/-! ## At the end -/

theorem assessed_run (name : SegmentName) (g : Geometry) (size : UInt64) (s : Store) :
    (ended ((RingOpening.segment .creating).run name g size s).1).Tracked s name g
        ((RingOpening.segment .creating).run name g size s).2 ∧
      (ended ((RingOpening.segment .creating).run name g size s).1).Assessed s name size
        ((RingOpening.segment .creating).run name g size s).2 :=
  run_induction (P := fun r t => r.Tracked s name g t ∧ r.Assessed s name size t)
    ⟨Untouched.refl, trivial, trivial, trivial⟩ fun r _ ⟨ht, ha⟩ => ⟨ht.step r, ha.step r ht⟩

theorem sparing_run (name : SegmentName) (g : Geometry) (size : UInt64)
    (hspares : Spares .unmap (n + 1) s.faults) :
    (ended ((RingOpening.segment .creating).run name g size s).1).Sparing n
      ((RingOpening.segment .creating).run name g size s).2 :=
  run_induction (P := fun r t => r.Sparing n t) hspares fun r _ hr => hr.step r

end RingOpening

/-! ## What an open comes to -/

namespace Store

variable {s s' : Store} {given : String} {name : SegmentName} {g : Geometry} {size : UInt64}
variable {v : View} {n : Nat} {cause : SegmentError}

/-- **A request is refused before any call**, or it comes to the steps of
an open. -/
theorem openRing_cases (s : Store) (given : String) (g : Geometry) :
    (∃ cause, s.openRing given g = (.error cause, s)) ∨
      ∃ size name, g.segmentSize = .ok size ∧ SegmentName.ofString given = .ok name ∧
        s.openRing given g = (RingOpening.segment .creating).run name g size s := by
  unfold openRing
  cases g.segmentSize with
  | error e => exact .inl ⟨e, rfl⟩
  | ok size =>
    cases SegmentName.ofString given with
    | error e => exact .inl ⟨e, rfl⟩
    | ok name => exact .inr ⟨size, name, rfl, rfl, rfl⟩

/-- A request whose name and shape are in order comes to those steps. -/
theorem openRing_of_valid (hname : SegmentName.ofString given = .ok name)
    (hsize : g.segmentSize = .ok size) :
    s.openRing given g = (RingOpening.segment .creating).run name g size s := by
  rw [openRing, hsize]
  dsimp only
  rw [hname]

/-- **What is known of an open of a ring that succeeds.** -/
structure RingGranted (s₀ : Store) (given : String) (g : Geometry) (v : View) (s : Store) :
    Prop where
  name : SegmentName.ofString given = .ok v.name
  geometry : v.geometry = g
  segmentSize : g.segmentSize = .ok v.handle.size
  granted : Granted s₀ v.name v.handle.size v.handle s
  fresh : v.handle.creator = true → Ring.Fresh (s.object v.handle.object)
  blank : v.handle.creator = true → Ring.Blank (s.object v.handle.object)

theorem ringGranted_of_openRing (h : s.openRing given g = (.ok v, s')) :
    RingGranted s given g v s' := by
  rcases s.openRing_cases given g with ⟨cause, hrefused⟩ | ⟨size, name, hsize, hname, hrun⟩
  · rw [hrefused] at h
    cases h
  · have hend := RingOpening.assessed_run name g size s
    rw [hrun.symm.trans h] at hend
    obtain ⟨⟨hgeometry, hheld, hfresh⟩, hmapped, hfits, hnew⟩ := hend
    obtain rfl : v.name = name := hheld.name_eq
    obtain rfl : v.handle.size = size := hmapped
    exact ⟨hname, hgeometry, hsize, ⟨hheld, rfl, hfits, fun hc => (hnew hc).1⟩, hfresh,
      fun hc => (hnew hc).2⟩

/-- **A ring whose name was free** is there and fresh. -/
theorem RingGranted.fresh_of_absent (h : RingGranted s given g v s')
    (hfree : s.lookup v.name = none) :
    v.handle.object < s'.objects.size ∧ Ring.Fresh (s'.object v.handle.object) := by
  cases hcreator : v.handle.creator with
  | true => exact ⟨h.granted.held.holding.live hcreator, h.fresh hcreator⟩
  | false =>
    rw [(h.granted.held.holding.joined hcreator).bound] at hfree
    cases hfree

/-- **Whatever fails on the way of the open of a ring**, no more stays than
the name, bound to an object of its own. -/
theorem kept_of_openRing_error (hname : SegmentName.ofString given = .ok name)
    (h : s.openRing given g = (.error cause, s')) : Kept s name s' := by
  rcases s.openRing_cases given g with ⟨cause', hrefused⟩ | ⟨size, name', -, hname', hrun⟩
  · rw [hrefused] at h
    cases h
    exact Untouched.refl.kept
  · obtain rfl : name' = name := Except.ok.inj (hname'.symm.trans hname)
    have hend := RingOpening.assessed_run name' g size s
    rw [hrun.symm.trans h] at hend
    exact hend.2

theorem openRing_of_invalid {e : SegmentError} (hname : SegmentName.ofString given = .error e) :
    (s.openRing given g).2 = s := by
  rcases s.openRing_cases given g with ⟨cause, hrefused⟩ | ⟨size, name, -, hname', -⟩
  · rw [hrefused]
  · rw [hname] at hname'
    cases hname'

/-- **An open of a ring gives back a mapping only if it fails**, and then
one at most. -/
theorem spares_of_openRing (hspares : Spares .unmap (n + 1) s.faults) :
    (∀ v s', s.openRing given g = (.ok v, s') → Spares .unmap (n + 1) s'.faults) ∧
      ∀ cause s', s.openRing given g = (.error cause, s') → Spares .unmap n s'.faults := by
  rcases s.openRing_cases given g with ⟨cause, hrefused⟩ | ⟨size, name, -, -, hrun⟩
  · rw [hrefused]
    refine ⟨fun v s' h => (by cases h), fun cause' s' h => ?_⟩
    cases h
    exact hspares.pred
  · have hend := RingOpening.sparing_run name g size hspares
    refine ⟨fun v s' h => ?_, fun cause s' h => ?_⟩ <;> rw [hrun.symm.trans h] at hend <;>
      exact hend

/-! ## Segments that are too small -/

/-- **A bound name is not created** if no fault strikes. -/
theorem createName_eq_alreadyExists (hopens : (Fault.strike .openName s.faults).1 = none)
    (hname : name.createRefusal? = none) (hbound : s.lookup name = some n) :
    s.createName name =
      (.error .alreadyExists, { s with faults := (Fault.strike .openName s.faults).2 }) := by
  have hlookup :
      ({ s with faults := (Fault.strike .openName s.faults).2 } : Store).lookup name = some n :=
    hbound
  rw [createName, strike_eq, hopens]
  dsimp only
  rw [hname]
  dsimp only
  rw [hlookup]

/-- **It is opened**, and leads to its object. -/
theorem exists_openName_eq (hopens : (Fault.strike .openName s.faults).1 = none)
    (hname : name.openRefusal? = none) (hbound : s.lookup name = some n) : ∃ d s',
    s.openName name = (.ok d, s') ∧ s'.object d.object = s.object n ∧
      s'.faults = (Fault.strike .openName s.faults).2 := by
  have hlookup :
      ({ s with faults := (Fault.strike .openName s.faults).2 } : Store).lookup name = some n :=
    hbound
  rw [openName, strike_eq, hopens]
  dsimp only
  rw [hname]
  dsimp only
  rw [hlookup]
  exact ⟨_, _, rfl, rfl, rfl⟩

theorem measure_eq {d : Descriptor} (hmeasure : (Fault.strike .measure s.faults).1 = none) :
    s.measure d = (.ok (s.object d.object).size,
      { s with faults := (Fault.strike .measure s.faults).2 }) := by
  rw [measure, strike_eq, hmeasure]
  rfl

/-- **The calls up to the measuring of an object go through**: twice its
name is opened, first as one to be created. -/
structure Measurable (s : Store) : Prop where
  opens : Spares .openName 2 s.faults
  measure : Spares .measure 1 s.faults

/-- **An open of a bound name comes to be measured**, and goes on exactly
if its object is large enough. -/
theorem steps_of_bound (size : UInt64) (hm : s.Measurable) (hname : name.removeRefusal? = none)
    (hbound : s.lookup name = some n) : ∃ d s₁ s₂ s₃ s₄,
      Opening.creating.step name size s = (.joining, s₁) ∧
        Opening.joining.step name size s₁ = (.measuring d, s₂) ∧
        (Opening.measuring d).step name size s₂ =
          if (s.object n).size < size.toNat then
            (.failed (.sizeMismatch name.full size.toNat (s.object n).size), s₃)
          else (.mapping d false, s₄) := by
  have hcreatable := SegmentName.removeRefusal?_eq_none_iff.1 hname
  have hopenable := SegmentName.openRefusal?_eq_none_iff.2 hcreatable
  obtain ⟨hfirst, hsecond, -⟩ := hm.opens
  have hcreate := createName_eq_alreadyExists hfirst hcreatable hbound
  obtain ⟨d, s₂, hopen, hobject, hfaults⟩ := exists_openName_eq
    (s := { s with faults := (Fault.strike .openName s.faults).2 }) hsecond hopenable hbound
  have hmeasure : (Fault.strike .measure s₂.faults).1 = none := by
    rw [hfaults, Fault.strike_strike (by decide), Fault.strike_strike (by decide)]
    exact hm.measure.1
  have hmeasured := measure_eq (d := d) hmeasure
  rw [show s₂.object d.object = s.object n from hobject] at hmeasured
  have hcreating : Opening.creating.step name size s =
      (.joining, { s with faults := (Fault.strike .openName s.faults).2 }) := by
    rw [Opening.step, hcreate]
    exact if_pos rfl
  let s₃ : Store := { s₂ with faults := (Fault.strike .measure s₂.faults).2 }
  exact ⟨d, _, s₂, Opening.abandon name d false s₃, s₃, hcreating, by rw [Opening.step, hopen],
    by rw [Opening.step, hmeasured]⟩

/-- What the last step of an open comes to is not a matter of sizes. -/
theorem step_mapping_cases (name : SegmentName) (size : UInt64) (d : Descriptor) (s : Store) :
    ∃ s',
    (∃ h : Handle, h.creator = false ∧
      (Opening.mapping d false).step name size s = (.opened h, s')) ∨
      ∃ e, (Opening.mapping d false).step name size s = (.failed (.mapFailed name.full e), s') := by
  rw [Opening.step]
  rcases s.map d size with ⟨e | _, s'⟩
  · exact ⟨_, .inr ⟨e, rfl⟩⟩
  · exact ⟨_, .inl ⟨_, rfl, rfl⟩⟩

/-- What an error tells that tells of sizes. -/
theorem sizeMismatch_inj {α : Type} {text text' : String}
    {expected expected' actual actual' : Nat} :
    (Except.error (.sizeMismatch text' expected' actual') : Except SegmentError α) =
        .error (.sizeMismatch text expected actual) ↔
      text = text' ∧ expected = expected' ∧ actual = actual' := by
  rw [Except.error.injEq, SegmentError.sizeMismatch.injEq]
  exact ⟨fun ⟨h1, h2, h3⟩ => ⟨h1.symm, h2.symm, h3.symm⟩,
    fun ⟨h1, h2, h3⟩ => ⟨h1.symm, h2.symm, h3.symm⟩⟩

section SizeMismatch

variable (hm : s.Measurable) (hname : name.removeRefusal? = none)
variable (hbound : s.lookup name = some n) {text : String} {expected actual : Nat}
include hm hname hbound

/-- **An open of a bound name fails for its size** exactly if more bytes
are asked for than its object has. -/
theorem openSegment_sizeMismatch_iff :
    (s.openSegment name size).1 = .error (.sizeMismatch text expected actual) ↔
      (text = name.full ∧ expected = size.toNat ∧ actual = (s.object n).size) ∧
        (s.object n).size < size.toNat := by
  obtain ⟨d, s₁, s₂, s₃, s₄, hcreating, hjoining, hmeasuring⟩ :=
    steps_of_bound size hm hname hbound
  rw [openSegment, Opening.run, hcreating, Opening.run, hjoining, Opening.run, hmeasuring]
  by_cases hsmall : (s.object n).size < size.toNat
  · rw [if_pos hsmall, Opening.run, sizeMismatch_inj]
    exact (and_iff_left hsmall).symm
  · rw [if_neg hsmall, Opening.run]
    obtain ⟨s', ⟨h, -, hmapping⟩ | ⟨e, hmapping⟩⟩ :=
      step_mapping_cases name size d s₄ <;>
      rw [hmapping, Opening.run] <;>
      exact ⟨fun heq => (by cases heq), fun hlarge => absurd hlarge.2 hsmall⟩

/-- **So does an open of a ring.** -/
theorem openRing_sizeMismatch_iff (hgiven : SegmentName.ofString given = .ok name)
    (hsize : g.segmentSize = .ok size) :
    (s.openRing given g).1 = .error (.sizeMismatch text expected actual) ↔
      (text = name.full ∧ expected = size.toNat ∧ actual = (s.object n).size) ∧
        (s.object n).size < size.toNat := by
  obtain ⟨d, s₁, s₂, s₃, s₄, hcreating, hjoining, hmeasuring⟩ :=
    steps_of_bound size hm hname hbound
  rw [openRing_of_valid hgiven hsize, RingOpening.run, RingOpening.step, hcreating]
  dsimp only [RingOpening.afterSegment]
  rw [RingOpening.run, RingOpening.step, hjoining]
  dsimp only [RingOpening.afterSegment]
  rw [RingOpening.run, RingOpening.step, hmeasuring]
  by_cases hsmall : (s.object n).size < size.toNat
  · rw [if_pos hsmall]
    dsimp only [RingOpening.afterSegment]
    rw [RingOpening.run, sizeMismatch_inj]
    exact (and_iff_left hsmall).symm
  · rw [if_neg hsmall]
    dsimp only [RingOpening.afterSegment]
    rw [RingOpening.run, RingOpening.step]
    obtain ⟨s', ⟨h, hjoined, hmapping⟩ | ⟨e, hmapping⟩⟩ :=
      step_mapping_cases name size d s₄ <;> rw [hmapping]
    · dsimp only [RingOpening.afterSegment]
      rw [if_neg (by simp [hjoined]), RingOpening.run]
      exact ⟨fun heq => (by cases heq), fun hlarge => absurd hlarge.2 hsmall⟩
    · dsimp only [RingOpening.afterSegment]
      rw [RingOpening.run]
      exact ⟨fun heq => (by cases heq), fun hlarge => absurd hlarge.2 hsmall⟩

end SizeMismatch

end Store

end TwinRing
