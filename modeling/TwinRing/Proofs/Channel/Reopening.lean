import TwinRing.Proofs.Channel.Opened
import TwinRing.Proofs.Commons.Basic
import TwinRing.Proofs.Ring.Residue
import TwinRing.Proofs.Segment.Unfailing
/-!
# Channels — opened once more

Where both rings of a configuration stand under their names already, and no
call is to fail, a build joins them: it succeeds, and but for the clears
that it is asked for it leaves every byte as it is. What it comes to
depends on the names and the objects; what is held of them by others, or
was held by an earlier channel, is nothing to it (`Store.Matches`).
-/

namespace TwinRing

namespace Store

variable {s t u : Store} {name : SegmentName} {given : String} {g : Geometry} {n : Nat}

/-- **The same names, objects and faults.** What is held and what was
reported may differ. -/
structure Matches (s t : Store) : Prop where
  names : s.names = t.names
  objects : s.objects = t.objects
  faults : s.faults = t.faults

namespace Matches

theorem trans (h : s.Matches t) (h' : t.Matches u) : s.Matches u :=
  ⟨h.names.trans h'.names, h.objects.trans h'.objects, h.faults.trans h'.faults⟩

theorem object_eq (h : s.Matches t) (n : Nat) : s.object n = t.object n :=
  congrArg (·.getD n {}) h.objects

end Matches

/-- **The ring that a text names is there**, in an object that is large
enough, and can be mapped. -/
structure Stands (s : Store) (given : String) (g : Geometry) (n : Nat) : Prop where
  bound : ∃ name, SegmentName.ofString given = .ok name ∧ s.lookup name = some n ∧
    name.createRefusal? = none
  fits : ∃ size, g.segmentSize = .ok size ∧ size.toNat ≤ (s.object n).size ∧
    size.toNat < addressSpan

theorem Stands.of_matches (h : s.Stands given g n) (ht : t.Matches s) :
    t.Stands given g n := by
  obtain ⟨name, hname, hbound, hpermitted⟩ := h.bound
  obtain ⟨size, hsize, hlarge, hspan⟩ := h.fits
  refine ⟨⟨name, hname, ?_, hpermitted⟩, size, hsize, ?_, hspan⟩
  · rw [lookup, ht.names]
    exact hbound
  · rw [ht.object_eq]
    exact hlarge

theorem Stands.of_within {reach : List Nat} (h : s.Stands given g n) (ht : Within reach s t) :
    t.Stands given g n := by
  obtain ⟨name, hname, hbound, hpermitted⟩ := h.bound
  obtain ⟨size, hsize, hlarge, hspan⟩ := h.fits
  exact ⟨⟨name, hname, (ht.lookup name).trans hbound, hpermitted⟩, size, hsize,
    by rw [ht.sizes]; exact hlarge, hspan⟩

/-- **A ring that is there is joined**, and left as it is. -/
theorem openRing_of_stands (h : s.Stands given g n) (hs : s.faults = []) :
    ∃ v s', s.openRing given g = (.ok v, s') ∧ v.handle.object = n ∧ s'.Matches s := by
  obtain ⟨name, hname, hbound, hpermitted⟩ := h.bound
  obtain ⟨size, hsize, hlarge, hspan⟩ := h.fits
  have hpos : size ≠ 0 := fun hzero => by
    have htotal := (Geometry.segmentSize_eq_ok_iff.1 hsize).2
    rw [hzero] at htotal
    exact absurd htotal (Nat.ne_of_lt (Nat.lt_of_lt_of_le (by decide) (Nat.le_add_left ..)))
  rw [openRing_of_valid hname hsize, RingOpening.run,
    RingOpening.step_creating_of_bound hs hpermitted hbound,
    RingOpening.run, RingOpening.step_joining_of_bound hs hpermitted hbound, RingOpening.run]
  dsimp only
  rw [RingOpening.step_measuring_of_le (by exact hs) (by exact hlarge), RingOpening.run]
  dsimp only
  rw [RingOpening.step_mapping (by exact hs) hpos hspan]
  simp only [RingOpening.afterSegment, Bool.false_eq_true, if_false, RingOpening.run]
  exact ⟨_, _, rfl, rfl, rfl, rfl, rfl⟩

end Store

open Store (Matches Stands)

namespace Channel

variable {config : Config} {s t : Store} {c : Channel} {v w : View}

/-! ## Given up -/

/-- **To take down a channel whose workers are idle** changes nothing that
an open could find, if no call is to fail. -/
theorem matches_drop (hin : c.inbound.Idle) (hout : c.outbound.Idle) (hs : s.faults = []) :
    (c.drop s).Matches s where
  names := (Tenant.channel c).names_drop s
  objects := Tenant.objects_drop_of_idle (t := .channel c) ⟨hin, hout⟩ s
  faults := by
    obtain ⟨s', hwithin, -, hdrop⟩ := c.drop_cases s
    rw [hdrop, View.drop, Handle.faults_drop, View.drop, Handle.faults_drop, hwithin.faults, hs]
    rfl

/-! ## Built again -/

theorem objects_clearIf_congr (asked : Bool) (hobject : v.handle.object = w.handle.object)
    (h : s.objects = t.objects) : (clearIf asked v s).objects = (clearIf asked w t).objects := by
  have hsame : v.object s = w.object t := by
    rw [View.object, View.object, hobject]
    exact congrArg (·.getD w.handle.object {}) h
  cases asked with
  | false => exact h
  | true =>
    change s.objects.modify v.handle.object (fun _ => Ring.clear (v.object s)) =
      t.objects.modify w.handle.object fun _ => Ring.clear (w.object t)
    rw [hobject, hsame, h]

/-- Two workers are started where no call is to fail. -/
theorem exists_startWorkers (config : Config) (inView outView : View) (hs : s.faults = []) :
    ∃ c s', startWorkers config inView outView s = (.ok c, s') := by
  simp only [startWorkers, startWorker_eq, hs, Fault.strike]
  exact ⟨_, _, rfl⟩

/-- **A build on rings that are there succeeds**, joins them, and does
nothing to them but the clears that it is asked for. -/
theorem build_of_stands {n : Role → Nat}
    (h : ∀ role, s.Stands (config.ringName role) (config.geometry role) (n role))
    (hs : s.faults = []) :
    ∃ c s', build config s = (.ok c, s') ∧ (∀ role, (c.lane role).view.handle.object = n role) ∧
      s'.objects = (clearIf config.clearOut c.outbound.view
        (clearIf config.clearIn c.inbound.view s)).objects := by
  obtain ⟨inView, s₁, hin, hinObject, hs₁⟩ := Store.openRing_of_stands (h .reader) hs
  obtain ⟨outView, s₂, hout, houtObject, hs₂⟩ :=
    Store.openRing_of_stands ((h .writer).of_matches hs₁) (hs₁.faults.trans hs)
  have hfaults := (within_clears config inView outView s₂).faults
  obtain ⟨c, s', hstarted⟩ := exists_startWorkers config inView outView
    (hfaults.trans ((hs₂.trans hs₁).faults.trans hs))
  have hbuild : build config s = (.ok c, s') := by
    simp only [build]
    rw [show s.openRing config.inName config.inGeometry = (.ok inView, s₁) from hin]
    dsimp only
    rw [show s₁.openRing config.outName config.outGeometry = (.ok outView, s₂) from hout]
    exact hstarted
  obtain ⟨hc, faults, journal, hs'⟩ := startWorkers_ok hstarted
  refine ⟨c, s', hbuild, fun role => ?_, ?_⟩
  · rw [hc]
    cases role with
    | reader => exact hinObject
    | writer => exact houtObject
  · have hclears := objects_clearIf_congr config.clearOut (v := outView) rfl
      (objects_clearIf_congr config.clearIn (v := inView) rfl (hs₂.trans hs₁).objects)
    rw [hs', hc]
    exact hclears

end Channel

end TwinRing
