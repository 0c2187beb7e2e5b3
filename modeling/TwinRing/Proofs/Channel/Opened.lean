import TwinRing.Proofs.Channel.Aborted
/-!
# Channels — what a build that succeeds has done

A build that succeeds has opened both rings, inbound first, has cleared
those that it was asked to clear, and has started two workers that found
nothing to do. So the channel it returns follows from its configuration
and the two views; nothing of it depends on what the rings held.
-/

namespace TwinRing

namespace Config

variable (config : Config)

/-- The name of the ring on a side, as given. -/
def ringName : Role → String
  | .reader => config.inName
  | .writer => config.outName

/-- The shape of the ring on a side. -/
def geometry : Role → Geometry
  | .reader => config.inGeometry
  | .writer => config.outGeometry

/-- Whether the ring on a side is cleared at the start. -/
def clears : Role → Bool
  | .reader => config.clearIn
  | .writer => config.clearOut

end Config

namespace Channel

variable {config : Config} {s s₁ s₂ s' : Store} {c : Channel} {inView outView : View}

/-- **A channel on which nothing was done yet.** -/
def unused (config : Config) (inView outView : View) : Channel where
  config := config
  inbound := dormant inView .reader config.inElementSize
  outbound := dormant outView .writer config.outElementSize

theorem lane_unused (config : Config) (inView outView : View) (role : Role) :
    (unused config inView outView).lane role =
      dormant ((unused config inView outView).lane role).view role
        (config.geometry role).elementSize := by
  cases role <;> rfl

/-- Starting two workers leaves no trace in the rings or among the names. -/
theorem startWorkers_ok (h : startWorkers config inView outView s = (.ok c, s')) :
    c = unused config inView outView ∧
      ∃ faults journal, s' = { s with faults, journal } := by
  simp only [startWorkers, startWorker_eq] at h
  cases hreader : (Fault.strike .spawn s.faults).1 with
  | some e => rw [hreader] at h; cases h
  | none =>
    rw [hreader] at h
    dsimp only at h
    cases hwriter : (Fault.strike .spawn (Fault.strike .spawn s.faults).2).1 with
    | some e => rw [hwriter] at h; cases h
    | none =>
      rw [hwriter] at h
      cases h
      exact ⟨rfl, _, _, rfl⟩

/-- **What a build that succeeds has done.** -/
structure Opened (config : Config) (s s₁ s₂ s' : Store) (c : Channel) : Prop where
  inbound : s.openRing config.inName config.inGeometry = (.ok c.inbound.view, s₁)
  outbound : s₁.openRing config.outName config.outGeometry = (.ok c.outbound.view, s₂)
  eq_unused : c = unused config c.inbound.view c.outbound.view
  /-- What came after the opens was the clears, faults and reports apart. -/
  store : ∃ faults journal, s' =
    { clearIf config.clearOut c.outbound.view (clearIf config.clearIn c.inbound.view s₂) with
      faults, journal }

theorem opened_of_build (h : build config s = (.ok c, s')) :
    ∃ s₁ s₂, Opened config s s₁ s₂ s' c := by
  unfold build at h
  rcases hin : s.openRing config.inName config.inGeometry with ⟨e | inView, s₁⟩
  · rw [hin] at h; cases h
  rw [hin] at h
  dsimp only at h
  rcases hout : s₁.openRing config.outName config.outGeometry with ⟨e | outView, s₂⟩
  · rw [hout] at h; cases h
  rw [hout] at h
  obtain ⟨hc, hstore⟩ := startWorkers_ok h
  subst hc
  exact ⟨s₁, s₂, hin, hout, rfl, hstore⟩

namespace Opened

variable (h : Opened config s s₁ s₂ s' c)
include h

theorem lane_eq (role : Role) :
    c.lane role = dormant (c.lane role).view role (config.geometry role).elementSize := by
  have hlane := lane_unused config c.inbound.view c.outbound.view role
  rwa [← h.eq_unused] at hlane

/-- Each ring is the one that the configuration names. -/
theorem ringGranted (role : Role) : ∃ t t',
    Store.RingGranted t (config.ringName role) (config.geometry role) (c.lane role).view t' := by
  cases role with
  | reader => exact ⟨s, s₁, Store.ringGranted_of_openRing h.inbound⟩
  | writer => exact ⟨s₁, s₂, Store.ringGranted_of_openRing h.outbound⟩

theorem segmentSize_eq (role : Role) :
    (config.geometry role).segmentSize = .ok (c.lane role).view.handle.size := by
  obtain ⟨_, _, hgranted⟩ := h.ringGranted role
  exact hgranted.segmentSize

theorem valid (role : Role) : (config.geometry role).Valid :=
  (Geometry.segmentSize_eq_ok_iff.1 (h.segmentSize_eq role)).1

theorem geometry_eq (role : Role) : (c.lane role).view.geometry = config.geometry role := by
  obtain ⟨_, _, hgranted⟩ := h.ringGranted role
  exact hgranted.geometry

theorem name_eq (role : Role) :
    SegmentName.ofString (config.ringName role) = .ok (c.lane role).view.name := by
  obtain ⟨_, _, hgranted⟩ := h.ringGranted role
  exact hgranted.name

end Opened

end Channel

end TwinRing
