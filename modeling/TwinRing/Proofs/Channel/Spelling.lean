import TwinRing.Channel
import TwinRing.Proofs.Segment.Naming
/-!
# Channels — how their names are spelled

A channel keeps its configuration with the names as they were given, and
looks at them only to open its rings. So a channel whose names are written
in full does all that the channel does, and what becomes of it is again
what becomes of the channel, with the names in full.
-/

namespace TwinRing

namespace SegmentName

/-- The name that a text gives, written in full; a text that gives none as
it stands. -/
def inFull (given : String) : String :=
  match ofString? given with
  | some name => name.full
  | none => given

/-- A text and the name that it gives, written in full, give the same. -/
theorem ofString_inFull (given : String) : ofString (inFull given) = ofString given := by
  unfold inFull
  cases hname : ofString? given with
  | none => rfl
  | some name =>
    dsimp only
    rw [ofString_full, ofString, hname]

/-- Texts that give one name are the same in full. -/
theorem inFull_of_ok {given : String} {name : SegmentName} (h : ofString given = .ok name) :
    inFull given = name.full := by
  unfold inFull
  unfold ofString at h
  cases hname : ofString? given with
  | none => rw [hname] at h; cases h
  | some other => rw [hname] at h; cases h; rfl

end SegmentName

namespace Store

variable (s : Store) (given : String)

theorem openNamed_inFull (size : UInt64) :
    s.openNamed (SegmentName.inFull given) size = s.openNamed given size := by
  unfold openNamed
  rw [SegmentName.ofString_inFull]

theorem openRing_inFull (g : Geometry) :
    s.openRing (SegmentName.inFull given) g = s.openRing given g := by
  unfold openRing
  rw [SegmentName.ofString_inFull]

theorem unlink_inFull : s.unlink (SegmentName.inFull given) = s.unlink given := by
  unfold unlink
  rw [SegmentName.ofString_inFull]

end Store

/-- A configuration with its names written in full. -/
def Config.inFull (c : Config) : Config :=
  { c with inName := SegmentName.inFull c.inName, outName := SegmentName.inFull c.outName }

namespace Channel

variable (c : Channel) (s : Store)

/-- A channel with the names in its configuration written in full. -/
def inFull (c : Channel) : Channel := { c with config := c.config.inFull }

/-! ## What does not look at the names -/

@[simp] theorem inbound_inFull : c.inFull.inbound = c.inbound := rfl

@[simp] theorem outbound_inFull : c.inFull.outbound = c.outbound := rfl

@[simp] theorem inElementSize_inFull : c.inFull.config.inElementSize = c.config.inElementSize :=
  rfl

@[simp] theorem outElementSize_inFull : c.inFull.config.outElementSize = c.config.outElementSize :=
  rfl

@[simp] theorem pushRetry_inFull : c.inFull.config.pushRetry = c.config.pushRetry := rfl

@[simp] theorem getRetry_inFull : c.inFull.config.getRetry = c.config.getRetry := rfl

@[simp] theorem isShutdown_inFull : c.inFull.isShutdown = c.isShutdown := rfl

@[simp] theorem lane_inFull (role : Role) : c.inFull.lane role = c.lane role := by
  cases role <;> rfl

@[simp] theorem result?_inFull (role : Role) (ticket : Nat) :
    c.inFull.result? role ticket = c.result? role ticket := by
  unfold result?
  rw [lane_inFull]

@[simp] theorem nap?_inFull (role : Role) (ticket : Nat) :
    c.inFull.nap? role ticket = c.nap? role ticket := by
  unfold nap?
  rw [lane_inFull]

/-! ## What becomes of a channel -/

theorem pushAsync_inFull (element : Bytes) :
    c.inFull.pushAsync element s =
      ((c.pushAsync element s).1, (c.pushAsync element s).2.1.inFull,
        (c.pushAsync element s).2.2) := by
  simp only [pushAsync, inFull]

theorem getAsync_inFull (buffer : Bytes) :
    c.inFull.getAsync buffer s =
      ((c.getAsync buffer s).1, (c.getAsync buffer s).2.1.inFull,
        (c.getAsync buffer s).2.2) := by
  simp only [getAsync, inFull]

theorem beginPush_inFull (element : Bytes) :
    c.inFull.beginPush element s =
      ((c.beginPush element s).1, (c.beginPush element s).2.1.inFull,
        (c.beginPush element s).2.2) := by
  simp only [beginPush, callPush, inFull, Config.inFull]

theorem beginGet_inFull (length : Nat) :
    c.inFull.beginGet length s =
      ((c.beginGet length s).1, (c.beginGet length s).2.1.inFull,
        (c.beginGet length s).2.2) := by
  simp only [beginGet, callGet, inFull, Config.inFull]

theorem forget_inFull (ticket : Nat) (role : Role) :
    c.inFull.forget ticket role = (c.forget ticket role).inFull := by
  cases role <;> rfl

theorem elapse_inFull (span : Duration) :
    c.inFull.elapse span s = ((c.elapse span s).1.inFull, (c.elapse span s).2) := by
  simp only [elapse, inFull]

theorem shutdown_inFull :
    c.inFull.shutdown s = ((c.shutdown s).1.inFull, (c.shutdown s).2) := by
  simp only [shutdown, inFull]

theorem drop_inFull : c.inFull.drop s = c.drop s := by
  simp only [drop, shutdown_inFull, inbound_inFull, outbound_inFull]

/-! ## Building -/

theorem startWorkers_inFull (config : Config) (inView outView : View) :
    startWorkers config.inFull inView outView s =
      ((startWorkers config inView outView s).1.map inFull,
        (startWorkers config inView outView s).2) := by
  unfold startWorkers
  dsimp only [Config.inFull]
  rcases startWorker (Lane.ofView inView .reader config.inElementSize) s with ⟨e | inbound, s₁⟩
  · rfl
  dsimp only
  rcases startWorker (Lane.ofView outView .writer config.outElementSize) s₁ with ⟨e | outbound, s₂⟩
  · simp only [Except.map]
  · rfl

/-- **A channel is built alike on names in full**: it opens the same two
rings, and fails for the same reasons. -/
theorem build_inFull (config : Config) :
    build config.inFull s = ((build config s).1.map inFull, (build config s).2) := by
  have hin : s.openRing config.inFull.inName config.inFull.inGeometry =
      s.openRing config.inName config.inGeometry := s.openRing_inFull ..
  unfold build
  rw [hin]
  rcases s.openRing config.inName config.inGeometry with ⟨e | inView, s₁⟩
  · rfl
  -- the second ring is opened on what the first open has left
  have hout : s₁.openRing config.inFull.outName config.inFull.outGeometry =
      s₁.openRing config.outName config.outGeometry := s₁.openRing_inFull ..
  dsimp only
  rw [hout]
  rcases s₁.openRing config.outName config.outGeometry with ⟨e | outView, s₂⟩
  · rfl
  · exact startWorkers_inFull _ config inView outView

end Channel

end TwinRing
