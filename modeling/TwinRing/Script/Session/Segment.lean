import TwinRing.Script.Session.Basic
import TwinRing.Script.Step
/-!
# Sessions — segments

Opening a segment, and what can be done with an open one.
-/

namespace TwinRing

namespace Script

namespace Session

/-- Open a segment under an id. -/
def openSegment (w : Session) (id name : String) (size : UInt64) : Answer × Session :=
  match w.store.openNamed name size with
  | (.error e, store) => (.segmentFailed e, { w with store })
  | (.ok h, store) =>
    let store := match w.segments.find? id with
      | some old => old.drop store
      | none => store
    (.segmentOpened h, { w with store, segments := w.segments.put id h })

/-- Make the lock of a segment, take it, and perhaps ruin it while it is
held; then the release is what fails. -/
def tryLock (h : Handle) (ruin : Bool) (s : Store) : Answer × Store :=
  let (made, s) := h.initLock s
  let taken := h.tryLock s
  let s := match taken, ruin with
    | .ok _, true =>
      (h.setLock (h.takeLock s) .broken).report (.releaseFailed .invalidArgument)
    | .ok _, false => h.releaseLock (h.takeLock s)
    | .error _, _ => s
  (.lockTried made taken, s)

/-- One step on an open segment. -/
def segmentStep (w : Session) (id : String) (h : Handle) : SegmentStep → Answer × Session
  | .info => (.segment h, w)
  | .drop =>
    (.flag true, { w with store := h.drop w.store, segments := w.segments.remove id })
  | .read offset length =>
    if h.covers offset length then (.bytes (h.read w.store offset length), w)
    else (.refused .outOfRange, w)
  | .write offset bytes =>
    if h.covers offset bytes.length then (.done, w.onStore fun s => h.write s offset bytes)
    else (.refused .outOfRange, w)
  | .closeDescriptor => (.flag true, w.onStore h.closeDescriptor)
  | .tryLock ruin =>
    if h.covers 0 Lock.size then
      let (answer, store) := tryLock h ruin w.store
      (answer, { w with store })
    else (.refused .outOfRange, w)
  | .debug overLines => (.text (h.shown.layout overLines), w)

end Session

end Script

end TwinRing
