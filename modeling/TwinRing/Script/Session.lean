import TwinRing.Script.Session.Channel
import TwinRing.Script.Session.Ring
import TwinRing.Script.Session.Segment
/-!
# Sessions

Segments, rings and channels opened, used and given up step by step.
Opening something under an id that is taken gives up what was there, once
the new thing is open. What is still open at the end is given up then.
-/

namespace TwinRing

namespace Script

namespace Session

/-- The answer for a job that has returned. -/
def jobAnswer (j : Job) (result : Except ChannelError Bytes) : Answer :=
  match j.role with
  | .writer => .ofPush result
  | .reader => .ofGet j.buffer result

/-- Wait for a job. -/
def join (w : Session) (id : String) : Answer × Session :=
  match w.jobs.find? id with
  | none => (.refused .noSuchJob, w)
  | some j =>
    let w := { w with jobs := w.jobs.remove id }
    match j.outcome? with
    | some result => (jobAnswer j result, w)
    | none =>
      let (result?, w) := w.await j.channel j.role j.ticket
      (result?.elim .done (jobAnswer j), w)

/-! ## Running -/

/-- **One step.** To drop what is not there is no error. -/
def step (w : Session) : Step → Answer × Session
  | .openSegment id name size => w.openSegment id name size
  | .segment id step =>
    match w.segments.find? id, step with
    | some h, .ok step => w.segmentStep id h step
    | none, .ok .drop => (.flag false, w)
    | none, _ => (.refused .noSuchSegment, w)
    | some _, .error why => (.refused why, w)
  | .openRing id name g => w.openRing id name g
  | .ring id step =>
    match w.rings.find? id, step with
    | some v, .ok step => w.ringStep id v step
    | none, .ok .drop => (.flag false, w)
    | none, _ => (.refused .noSuchRing, w)
    | some _, .error why => (.refused why, w)
  | .openChannel id config => w.openChannel id config
  | .channel id step =>
    match w.channels.find? id, step with
    | some c, .ok step => w.channelStep id c step
    | none, .ok .drop => (.flag false, w)
    | none, .ok step =>
      if id ∈ w.takenDown then w.channelStepTakenDown step else (.refused .noSuchChannel, w)
    | none, .error _ => (.refused .noSuchChannel, w)
    | some _, .error why => (.refused why, w)
  | .unlink name =>
    let (result, store) := w.store.unlink name
    (.ofSegment result, { w with store })
  | .join job => w.join job
  | .fault f => (.done, w.onStore fun s => s.addFault f)
  | .refused why => (.refused why, w)

/-- All steps in order, and the session after them. -/
def steps (w : Session) : List Step → List Answer × Session
  | [] => ([], w)
  | step :: rest =>
    let (answer, w) := w.step step
    let (answers, w) := w.steps rest
    (answer :: answers, w)

end Session

/-- **Run a session from nothing**, and give everything up at its end: the
answers to its steps, and what was reported. -/
def runSession (steps : List Step) : List Answer × Journal :=
  let (answers, w) := ({} : Session).steps steps
  (answers, w.close.journal)

end Script

end TwinRing
