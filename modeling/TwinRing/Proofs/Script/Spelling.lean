import Mathlib.Data.List.Forall2
import TwinRing.Script.Session
import TwinRing.Proofs.Channel.Opened
import TwinRing.Proofs.Channel.Spelling
/-!
# Sessions — how names are spelled

A step of a session gives names as texts, and a name is given by two texts.
Which of them stands in a step makes no difference: with all names written
in full a session goes on as it does without (`Session.step_inFull`), and
what is written in full is the same for both. So two scripts that spell
their names differently get the same answers, the configurations of their
channels apart, which repeat the names as they were given.
-/

namespace TwinRing

namespace Script

/-! ## Registries -/

namespace Registry

variable {α β : Type} (f : α → β) (r : Registry α) (id : String)

/-- A registry with each thing replaced. -/
def mapValues (f : α → β) (r : Registry α) : Registry β :=
  r.map fun entry => (entry.1, f entry.2)

theorem find?_mapValues : find? (mapValues f r) id = (find? r id).map f := by
  induction r with
  | nil => rfl
  | cons entry rest ih =>
    unfold mapValues find? at ih ⊢
    rw [List.map_cons, List.lookup_cons, List.lookup_cons, ih]
    cases id == entry.1 <;> rfl

theorem remove_mapValues : remove (mapValues f r) id = mapValues f (remove r id) := by
  unfold mapValues remove
  rw [List.filter_map]
  rfl

theorem put_mapValues (a : α) : put (mapValues f r) id (f a) = mapValues f (put r id a) := by
  unfold put
  rw [remove_mapValues]
  rfl

/-- To replace what is under an id does not change the order of the ids. -/
theorem inOrder_mapValues : inOrder (mapValues f r) = (inOrder r).map f := by
  unfold inOrder mapValues
  rw [← List.map_mergeSort (r := fun a b => Text.inOrder a.1 b.1) fun _ _ _ _ => rfl,
    List.map_map, List.map_map]
  rfl

end Registry

/-! ## Names in full -/

/-- An answer with the names in its configuration written in full. -/
def Answer.inFull : Answer → Answer
  | .built c => .built c.inFull
  | .channelState inbound outbound c => .channelState inbound outbound c.inFull
  | .channel c => .channel c.inFull
  | other => other

/-- A step with its names written in full. -/
def Step.inFull : Step → Step
  | .openSegment id given size => .openSegment id (SegmentName.inFull given) size
  | .openRing id given g => .openRing id (SegmentName.inFull given) g
  | .openChannel id config => .openChannel id config.inFull
  | .unlink given => .unlink (SegmentName.inFull given)
  | other => other

namespace Answer

/-- What a push comes to has no configuration in it. -/
theorem ofPush_inFull (result? : Option (Except ChannelError Bytes)) :
    (result?.elim done ofPush).inFull = result?.elim .done .ofPush := by
  rcases result? with _ | _ | _ <;> rfl

theorem ofGet_inFull (buffer : Bytes) (result? : Option (Except ChannelError Bytes)) :
    (result?.elim done (ofGet buffer)).inFull =
      result?.elim .done (.ofGet buffer) := by
  rcases result? with _ | result
  · rfl
  · simp only [Option.elim, ofGet]
    rcases Channel.fill? buffer result with _ | ⟨_ | _, _⟩ <;> rfl

theorem ofChannel_inFull (result : Except ChannelError Unit) :
    (ofChannel result).inFull = .ofChannel result := by
  cases result <;> rfl

end Answer

namespace Session

variable (w : Session) (id : String) (role : Role) (ticket : Nat) (c : Channel) (s : Store)

/-- A session with the names in its channels' configurations written in
full. -/
def inFull (w : Session) : Session :=
  { w with channels := w.channels.mapValues Channel.inFull }

@[simp] theorem store_inFull : w.inFull.store = w.store := rfl

@[simp] theorem segments_inFull : w.inFull.segments = w.segments := rfl

@[simp] theorem rings_inFull : w.inFull.rings = w.rings := rfl

@[simp] theorem jobs_inFull : w.inFull.jobs = w.jobs := rfl

@[simp] theorem takenDown_inFull : w.inFull.takenDown = w.takenDown := rfl

/-! ## Waiting and giving up -/

theorem find?_inFull : w.inFull.channels.find? id = (w.channels.find? id).map Channel.inFull :=
  Registry.find?_mapValues ..

theorem withChannel_inFull :
    w.inFull.withChannel id (c.inFull, s) = (w.withChannel id (c, s)).inFull := by
  simp only [withChannel, inFull, Registry.put_mapValues]

theorem result?_inFull : w.inFull.result? id role ticket = w.result? id role ticket := by
  unfold result?
  rw [find?_inFull]
  cases w.channels.find? id with
  | none => rfl
  | some c => exact c.result?_inFull role ticket

theorem forget_inFull : w.inFull.forget id role ticket = (w.forget id role ticket).inFull := by
  unfold forget
  rw [find?_inFull]
  cases w.channels.find? id with
  | none => rfl
  | some c =>
    dsimp only [Option.map]
    rw [Channel.forget_inFull]
    exact withChannel_inFull w id (c.forget ticket role) w.store

theorem elapseAll_inFull (span : Duration) (r : Registry Channel) (s : Store) :
    elapseAll span (r.mapValues Channel.inFull) s =
      ((elapseAll span r s).1.mapValues Channel.inFull, (elapseAll span r s).2) := by
  induction r generalizing s with
  | nil => rfl
  | cons entry rest ih =>
    obtain ⟨id, c⟩ := entry
    change elapseAll span ((id, c.inFull) :: Registry.mapValues Channel.inFull rest) s = _
    simp only [elapseAll, Channel.elapse_inFull, ih]
    rfl

theorem elapse_inFull (span : Duration) : w.inFull.elapse span = (w.elapse span).inFull := by
  simp only [elapse, inFull, elapseAll_inFull]

theorem naps_inFull : w.inFull.naps = w.naps := List.flatMap_map ..

theorem returnedCount_inFull : w.inFull.returnedCount = w.returnedCount := List.foldl_map ..

theorem callCount_inFull : w.inFull.callCount = w.callCount := List.foldl_map ..

/-- How long a session waits depends on the calls on its channels only. -/
theorem pass_inFull (waited? : Option Duration) :
    w.inFull.pass waited? = (w.pass waited?).map fun next => (next.1, next.2.inFull) := by
  unfold pass nextNap?
  rw [naps_inFull]
  simp only [elapse_inFull, returnedCount_inFull, Option.map_map]
  rfl

theorem awaitWithin_inFull (n : Nat) (waited? : Option Duration) :
    awaitWithin n waited? w.inFull id role ticket =
      (awaitWithin n waited? w id role ticket).inFull := by
  induction n generalizing w waited? with
  | zero => rfl
  | succ n ih =>
    simp only [awaitWithin, result?_inFull, pass_inFull]
    cases w.result? id role ticket with
    | some result => rfl
    | none =>
      cases w.pass waited? with
      | none => rfl
      | some next => exact ih next.2 next.1

theorem await_inFull :
    w.inFull.await id role ticket =
      ((w.await id role ticket).1, (w.await id role ticket).2.inFull) := by
  simp only [await, callCount_inFull, awaitWithin_inFull, result?_inFull, forget_inFull]

theorem sleepThrough_inFull (n : Nat) :
    sleepThrough n w.inFull id role ticket = (sleepThrough n w id role ticket).inFull := by
  induction n generalizing w with
  | zero => rfl
  | succ n ih =>
    unfold sleepThrough
    have hnap : ((w.inFull.channels.find? id).bind fun c => c.nap? role ticket) =
        (w.channels.find? id).bind fun c => c.nap? role ticket := by
      rw [find?_inFull]
      cases w.channels.find? id with
      | none => rfl
      | some c => exact c.nap?_inFull role ticket
    rw [hnap]
    cases (w.channels.find? id).bind fun c => c.nap? role ticket with
    | none => rfl
    | some span =>
      dsimp only
      rw [elapse_inFull, ih]

theorem dropChannel_inFull : w.inFull.dropChannel id c.inFull = (w.dropChannel id c).inFull := by
  simp only [dropChannel, inFull, Channel.shutdown_inFull, Channel.drop_inFull,
    Channel.result?_inFull, Registry.remove_mapValues]

theorem close_inFull : w.inFull.close = w.close := by
  simp only [close, inFull, Registry.inOrder_mapValues, List.foldl_map, Channel.drop_inFull]


/-! ## Channels -/

theorem putChannel_inFull :
    { w.inFull with channels := w.inFull.channels.put id c.inFull } =
      inFull { w with channels := w.channels.put id c } := by
  simp only [inFull, Registry.put_mapValues]

/-- **A channel is opened under an id** in place of the one that was there,
whose rings are given up alike. -/
theorem openChannel_inFull (config : Config) :
    w.inFull.openChannel id config.inFull =
      ((w.openChannel id config).1.inFull, (w.openChannel id config).2.inFull) := by
  have hbuild := Channel.build_inFull w.store config
  unfold openChannel
  rw [store_inFull, hbuild]
  rcases Channel.build config w.store with ⟨e | c, store⟩
  · rfl
  · simp only [Except.map]
    rw [show { w.inFull with store } = inFull { w with store } from rfl, find?_inFull w]
    -- what was under the id is taken down after the new channel is up
    cases w.channels.find? id with
    | none =>
      simp only [Option.map]
      exact congrArg (Prod.mk _) (putChannel_inFull { w with store } id c)
    | some old =>
      simp only [Option.map]
      rw [dropChannel_inFull]
      exact congrArg (Prod.mk _) (putChannel_inFull _ id c)

theorem push_inFull (element : Bytes) :
    w.inFull.push id c.inFull element =
      ((w.push id c element).1, (w.push id c element).2.inFull) := by
  unfold push
  rw [store_inFull, Channel.beginPush_inFull]
  dsimp only
  rw [withChannel_inFull, await_inFull]

theorem get_inFull (length : Nat) :
    w.inFull.get id c.inFull length =
      ((w.get id c length).1, (w.get id c length).2.inFull) := by
  unfold get
  rw [store_inFull, Channel.beginGet_inFull]
  dsimp only
  rw [withChannel_inFull, await_inFull]

theorem streamPush_inFull (count seed : Nat) (r : Stream) :
    w.inFull.streamPush id count seed r =
      ((w.streamPush id count seed r).1, (w.streamPush id count seed r).2.inFull) := by
  unfold streamPush
  rw [find?_inFull]
  cases w.channels.find? id with
  | none => rfl
  | some c =>
    simp only [Option.map]
    by_cases hpushing : r.isPushing count = true
    · simp only [if_pos hpushing]
      cases r.push? with
      | some ticket =>
        simp only [result?_inFull]
        rcases w.result? id .writer ticket with _ | _ | _ <;> simp only [forget_inFull]
      | none =>
        simp only [store_inFull, Channel.outElementSize_inFull, Channel.beginPush_inFull,
          withChannel_inFull, result?_inFull]
        generalize c.beginPush _ w.store = begun
        rcases (w.withChannel id begun.2).result? id .writer begun.1 with _ | _ | _ <;>
          simp only [forget_inFull]
    · simp only [if_neg hpushing]

theorem streamGet_inFull (count : Nat) (r : Stream) :
    w.inFull.streamGet id count r =
      ((w.streamGet id count r).1, (w.streamGet id count r).2.inFull) := by
  unfold streamGet
  rw [find?_inFull]
  cases w.channels.find? id with
  | none => rfl
  | some c =>
    simp only [Option.map]
    by_cases hgetting : r.isGetting count = true
    · simp only [if_pos hgetting]
      cases r.get? with
      | some ticket =>
        simp only [result?_inFull]
        rcases w.result? id .reader ticket with _ | _ | _ <;> simp only [forget_inFull]
      | none =>
        simp only [store_inFull, Channel.inElementSize_inFull, Channel.beginGet_inFull,
          withChannel_inFull, result?_inFull]
        generalize c.beginGet _ w.store = begun
        rcases (w.withChannel id begun.2).result? id .reader begun.1 with _ | _ | _ <;>
          simp only [forget_inFull]
    · simp only [if_neg hgetting]

theorem streamRounds_inFull (source target : String) (count seed n : Nat)
    (waited? : Option Duration) (r : Stream) :
    streamRounds source target count seed n waited? r w.inFull =
      ((streamRounds source target count seed n waited? r w).1,
        (streamRounds source target count seed n waited? r w).2.inFull) := by
  induction n generalizing waited? r w with
  | zero => rfl
  | succ n ih =>
    simp only [streamRounds, streamPush_inFull, streamGet_inFull, pass_inFull]
    split
    · split
      · generalize ((w.streamPush source count seed r).2.streamGet target count
          (w.streamPush source count seed r).1) = round
        cases round.2.pass waited? with
        | none => rfl
        | some later => exact ih later.2 later.1 _
      · exact ih _ _ _
    · rfl

theorem stream_inFull (source target : String) (count seed : Nat) :
    w.inFull.stream source target count seed =
      ((w.stream source target count seed).1, (w.stream source target count seed).2.inFull) := by
  simp only [stream, callCount_inFull, streamRounds_inFull]

/-- **What is done with an open channel** does not depend on how its names
are spelled. -/
theorem channelStep_inFull (step : ChannelStep) :
    w.inFull.channelStep id c.inFull step =
      ((w.channelStep id c step).1.inFull, (w.channelStep id c step).2.inFull) := by
  cases step with
  | pushSync element =>
    simp only [channelStep, push_inFull, Answer.ofPush_inFull]
  | getSync into =>
    simp only [channelStep, Channel.inElementSize_inFull, get_inFull, Answer.ofGet_inFull]
  | pushAsync element =>
    simp only [channelStep, store_inFull, Channel.pushAsync_inFull, withChannel_inFull,
      Answer.ofChannel_inFull]
  | getAsync into =>
    simp only [channelStep, store_inFull, Channel.inElementSize_inFull, Channel.getAsync_inFull,
      withChannel_inFull, Answer.ofChannel_inFull]
  | pushDone => rfl
  | getDone => rfl
  | pushResult => exact congrArg (Prod.mk _) (withChannel_inFull w id c.pushResult.2 w.store)
  | getResult => exact congrArg (Prod.mk _) (withChannel_inFull w id c.getResult.2 w.store)
  | clearIn => rfl
  | clearOut => rfl
  | state =>
    simp only [channelStep, store_inFull, Channel.inbound_inFull, Channel.outbound_inFull,
      answering, Answer.inFull]
    rfl
  | info => rfl
  | debug overLines => rfl
  | shutdown =>
    simp only [channelStep, store_inFull, Channel.shutdown_inFull, withChannel_inFull,
      Channel.isShutdown_inFull, Answer.inFull]
  | isShutdown => rfl
  | drop => exact congrArg (Prod.mk _) (dropChannel_inFull w id c)
  | pushBeside job element attempts =>
    simp only [channelStep, store_inFull, Channel.pushRetry_inFull, Channel.beginPush_inFull,
      withChannel_inFull, sleepThrough_inFull]
    generalize sleepThrough _ _ _ _ _ = asleep
    rfl
  | getBeside job into attempts =>
    simp only [channelStep, store_inFull, Channel.getRetry_inFull, Channel.inElementSize_inFull,
      Channel.beginGet_inFull, withChannel_inFull, sleepThrough_inFull]
    generalize sleepThrough _ _ _ _ _ = asleep
    rfl
  | stream target count seed =>
    simp only [channelStep, find?_inFull]
    cases w.channels.find? target with
    | none => rfl
    | some other => exact stream_inFull w id target count seed

/-! ## Segments and rings -/

theorem openSegment_inFull (given : String) (size : UInt64) :
    w.inFull.openSegment id (SegmentName.inFull given) size =
      ((w.openSegment id given size).1.inFull, (w.openSegment id given size).2.inFull) := by
  simp only [openSegment, store_inFull, Store.openNamed_inFull]
  rcases w.store.openNamed given size with ⟨_ | _, _⟩ <;> rfl

theorem openRing_inFull (given : String) (g : Geometry) :
    w.inFull.openRing id (SegmentName.inFull given) g =
      ((w.openRing id given g).1.inFull, (w.openRing id given g).2.inFull) := by
  simp only [openRing, store_inFull, Store.openRing_inFull]
  rcases w.store.openRing given g with ⟨_ | _, _⟩ <;> rfl

theorem segmentStep_inFull (h : Handle) (step : SegmentStep) :
    w.inFull.segmentStep id h step =
      ((w.segmentStep id h step).1.inFull, (w.segmentStep id h step).2.inFull) := by
  cases step <;> simp only [segmentStep] <;> first | rfl | (split <;> rfl)

theorem ringStep_inFull (v : View) (step : RingStep) :
    w.inFull.ringStep id v step =
      ((w.ringStep id v step).1.inFull, (w.ringStep id v step).2.inFull) := by
  cases step with
  | destroy unlink =>
    simp only [ringStep, store_inFull]
    rcases v.destroy unlink w.store with ⟨_ | _, _⟩ <;> rfl
  | relay target count =>
    simp only [ringStep, rings_inFull]
    cases w.rings.find? target <;> rfl
  | _ => rfl

/-! ## Running -/

theorem join_inFull : w.inFull.join id = ((w.join id).1.inFull, (w.join id).2.inFull) := by
  have hjob : ∀ (j : Job) (result : Except ChannelError Bytes),
      (jobAnswer j result).inFull = jobAnswer j result := by
    intro j result
    unfold jobAnswer
    cases j.role with
    | writer => exact Answer.ofPush_inFull (some result)
    | reader => exact Answer.ofGet_inFull j.buffer (some result)
  simp only [join, jobs_inFull]
  cases w.jobs.find? id with
  | none => rfl
  | some j =>
    -- the job is gone from the session before it is waited for
    simp only
    rw [show ({ w.inFull with jobs := w.jobs.remove id } : Session) =
      inFull { w with jobs := w.jobs.remove id } from rfl]
    cases j.outcome? with
    | some result =>
      simp only [hjob]
    | none =>
      simp only [await_inFull]
      generalize await _ _ _ _ = waited
      rcases waited with ⟨_ | result, w⟩
      · rfl
      · simp only [Option.elim, hjob]

/-- **A step with its names in full** gets the answer that the step gets,
with the names in full, and leaves the session that the step leaves. -/
theorem step_inFull (step : Step) :
    w.inFull.step step.inFull = ((w.step step).1.inFull, (w.step step).2.inFull) := by
  cases step with
  | openSegment id given size => exact openSegment_inFull w id given size
  | segment id step =>
    simp only [Session.step, Step.inFull, segments_inFull]
    split
    · exact segmentStep_inFull w id _ _
    all_goals rfl
  | openRing id given g => exact openRing_inFull w id given g
  | ring id step =>
    simp only [Session.step, Step.inFull, rings_inFull]
    split
    · exact ringStep_inFull w id _ _
    all_goals rfl
  | openChannel id config => exact openChannel_inFull w id config
  | channel id step =>
    simp only [Session.step, Step.inFull, find?_inFull, takenDown_inFull]
    cases w.channels.find? id with
    | some c =>
      cases step with
      | ok step => exact channelStep_inFull w id c step
      | error why => rfl
    | none =>
      -- no channel is there: it may have been taken down before
      have hdown : ∀ step : ChannelStep,
          (if id ∈ w.takenDown then w.inFull.channelStepTakenDown step
            else (.refused .noSuchChannel, w.inFull)) =
          ((if id ∈ w.takenDown then w.channelStepTakenDown step
              else (.refused .noSuchChannel, w)).1.inFull,
            (if id ∈ w.takenDown then w.channelStepTakenDown step
              else (.refused .noSuchChannel, w)).2.inFull) := by
        intro step
        split
        · cases step <;> rfl
        · rfl
      rcases step with why | step
      · rfl
      · cases step with
        | drop => rfl
        | _ => exact hdown _
  | unlink given =>
    simp only [Session.step, Step.inFull, store_inFull, Store.unlink_inFull]
    rcases w.store.unlink given with ⟨_ | _, _⟩ <;> rfl
  | join job => exact join_inFull w job
  | fault f => rfl
  | refused why => rfl

theorem steps_inFull (steps : List Step) :
    w.inFull.steps (steps.map Step.inFull) =
      ((w.steps steps).1.map Answer.inFull, (w.steps steps).2.inFull) := by
  induction steps generalizing w with
  | nil => rfl
  | cons step rest ih =>
    simp only [List.map_cons, Session.steps, step_inFull, ih]

end Session

/-! ## Other spellings -/

/-- **Another spelling of a name**: the same text, or one of the two that
give the name. A text that gives no name has no other spelling. -/
inductive Respelled (given : String) : String → Prop
  | same : Respelled given given
  | full {name : SegmentName} (h : SegmentName.ofString given = .ok name) :
    Respelled given name.full
  | bare {name : SegmentName} (h : SegmentName.ofString given = .ok name) :
    Respelled given (String.ofList name.bare)

/-- **A step with its names spelled in other ways.** -/
inductive Step.Respelled : Step → Step → Prop
  | same (step : Step) : Respelled step step
  | openSegment {given given' : String} (id : String) (size : UInt64)
    (h : Script.Respelled given given') :
    Respelled (.openSegment id given size) (.openSegment id given' size)
  | openRing {given given' : String} (id : String) (g : Geometry)
    (h : Script.Respelled given given') :
    Respelled (.openRing id given g) (.openRing id given' g)
  | openChannel {inName outName : String} (id : String) (config : Config)
    (hin : Script.Respelled config.inName inName)
    (hout : Script.Respelled config.outName outName) :
    Respelled (.openChannel id config) (.openChannel id { config with inName, outName })
  | unlink {given given' : String} (h : Script.Respelled given given') :
    Respelled (.unlink given) (.unlink given')

/-- Spellings of one name are the same in full. -/
theorem Respelled.inFull_eq {given given' : String} (h : Respelled given given') :
    SegmentName.inFull given' = SegmentName.inFull given := by
  cases h with
  | same => rfl
  | @full name h =>
    rw [SegmentName.inFull_of_ok h, SegmentName.inFull_of_ok name.ofString_full]
  | @bare name h =>
    rw [SegmentName.inFull_of_ok h, SegmentName.inFull_of_ok name.ofString_bare]

theorem Step.Respelled.inFull_eq {step step' : Step} (h : step.Respelled step') :
    step'.inFull = step.inFull := by
  cases h with
  | same => rfl
  | openSegment id size h => simp only [Step.inFull, h.inFull_eq]
  | openRing id g h => simp only [Step.inFull, h.inFull_eq]
  | openChannel id config hin hout =>
    simp only [Step.inFull, Config.inFull, hin.inFull_eq, hout.inFull_eq]
  | unlink h => simp only [Step.inFull, h.inFull_eq]

variable {w w' : Session} {steps steps' : List Step}

/-- **Scripts that spell names differently go on alike**: they get the same
answers, and come to the same session, with the names in full. -/
theorem Session.steps_respelled (hw : w'.inFull = w.inFull)
    (h : List.Forall₂ Step.Respelled steps steps') :
    (w'.steps steps').1.map Answer.inFull = (w.steps steps).1.map Answer.inFull ∧
      (w'.steps steps').2.inFull = (w.steps steps).2.inFull := by
  -- both scripts are one script in full
  have hsteps : steps'.map Step.inFull = steps.map Step.inFull := by
    induction h with
    | nil => rfl
    | cons hstep _ ih => rw [List.map_cons, List.map_cons, hstep.inFull_eq, ih]
  have hrun := w.steps_inFull steps
  rw [← hw, ← hsteps, w'.steps_inFull] at hrun
  exact ⟨congrArg Prod.fst hrun, congrArg Prod.snd hrun⟩

/-- What is left at the end is the same, and so is all that was reported. -/
theorem runSession_respelled (h : List.Forall₂ Step.Respelled steps steps') :
    (runSession steps').2 = (runSession steps).2 := by
  have hend := (Session.steps_respelled (w := {}) rfl h).2
  have hclose := congrArg (fun w : Session => w.close.journal) hend
  simp only [Session.close_inFull] at hclose
  exact hclose

/-- **How a name is spelled is immaterial.** A text gives a name exactly if
what is left of it without one slash in front is proper, and is reported as
it stands otherwise; the name is shown with a slash in front, can be passed
to a system call, and gives itself. Two texts give the same name if they
differ by a slash in front at most. A session that spells its names in
another way, in any of its steps, goes on and ends alike, and a ring that
is destroyed has the name removed that it was opened by. -/
theorem spelling_immaterial :
    (∀ given : String,
      ((∃ name, SegmentName.ofString given = .ok name) ↔
        SegmentName.Proper (SegmentName.withoutSlash given.toList)) ∧
      (¬ SegmentName.Proper (SegmentName.withoutSlash given.toList) →
        SegmentName.ofString given = .error (.invalidName given)) ∧
      ∀ name, SegmentName.ofString given = .ok name →
        name.full = "/" ++ String.ofList (SegmentName.withoutSlash given.toList) ∧
          zeroTerminated? name.full = some name.terminated ∧
          SegmentName.ofString name.full = .ok name) ∧
    (∀ (given given' : String) (name name' : SegmentName),
      SegmentName.ofString given = .ok name → SegmentName.ofString given' = .ok name' →
      (name.full = name'.full ↔
        given = given' ∨ given = "/" ++ given' ∨ given' = "/" ++ given)) ∧
    (∀ (w w' : Session) (steps steps' : List Step), w'.inFull = w.inFull →
      List.Forall₂ Step.Respelled steps steps' →
      (w'.steps steps').1.map Answer.inFull = (w.steps steps).1.map Answer.inFull ∧
        (w'.steps steps').2.inFull = (w.steps steps).2.inFull) ∧
    (∀ steps steps' : List Step, List.Forall₂ Step.Respelled steps steps' →
      (runSession steps').1.map Answer.inFull = (runSession steps).1.map Answer.inFull ∧
        (runSession steps').2 = (runSession steps).2) ∧
    ∀ (given : String) (g : Geometry) (s s' : Store) (v : View),
      s.openRing given g = (.ok v, s') →
      SegmentName.ofString given = .ok v.name ∧
        ∀ t, v.destroy true t = (v.drop t).unlinkName v.name := by
  refine ⟨fun given => ⟨SegmentName.exists_ofString_iff, SegmentName.ofString_of_not_proper, ?_⟩,
    ?_, ?_, ?_, ?_⟩
  · intro name hname
    have hbare := SegmentName.ofString_eq_ok_iff_withoutSlash.1 hname
    exact ⟨by rw [hbare, name.full_eq], name.zeroTerminated?_full, name.ofString_full⟩
  · intro given given' name name' h h'
    exact SegmentName.full_eq_full_iff h h'
  · intro w w' steps steps' hw h
    exact Session.steps_respelled hw h
  · intro steps steps' h
    exact ⟨(Session.steps_respelled (w := {}) rfl h).1, runSession_respelled h⟩
  · intro given g s s' v hopen
    have hgranted := Store.ringGranted_of_openRing hopen
    refine ⟨hgranted.name, fun t => ?_⟩
    unfold View.destroy Store.unlink
    dsimp only
    rw [if_pos rfl, SegmentName.ofString_full]

/-- A script that opens a ring, builds a channel on it and removes its name
twice, with a slash in front of each name. -/
def slashedSteps : List Step :=
  [.openRing "r" "/q" ⟨4, 8⟩, .openChannel "c" (.ofParts "/q" "/p" 4 4 8 8 1000 false true),
    .unlink "/q", .ring "r" (.ok (.destroy true))]

/-- The same script with a slash in front of one name only. -/
def unslashedSteps : List Step :=
  [.openRing "r" "q" ⟨4, 8⟩, .openChannel "c" (.ofParts "q" "/p" 4 4 8 8 1000 false true),
    .unlink "q", .ring "r" (.ok (.destroy true))]

theorem spelling_immaterial_unslashed :
    (∃ name, SegmentName.ofString "/q" = .ok name ∧ name.full = "/q" ∧
      zeroTerminated? name.full = some name.terminated ∧
      SegmentName.ofString name.full = .ok name) ∧
    SegmentName.ofString "//" = .error (.invalidName "//") ∧
    (∃ name name', SegmentName.ofString "/q" = .ok name ∧ SegmentName.ofString "q" = .ok name' ∧
      name.full = name'.full) ∧
    List.Forall₂ Step.Respelled slashedSteps unslashedSteps ∧
    (runSession unslashedSteps).1.map Answer.inFull =
      (runSession slashedSteps).1.map Answer.inFull ∧
    (runSession unslashedSteps).2 = (runSession slashedSteps).2 ∧
    ∃ v s', ({} : Store).openRing "q" ⟨4, 8⟩ = (.ok v, s') ∧
      v.destroy true s' = (v.drop s').unlinkName v.name := by
  obtain ⟨reads, same, -, runs, destroys⟩ := spelling_immaterial
  have hslashed : SegmentName.ofString "/q" = .ok (.ofLetter 'q' rfl) := by decide
  have hplain : SegmentName.ofString "q" = .ok (.ofLetter 'q' rfl) := by decide
  have hnone : ¬ SegmentName.Proper (SegmentName.withoutSlash "//".toList) := fun h =>
    h.2.1 (by decide)
  have hrespelled : Respelled "/q" "q" := .bare hslashed
  have hspelled : List.Forall₂ Step.Respelled slashedSteps unslashedSteps :=
    .cons (.openRing "r" ⟨4, 8⟩ hrespelled) (.cons (.openChannel "c" _ hrespelled .same)
      (.cons (.unlink hrespelled) (.cons (.same _) .nil)))
  obtain ⟨hanswers, hjournal⟩ := runs _ _ hspelled
  have hopens : (({} : Store).openRing "q" ⟨4, 8⟩).1.isOk = true := by decide +kernel
  rcases hopen : ({} : Store).openRing "q" ⟨4, 8⟩ with ⟨cause | v, s'⟩
  · rw [hopen] at hopens
    exact Bool.noConfusion hopens
  · exact ⟨⟨_, hslashed, rfl, ((reads "/q").2.2 _ hslashed).2⟩, (reads "//").2.1 hnone,
      ⟨_, _, hslashed, hplain, (same _ _ _ _ hslashed hplain).2 (.inr (.inl (by decide)))⟩,
      hspelled, hanswers, hjournal, v, s', rfl, (destroys _ _ _ _ _ hopen).2 s'⟩

end Script

end TwinRing
