import TwinRing.Proofs.Commons.Channels
import TwinRing.Proofs.Direction.Local
/-!
# Lanes under way — two lanes that cannot be told apart

Two lanes on one ring are alike if slot, flags and worker are the same and
so are the blocking calls, those apart that were on the older lane before:
the calls of the newer lane bear its first tickets, and those of the older
one the tickets from a number on. Whatever thread takes its step in both,
they stay alike and the ring is left with the same bytes. Tickets serve to
tell calls apart and for nothing else, which is why no answer depends on
where they start.
-/

namespace TwinRing

open Store (AgreeOn)

namespace Call

/-- A call without its ticket. -/
def body (k : Call) : Retrier × CallPhase := (k.retrier, k.phase)

variable {k k' : Call}

theorem noticed_body (h : k.body = k'.body) : k.noticed.body = k'.noticed.body := by
  obtain ⟨ticket, retrier, phase⟩ := k
  obtain ⟨ticket', retrier', phase'⟩ := k'
  cases h
  cases phase <;> rfl

theorem result?_body (h : k.body = k'.body) : k.result? = k'.result? := by
  obtain ⟨ticket, retrier, phase⟩ := k
  obtain ⟨ticket', retrier', phase'⟩ := k'
  cases h
  rfl

theorem collected_body (h : k.body = k'.body) (t : Transfer) :
    (k.collected t).body = (k'.collected t).body := by
  obtain ⟨ticket, retrier, phase⟩ := k
  obtain ⟨ticket', retrier', phase'⟩ := k'
  cases h
  unfold collected
  split
  · rfl
  · dsimp only
    rcases retrier.nextDelay with ⟨_ | delay, next⟩ <;> rfl

/-- **The step of a call does not depend on its ticket.** -/
theorem step_body (h : k.body = k'.body) (d : Direction) :
    (k.step d).1 = (k'.step d).1 ∧ (k.step d).2.body = (k'.step d).2.body := by
  have hcollected := fun t => collected_body h t
  obtain ⟨ticket, retrier, phase⟩ := k
  obtain ⟨ticket', retrier', phase'⟩ := k'
  cases h
  cases phase with
  | submitting buffer =>
    rcases hsubmit : d.submit buffer with ⟨e | _, d'⟩
    · simp only [step, hsubmit]
      exact ⟨trivial, rfl⟩
    · simp only [step, hsubmit]
      exact ⟨trivial, rfl⟩
  | checking =>
    rcases d.takeFinished_cases with ⟨t, -, htake⟩ | hnone
    · simp only [step, htake]
      exact ⟨trivial, hcollected t⟩
    · simp only [step, hnone]
      cases d.exit <;> exact ⟨rfl, rfl⟩
  | pausing buffer delay => simp only [step]; cases d.exit <;> exact ⟨rfl, rfl⟩
  | roused buffer => simp only [step]; cases d.exit <;> exact ⟨rfl, rfl⟩
  | calling => exact ⟨rfl, rfl⟩
  | asleep => exact ⟨rfl, rfl⟩
  | napping buffer delay => exact ⟨rfl, rfl⟩
  | returned result => exact ⟨rfl, rfl⟩

end Call

/-- The turn in which the calls are counted from a ticket on. -/
def Turn.countedFrom (first : Nat) : Turn → Turn
  | .call k => .call (first + k)
  | .rouse k => .rouse (first + k)
  | t => t

namespace Course

variable {c c' : Course} {k k' : Call} {ticket first : Nat}

/-! ## What a turn makes of worker and calls -/

/-- The worker after the step of a call: told, if that was its step. -/
theorem worker_call (hk : c.call? ticket = some k) :
    (c.turn (.call ticket)).worker =
      match k.phase with
      | .calling => c.worker.map WorkerPhase.noticed
      | _ => c.worker := by
  have hfind : c.lane.handshake.calls.find? (·.ticket == ticket) = some k := hk
  rw [turn_call hk]
  simp only [moved, worker, Lane.callStep, Lane.onHandshake, Handshake.callStep, hfind]
  cases k.phase <;> rfl

theorem nextTicket_call (hk : c.call? ticket = some k) :
    (c.turn (.call ticket)).nextTicket = c.nextTicket := by
  have hfind : c.lane.handshake.calls.find? (·.ticket == ticket) = some k := hk
  rw [turn_call hk]
  simp only [moved, nextTicket, Lane.callStep, Lane.onHandshake, Handshake.callStep, hfind]
  cases k.phase <;> rfl

/-- The worker notices the callers at two places only. -/
theorem calls_worker (c : Course) :
    (c.turn .worker).lane.handshake.calls =
      match c.worker with
      | some .announcing => c.lane.handshake.calls.map Call.noticed
      | some .leaving => c.lane.handshake.calls.map Call.noticed
      | _ => c.lane.handshake.calls := by
  obtain ⟨⟨view, ⟨d, worker, calls, next⟩, events⟩, s, requester, record⟩ := c
  cases worker with
  | none => rfl
  | some w =>
    cases w with
    | looking =>
      simp only [turn, moved, Lane.workerStep, Lane.onHandshake, Handshake.workerStep,
        Course.worker]
      split <;> rfl
    | _ => rfl

theorem handshake_worker (c : Course) :
    (c.turn .worker).lane.handshake =
      match c.worker with
      | some (.serving buffer) => c.lane.handshake.served
          ⟨(Ring.serve c.direction.role c.lane.view.geometry buffer
              (c.lane.view.object c.store)).1.isMoved,
            (Ring.serve c.direction.role c.lane.view.geometry buffer
              (c.lane.view.object c.store)).2.1⟩
      | _ => c.lane.handshake.workerStep := by
  obtain ⟨⟨view, ⟨d, worker, calls, next⟩, events⟩, s, requester, record⟩ := c
  cases worker with
  | none => rfl
  | some w =>
    cases w with
    | serving buffer =>
      simp only [turn, moved, Lane.workerStep, Store.updateObject_eq, Course.worker]
      rfl
    | _ => rfl

/-- Where the worker goes depends on the direction alone. -/
theorem workerStep_congr {h h' : Handshake} (hdirection : h.direction = h'.direction)
    (hworker : h.worker = h'.worker) :
    h.workerStep.direction = h'.workerStep.direction ∧
      h.workerStep.worker = h'.workerStep.worker := by
  obtain ⟨d, worker, calls, next⟩ := h
  obtain ⟨d', worker', calls', next'⟩ := h'
  obtain rfl : d = d' := hdirection
  obtain rfl : worker = worker' := hworker
  cases worker with
  | none => exact ⟨rfl, rfl⟩
  | some w =>
    cases w with
    | looking =>
      simp only [Handshake.workerStep]
      rcases d.pickUp with ⟨found, d'⟩
      cases found <;> exact ⟨rfl, rfl⟩
    | _ => exact ⟨rfl, rfl⟩

/-! ## Lanes that are alike -/

/-- **Two lanes that cannot be told apart** by anyone whose calls bear the
tickets from a number on in the one, and from zero on in the other. -/
structure Alike (first : Nat) (c c' : Course) : Prop where
  geometry : c.lane.view.geometry = c'.lane.view.geometry
  object : c.lane.view.handle.object = c'.lane.view.handle.object
  direction : c.direction = c'.direction
  worker : c.worker = c'.worker
  next : c.nextTicket = first + c'.nextTicket
  calls : ∀ k, (c.call? (first + k)).map Call.body = (c'.call? k).map Call.body
  numbered : c.Numbered
  numbered' : c'.Numbered
  /-- The ring has the same bytes. -/
  ring : AgreeOn c.lane.view.handle.object c.store c'.store

namespace Alike

/-- A call of the one is a call of the other, but for its ticket. -/
theorem call_cases (h : Alike first c c') (k : Nat) :
    (c.call? (first + k) = none ∧ c'.call? k = none) ∨
      ∃ call call', c.call? (first + k) = some call ∧ c'.call? k = some call' ∧
        call.body = call'.body := by
  have hcalls := h.calls k
  cases hc : c.call? (first + k) with
  | none =>
    rw [hc] at hcalls
    exact .inl ⟨rfl, Option.map_eq_none_iff.1 hcalls.symm⟩
  | some call =>
    rw [hc] at hcalls
    obtain ⟨call', hc', hbody⟩ := Option.map_eq_some_iff.1 hcalls.symm
    exact .inr ⟨call, call', rfl, hc', hbody.symm⟩

/-- Calls that change alike in both stay the same. -/
theorem calls_map {f f' : Call → Call} (h : Alike first c c') {d d' : Course}
    (hcalls : ∀ ticket, d.call? ticket = (c.call? ticket).map f)
    (hcalls' : ∀ ticket, d'.call? ticket = (c'.call? ticket).map f')
    (hf : ∀ k k' : Call, k.body = k'.body → (f k).body = (f' k').body) (k : Nat) :
    (d.call? (first + k)).map Call.body = (d'.call? k).map Call.body := by
  rw [hcalls, hcalls']
  rcases h.call_cases k with ⟨hc, hc'⟩ | ⟨call, call', hc, hc', hbody⟩
  · rw [hc, hc']; rfl
  · rw [hc, hc']; exact congrArg some (hf call call' hbody)

/-- What changes neither the calls nor the store, and the rest alike. -/
theorem of_same_calls (h : Alike first c c') {d d' : Course}
    (hlane : d.lane.view = c.lane.view) (hlane' : d'.lane.view = c'.lane.view)
    (hdirection : d.direction = d'.direction) (hworker : d.worker = d'.worker)
    (hcalls : d.lane.handshake.calls = c.lane.handshake.calls)
    (hcalls' : d'.lane.handshake.calls = c'.lane.handshake.calls)
    (hnext : d.nextTicket = c.nextTicket) (hnext' : d'.nextTicket = c'.nextTicket)
    (hring : AgreeOn c.lane.view.handle.object d.store d'.store) : Alike first d d' where
  geometry := by rw [hlane, hlane']; exact h.geometry
  object := by rw [hlane, hlane']; exact h.object
  direction := hdirection
  worker := hworker
  next := by rw [hnext, hnext']; exact h.next
  calls k := by
    rw [call?, call?, hcalls, hcalls']
    exact h.calls k
  numbered := h.numbered.of_same hcalls hnext
  numbered' := h.numbered'.of_same hcalls' hnext'
  ring := by rw [hlane]; exact hring

/-- What was noted of the lanes does not matter. -/
theorem bare (h : Alike first c c') :
    Alike first { lane := c.lane, store := c.store } { lane := c'.lane, store := c'.store } :=
  h.of_same_calls rfl rfl h.direction h.worker rfl rfl rfl rfl h.ring

/-- Others change the stores, alike on the ring. -/
theorem others (h : Alike first c c') {s s' : Store}
    (hring : AgreeOn c.lane.view.handle.object s s') :
    Alike first (c.turn (.others s)) (c'.turn (.others s')) :=
  h.of_same_calls rfl rfl h.direction h.worker rfl rfl rfl rfl hring

theorem spawn (h : Alike first c c') : Alike first (c.turn .spawn) (c'.turn .spawn) := by
  rcases c.turn_spawn with ⟨hw, hturn⟩ | ⟨hw, hturn⟩ <;>
    rcases c'.turn_spawn with ⟨hw', hturn'⟩ | ⟨hw', hturn'⟩ <;> rw [hturn, hturn']
  · exact h.of_same_calls rfl rfl h.direction rfl rfl rfl rfl rfl h.ring
  · exact absurd (h.worker.symm.trans hw) hw'
  · exact absurd (h.worker.trans hw') hw
  · exact h

theorem submit (h : Alike first c c') (buffer : Bytes) :
    Alike first (c.turn (.submit buffer)) (c'.turn (.submit buffer)) := by
  have parts : ∀ c : Course,
      (c.turn (.submit buffer)).lane.handshake = (c.lane.handshake.submit buffer).2 :=
    fun c => rfl
  have hdirection : c.lane.handshake.direction = c'.lane.handshake.direction := h.direction
  have hworker : c.lane.handshake.worker = c'.lane.handshake.worker := h.worker
  rcases hsubmit : c'.lane.handshake.direction.submit buffer with ⟨e | _, d⟩
  · refine h.of_same_calls rfl rfl ?_ ?_ ?_ ?_ ?_ ?_ h.ring <;>
      simp only [Course.direction, Lane.direction, Course.worker, Course.nextTicket, parts,
        Handshake.submit, hdirection, hsubmit, hworker]
  · refine h.of_same_calls rfl rfl ?_ ?_ ?_ ?_ ?_ ?_ h.ring <;>
      simp only [Course.direction, Lane.direction, Course.worker, Course.nextTicket, parts,
        Handshake.submit, Handshake.noticeWorker, hdirection, hsubmit, hworker]

theorem collect (h : Alike first c c') : Alike first (c.turn .collect) (c'.turn .collect) := by
  have hdirection : c.direction.takeFinished.2 = c'.direction.takeFinished.2 := by rw [h.direction]
  exact h.of_same_calls rfl rfl hdirection h.worker rfl rfl rfl rfl h.ring

theorem shutDown (h : Alike first c c') : Alike first (c.turn .shutDown) (c'.turn .shutDown) where
  geometry := h.geometry
  object := h.object
  direction := congrArg Direction.signalExit h.direction
  worker := congrArg (Option.map WorkerPhase.noticed) h.worker
  next := h.next
  calls := h.calls_map (call?_of_calls rfl Call.ticket_noticed)
    (call?_of_calls rfl Call.ticket_noticed) fun _ _ => Call.noticed_body
  numbered := h.numbered.turn .shutDown
  numbered' := h.numbered'.turn .shutDown
  ring := h.ring

theorem rouseWorker (h : Alike first c c') :
    Alike first (c.turn .rouseWorker) (c'.turn .rouseWorker) :=
  h.of_same_calls rfl rfl h.direction (congrArg (Option.map WorkerPhase.noticed) h.worker) rfl rfl
    rfl rfl h.ring

theorem begin (h : Alike first c c') (element : Bytes) (policy : RetryPolicy) :
    Alike first (c.turn (.begin element policy)) (c'.turn (.begin element policy)) where
  geometry := h.geometry
  object := h.object
  direction := h.direction
  worker := h.worker
  next := congrArg (· + 1) h.next
  calls k := by
    rw [call?_begin h.numbered, call?_begin h.numbered', h.next]
    by_cases hk : k = c'.nextTicket
    · rw [if_pos hk, if_pos (congrArg (first + ·) hk)]
      rfl
    · rw [if_neg hk, if_neg fun hsame => hk (Nat.add_left_cancel hsame)]
      exact h.calls k
  numbered := h.numbered.turn (.begin element policy)
  numbered' := h.numbered'.turn (.begin element policy)
  ring := h.ring

theorem call (h : Alike first c c') (k : Nat) :
    Alike first (c.turn (.call (first + k))) (c'.turn (.call k)) := by
  rcases h.call_cases k with ⟨hc, hc'⟩ | ⟨called, called', hc, hc', hbody⟩
  · simpa only [turn, hc, hc'] using h
  obtain ⟨hdirection, hnext⟩ := Call.step_body hbody c.direction
  rw [h.direction] at hdirection hnext
  have hphase : called.phase = called'.phase := congrArg Prod.snd hbody
  have hview := view_turn c (.call (first + k))
  have hview' := view_turn c' (.call k)
  have hstore : (c.turn (.call (first + k))).store = c.store := by rw [turn_call hc]; rfl
  have hstore' : (c'.turn (.call k)).store = c'.store := by rw [turn_call hc']; rfl
  exact {
    geometry := by rw [hview, hview']; exact h.geometry
    object := by rw [hview, hview']; exact h.object
    direction := by
      have hmoved : (c.turn (.call (first + k))).direction = (called.step c.direction).1 := by
        rw [turn_call hc]; exact (callStep_of_call? hc).1
      have hmoved' : (c'.turn (.call k)).direction = (called'.step c'.direction).1 := by
        rw [turn_call hc']; exact (callStep_of_call? hc').1
      rw [hmoved, hmoved', h.direction, hdirection]
    worker := by rw [worker_call hc, worker_call hc', hphase, h.worker]
    next := by rw [nextTicket_call hc, nextTicket_call hc', h.next]
    calls := fun other => by
      rw [call?_call hc, call?_call hc', h.direction]
      by_cases hsame : other = k
      · rw [if_pos hsame, if_pos (congrArg (first + ·) hsame)]
        exact congrArg some hnext
      · rw [if_neg hsame, if_neg fun heq => hsame (Nat.add_left_cancel heq)]
        exact h.calls other
    numbered := h.numbered.turn _
    numbered' := h.numbered'.turn _
    ring := by rw [hview, hstore, hstore']; exact h.ring }

theorem rouse (h : Alike first c c') (k : Nat) :
    Alike first (c.turn (.rouse (first + k))) (c'.turn (.rouse k)) where
  geometry := h.geometry
  object := h.object
  direction := h.direction
  worker := h.worker
  next := h.next
  calls other := by
    have hroused : ∀ (d : Course) (ticket k : Nat), (d.turn (.rouse ticket)).call? k =
        (d.call? k).map fun k => if k.ticket = ticket then k.noticed else k := fun d ticket k =>
      call?_of_calls rfl (fun k => by split <;> simp) k
    rw [hroused, hroused]
    rcases h.call_cases other with ⟨hc, hc'⟩ | ⟨called, called', hc, hc', hbody⟩
    · rw [hc, hc']; rfl
    · simp only [hc, hc', Option.map_some, ticket_of_call? hc, ticket_of_call? hc']
      by_cases hsame : other = k
      · rw [if_pos hsame, if_pos (congrArg (first + ·) hsame)]
        exact congrArg some (Call.noticed_body hbody)
      · rw [if_neg hsame, if_neg fun heq => hsame (Nat.add_left_cancel heq)]
        exact congrArg some hbody
  numbered := h.numbered.turn _
  numbered' := h.numbered'.turn _
  ring := h.ring

/-- The two workers come to the same place. -/
theorem moved_worker (h : Alike first c c') :
    (c.turn .worker).direction = (c'.turn .worker).direction ∧
      (c.turn .worker).worker = (c'.turn .worker).worker := by
  have hobject : c.lane.view.object c.store = c'.lane.view.object c'.store := by
    rw [View.object, View.object, ← h.object]
    exact h.ring.object_eq
  have hdirection : c.lane.handshake.direction = c'.lane.handshake.direction := h.direction
  have hworker : c.lane.handshake.worker = c'.lane.handshake.worker := h.worker
  simp only [Course.direction, Lane.direction, Course.worker, handshake_worker]
  rw [hworker]
  split
  · rw [h.geometry, hobject, hdirection]
    exact ⟨hdirection, rfl⟩
  · exact workerStep_congr hdirection hworker

/-- They tell their callers at the same time. -/
theorem calls_moved_worker (h : Alike first c c') (k : Nat) :
    ((c.turn .worker).call? (first + k)).map Call.body =
      ((c'.turn .worker).call? k).map Call.body := by
  have told (hc : (c.turn .worker).lane.handshake.calls = c.lane.handshake.calls.map Call.noticed)
      (hc' : (c'.turn .worker).lane.handshake.calls =
        c'.lane.handshake.calls.map Call.noticed) :=
    h.calls_map (call?_of_calls hc Call.ticket_noticed) (call?_of_calls hc' Call.ticket_noticed)
      (fun _ _ => Call.noticed_body) k
  have hcalls := calls_worker c
  have hcalls' := calls_worker c'
  rw [← h.worker] at hcalls'
  split at hcalls
  · rename_i hw
    rw [hw] at hcalls'
    exact told hcalls hcalls'
  · rename_i hw
    rw [hw] at hcalls'
    exact told hcalls hcalls'
  · rename_i hw hw'
    split at hcalls'
    · exact absurd ‹_› hw
    · exact absurd ‹_› hw'
    · rw [call?, call?, hcalls, hcalls']
      exact h.calls k

/-- They bring the same buffer to the same ring. -/
theorem ring_moved_worker (h : Alike first c c') :
    AgreeOn c.lane.view.handle.object (c.turn .worker).store (c'.turn .worker).store := by
  have hring : AgreeOn c.lane.view.handle.object (c.turn .worker).store
      (c.lane.workerStep c'.store).2 :=
    (Lane.local_workerStep.congr c.lane c.store c'.store h.ring).2.2
  have hsame : (c.lane.workerStep c'.store).2 = (c'.lane.workerStep c'.store).2 := by
    have hworker : c.lane.handshake.worker = c'.lane.handshake.worker := h.worker
    have hrole : c.lane.role = c'.lane.role := congrArg Direction.role h.direction
    simp only [Lane.workerStep, Store.updateObject_eq]
    rw [hworker]
    split
    · rw [hrole, h.geometry, h.object]
    · rfl
    · rfl
  rw [hsame] at hring
  exact hring

theorem worker_turn (h : Alike first c c') :
    Alike first (c.turn .worker) (c'.turn .worker) where
  geometry := by rw [view_turn, view_turn]; exact h.geometry
  object := by rw [view_turn, view_turn]; exact h.object
  direction := h.moved_worker.1
  worker := h.moved_worker.2
  next := by
    have hnext : (c.turn .worker).nextTicket = c.nextTicket := (calls_workerStep c.lane c.store).1
    have hnext' : (c'.turn .worker).nextTicket = c'.nextTicket :=
      (calls_workerStep c'.lane c'.store).1
    rw [hnext, hnext', h.next]
  calls := h.calls_moved_worker
  numbered := h.numbered.turn _
  numbered' := h.numbered'.turn _
  ring := by rw [view_turn]; exact h.ring_moved_worker

/-- **Lanes that are alike stay so**, whichever thread takes its step in
both. -/
theorem ownTurn (h : Alike first c c') (t : Turn) :
    Alike first (c.ownTurn (t.countedFrom first)) (c'.ownTurn t) := by
  cases t with
  | spawn => exact h.spawn
  | submit buffer => exact h.submit buffer
  | collect => exact h.collect
  | shutDown => exact h.shutDown
  | begin element policy => exact h.begin element policy
  | call k => exact h.call k
  | rouse k => exact h.rouse k
  | worker => exact h.worker_turn
  | rouseWorker => exact h.rouseWorker
  | others s => exact h

end Alike

end Course

end TwinRing
