import TwinRing.Proofs.Commons.Channels
import TwinRing.Proofs.Direction.Floor
import TwinRing.Proofs.Ring.Single
/-!
# Lanes under way — one element on its way across

A program that does one thing at a time has one blocking call on a lane, or
none. Until the worker has moved an element the call's buffer goes round
between call, slot and worker, as often as the ring refuses (`Seeking`);
then the element goes back to the call, which returns with it (`Crossed`).
Nothing else comes of a step of a thread, and the ring changes at the one
step that leads from the first to the second (`Seeks.thread`).
-/

namespace TwinRing

/-! ## Threads -/

/-- Whether a turn is a step that the worker or a blocking call takes, or is
roused for. -/
def Turn.isThread : Turn → Bool
  | .spawn => true
  | .call _ => true
  | .rouse _ => true
  | .worker => true
  | .rouseWorker => true
  | .submit _ => false
  | .collect => false
  | .shutDown => false
  | .begin _ _ => false
  | .others _ => false

/-- **A call does not fail** that has a buffer of the right length, for an
empty slot of a direction that was not shut down. -/
theorem Call.not_failed {d : Direction} {k : Call} (hexit : d.exit = false)
    (hready : ∀ b, k.standing = .owing b →
      b.length = d.elementSize.toNat ∧ d.request = .empty)
    (hrunning : k.standing.isRunning = true) (e : ChannelError) :
    (k.step d).2.standing ≠ .ended (.error e) := by
  obtain ⟨ticket, retrier, phase⟩ := k
  cases phase with
  | submitting b =>
    obtain ⟨hlength, hrequest⟩ := hready b rfl
    have hsubmit : d.submit b =
        (.ok (), { d with request := .pending b, ready := true, complete := false }) := by
      simp [Direction.submit, hlength, hexit, hrequest, Request.isOutstanding,
        Request.holdsElement]
    simp only [step, hsubmit]
    exact Standing.noConfusion
  | checking =>
    rcases d.takeFinished_cases with ⟨t, -, htake⟩ | hnone
    · simp only [step, htake, standing_collected]
      cases htransferred : t.transferred with
      | true => rw [standingAfter_of_crossed htransferred]; exact fun h => by cases h
      | false => rw [standingAfter_of_refused htransferred]; exact Standing.noConfusion
    · simp only [step, hnone, hexit]
      exact Standing.noConfusion
  | pausing b delay => simp only [step, hexit]; exact Standing.noConfusion
  | roused b => simp only [step, hexit]; exact Standing.noConfusion
  | returned r => cases hrunning
  | _ => exact Standing.noConfusion

/-! ## What a step of a thread can do -/

namespace Lane

variable {l : Lane} {s : Store} {t : Turn} {ticket other : Nat} {b e : Bytes} {g : Geometry}
variable {n : Nat} {role : Role}

/-- How the call with a ticket stands. -/
def standing? (l : Lane) (ticket : Nat) : Option Standing :=
  (l.handshake.calls.find? (·.ticket == ticket)).map Call.standing

def hand (l : Lane) : Hand := handOf l.handshake.worker

/-- **A lane as a program has it** on a ring: of the ring's shape, not shut
down, and with every ticket below the next one. -/
structure Steady (g : Geometry) (n : Nat) (role : Role) (l : Lane) : Prop where
  geometry : l.view.geometry = g
  object : l.view.handle.object = n
  role_eq : l.direction.role = role
  elementSize : l.direction.elementSize = g.elementSize
  exit : l.direction.exit = false
  numbered : ({ lane := l, store := {} } : Course).Numbered

/-- **What a step of a thread can do** to slot, hand, calls and ring. -/
inductive Moves (g : Geometry) (n : Nat) (role : Role) (l : Lane) (s : Store) (l' : Lane)
    (s' : Store) : Prop
  /-- Nothing. -/
  | still (request : l'.direction.request = l.direction.request) (hand : l'.hand = l.hand)
      (calls : ∀ k, l'.standing? k = l.standing? k) (store : s' = s)
  /-- A blocking call takes its step. -/
  | called (k : Call) (found : l.standing? k.ticket = some k.standing)
      (request : l'.direction.request = (k.step l.direction).1.request) (hand : l'.hand = l.hand)
      (calls : ∀ other, l'.standing? other =
        if other = k.ticket then some (k.step l.direction).2.standing else l.standing? other)
      (store : s' = s)
  /-- The worker picks a request up. -/
  | pickedUp (b : Bytes) (pending : l.direction.request = .pending b) (free : l.hand = .free)
      (request : l'.direction.request = .servicing) (hand : l'.hand = .carrying b)
      (calls : ∀ k, l'.standing? k = l.standing? k) (store : s' = s)
  /-- The worker hands a result back. -/
  | published (t : Transfer) (returning : l.hand = .returning t)
      (request : l'.direction.request = .finished t) (hand : l'.hand = .free)
      (calls : ∀ k, l'.standing? k = l.standing? k) (store : s' = s)
  /-- The worker is at the ring. -/
  | served (b : Bytes) (attempt : Attempt) (after : Bytes) (ring : Object)
      (carrying : l.hand = .carrying b)
      (serve : Ring.serve role g b (s.object n) = (attempt, after, ring))
      (request : l'.direction.request = l.direction.request)
      (hand : l'.hand = .returning ⟨attempt.isMoved, after⟩)
      (calls : ∀ k, l'.standing? k = l.standing? k) (store : s' = s.setObject n ring)

/-- The lane and the store after a turn. -/
def turned (l : Lane) (t : Turn) (s : Store) : Course :=
  ({ lane := l, store := s } : Course).ownTurn t

theorem moves_call (ticket : Nat) (s : Store) :
    Moves g n role l s (l.turned (.call ticket) s).lane (l.turned (.call ticket) s).store := by
  let c : Course := { lane := l, store := s }
  change Moves g n role l s (c.turn (.call ticket)).lane (c.turn (.call ticket)).store
  cases hk : c.call? ticket with
  | none =>
    have hturn : c.turn (.call ticket) = c := by simp only [Course.turn, hk]
    rw [hturn]
    exact .still rfl rfl (fun _ => rfl) rfl
  | some k =>
    have hticket := Course.ticket_of_call? hk
    have hexchange := Course.exchange_call hk
    refine .called k ?_ (congrArg Exchange.request hexchange) (congrArg Exchange.hand hexchange)
      (fun other => ?_) (by rw [Course.turn_call hk]; rfl)
    · rw [hticket]
      exact congrArg (Option.map Call.standing) hk
    · rw [hticket]
      exact Course.stood_call hk other

theorem moves_worker (hl : l.Steady g n role) (s : Store) :
    Moves g n role l s (l.turned .worker s).lane (l.turned .worker s).store := by
  let c : Course := { lane := l, store := s }
  change Moves g n role l s (c.turn .worker).lane (c.turn .worker).store
  have hcalls : ∀ k, (c.turn .worker).lane.standing? k = l.standing? k := c.standing?_worker
  by_cases hserving : ∃ b, c.worker = some (.serving b)
  · obtain ⟨b, hserving⟩ := hserving
    have hw : l.handshake.worker = some (.serving b) := hserving
    have hexchange := Course.exchange_worker_of_serving hserving
    rcases hserved : Ring.serve role g b (s.object n) with ⟨attempt, after, ring⟩
    have hserve : Ring.serve c.direction.role c.lane.view.geometry b (c.lane.view.object c.store) =
        (attempt, after, ring) := by
      rw [← hserved, ← hl.geometry, ← hl.object, ← hl.role_eq]
      rfl
    rw [hserve] at hexchange
    refine .served b attempt after ring (by rw [hand, hw]; rfl) hserved
      (congrArg Exchange.request hexchange) (congrArg Exchange.hand hexchange) hcalls ?_
    have hring : (Ring.serve l.role l.view.geometry b (s.object n)).2.2 = ring := by
      rw [← hl.object]
      exact congrArg (·.2.2) hserve
    simp only [c, Course.turn, Course.moved, Lane.workerStep, hw, Store.updateObject_eq, hl.object,
      hring]
  · have hnot : ∀ b, c.worker ≠ some (.serving b) := fun b h => hserving ⟨b, h⟩
    have hstore : (c.turn .worker).store = s := (Lane.within_workerStep l s).2 hnot
    rcases c.exchange_worker_cases hnot with
      ⟨b, hpending, hfree, hnext⟩ | ⟨t, hreturning, hnext⟩ | hsame
    · exact .pickedUp b hpending hfree (congrArg Exchange.request hnext)
        (congrArg Exchange.hand hnext) hcalls hstore
    · exact .published t hreturning (congrArg Exchange.request hnext)
        (congrArg Exchange.hand hnext) hcalls hstore
    · exact .still (congrArg Exchange.request hsame) (congrArg Exchange.hand hsame) hcalls hstore

/-- **Every step of a thread is one of these.** -/
theorem moves_thread (hl : l.Steady g n role) (thread : t.isThread = true) (s : Store) :
    Moves g n role l s (l.turned t s).lane (l.turned t s).store := by
  cases t with
  | call ticket => exact moves_call ticket s
  | worker => exact moves_worker hl s
  | spawn =>
    change Moves g n role l s (Course.turn _ .spawn).lane (Course.turn _ .spawn).store
    rcases Course.turn_spawn { lane := l, store := s } with ⟨hnone, hturn⟩ | ⟨-, hturn⟩ <;>
      rw [hturn]
    · refine .still rfl ?_ (fun _ => rfl) rfl
      have hworker : l.handshake.worker = none := hnone
      rw [hand, hand, hworker]
      rfl
    · exact .still rfl rfl (fun _ => rfl) rfl
  | rouse ticket =>
    refine .still rfl rfl (fun k => ?_) rfl
    refine Course.standing?_of_calls (c := { lane := l, store := s }) rfl (fun call => ?_)
      fun call _ => ?_
    · split
      · exact call.ticket_noticed
      · rfl
    · split
      · exact call.standing_noticed
      · rfl
  | rouseWorker => exact .still rfl (handOf_map_noticed _) (fun _ => rfl) rfl
  | submit buffer => cases thread
  | collect => cases thread
  | shutDown => cases thread
  | begin element policy => cases thread
  | others s => cases thread

/-- **A step of a thread leaves the lane as the program has it.** -/
theorem Steady.thread (hl : l.Steady g n role) (thread : t.isThread = true) (s : Store) :
    (l.turned t s).lane.Steady g n role := by
  let c : Course := { lane := l, store := s }
  have hturned : l.turned t s = c.turn t := by cases t <;> first | rfl | cases thread
  have hview := Course.view_turn c t
  have hexit : (c.turn t).direction.exit = false := by
    refine Eq.trans ?_ hl.exit
    cases t with
    | call ticket =>
      cases hk : c.call? ticket with
      | none => simp only [Course.turn, hk]; rfl
      | some k =>
        rw [Course.turn_call hk]
        exact (congrArg Direction.exit (Course.callStep_of_call? hk).1).trans
          (k.exit_step c.direction)
    | worker =>
      change (l.workerStep s).1.direction.exit = _
      unfold Lane.workerStep
      split
      · rfl
      · exact l.handshake.exit_workerStep
      · exact l.handshake.exit_workerStep
    | spawn => rcases c.turn_spawn with ⟨-, hspawn⟩ | ⟨-, hspawn⟩ <;> rw [hspawn] <;> rfl
    | rouse ticket => rfl
    | rouseWorker => rfl
    | submit buffer => cases thread
    | collect => cases thread
    | shutDown => cases thread
    | begin element policy => cases thread
    | others s => cases thread
  rw [hturned]
  exact {
    geometry := by rw [hview]; exact hl.geometry
    object := by rw [hview]; exact hl.object
    role_eq := (Course.step_turn c t).role_eq.trans hl.role_eq
    elementSize := (Course.elementSize_turn c t).trans hl.elementSize
    exit := hexit
    numbered := Course.Numbered.turn (c := c) hl.numbered t }

/-! ## Where the buffer is -/

/-- **Where the buffer of a call can be** while no element has crossed. -/
inductive Seeking (b : Bytes) : Standing → Request → Hand → Prop
  | owing : Seeking b (.owing b) .empty .free
  | pending : Seeking b .waiting (.pending b) .free
  | carrying : Seeking b .waiting .servicing (.carrying b)
  | returning : Seeking b .waiting .servicing (.returning ⟨false, b⟩)
  | finished : Seeking b .waiting (.finished ⟨false, b⟩) .free

/-- **Where the element can be** from then on. -/
inductive Crossed (e : Bytes) : Standing → Request → Hand → Prop
  | returning : Crossed e .waiting .servicing (.returning ⟨true, e⟩)
  | finished : Crossed e .waiting (.finished ⟨true, e⟩) .free
  | returned : Crossed e (.ended (.ok e)) .empty .free

namespace Seeking

variable {b' : Bytes} {own : Standing} {request : Request} {hand : Hand} {t : Transfer}

theorem of_owing (h : Seeking b (.owing b') request hand) :
    b' = b ∧ request = .empty ∧ hand = .free := by
  cases h
  exact ⟨rfl, rfl, rfl⟩

theorem of_pending (h : Seeking b own (.pending b') hand) : b' = b ∧ own = .waiting := by
  cases h
  exact ⟨rfl, rfl⟩

theorem of_carrying (h : Seeking b own request (.carrying b')) :
    b' = b ∧ own = .waiting ∧ request = .servicing := by
  cases h
  exact ⟨rfl, rfl, rfl⟩

theorem of_returning (h : Seeking b own request (.returning t)) :
    t = ⟨false, b⟩ ∧ own = .waiting := by
  cases h
  exact ⟨rfl, rfl⟩

theorem of_finished (h : Seeking b own (.finished t) hand) : t = ⟨false, b⟩ ∧ hand = .free := by
  cases h
  exact ⟨rfl, rfl⟩

theorem isRunning (h : Seeking b own request hand) : own.isRunning = true := by
  cases h <;> rfl

end Seeking

namespace Crossed

variable {own : Standing} {request : Request} {hand : Hand} {t : Transfer}

theorem not_owing (h : Crossed e (.owing b) request hand) : False := by cases h

theorem not_pending (h : Crossed e own (.pending b) hand) : False := by cases h

theorem not_carrying (h : Crossed e own request (.carrying b)) : False := by cases h

theorem of_returning (h : Crossed e own request (.returning t)) :
    t = ⟨true, e⟩ ∧ own = .waiting := by
  cases h
  exact ⟨rfl, rfl⟩

theorem of_finished (h : Crossed e own (.finished t) hand) : t = ⟨true, e⟩ ∧ hand = .free := by
  cases h
  exact ⟨rfl, rfl⟩

theorem of_ended {r : Except ChannelError Bytes} (h : Crossed e (.ended r) request hand) :
    r = .ok e ∧ request = .empty ∧ hand = .free := by
  cases h
  exact ⟨rfl, rfl, rfl⟩

end Crossed

/-- **The call with a ticket is the one under way** on a lane, or the last
to return, and it is so with its buffer. -/
structure Bears (P : Standing → Request → Hand → Prop) (ticket : Nat) (l : Lane) : Prop where
  own : ∃ s, l.standing? ticket = some s ∧ P s l.direction.request l.hand
  others : ∀ other ≠ ticket, ∀ s, l.standing? other = some s → s.isRunning = false

/-- A call seeks to get its buffer across. -/
def Seeks (l : Lane) (ticket : Nat) (b : Bytes) : Prop := l.Bears (Seeking b) ticket

/-- A call has its element across. -/
def Has (l : Lane) (ticket : Nat) (e : Bytes) : Prop := l.Bears (Crossed e) ticket

/-- **No call is under way**, and nothing is on its way. -/
structure Rests (l : Lane) : Prop where
  request : l.direction.request = .empty
  hand : l.hand = .free
  ended : ∀ ticket s, l.standing? ticket = some s → s.isRunning = false

/-- A step that no call takes is one of the worker's, and slot and hand say
what has become of the one call. -/
theorem Bears.of_calls {P Q : Standing → Request → Hand → Prop} {l' : Lane} (h : l.Bears P ticket)
    (calls : ∀ k, l'.standing? k = l.standing? k)
    (hPQ : ∀ s, P s l.direction.request l.hand → Q s l'.direction.request l'.hand) :
    l'.Bears Q ticket := by
  obtain ⟨⟨s, hs, hP⟩, hothers⟩ := h
  exact ⟨⟨s, (calls ticket).trans hs, hPQ s hP⟩, fun other hother s' hs' =>
    hothers other hother s' ((calls other).symm.trans hs')⟩

/-- A call that has returned stays as it is. -/
theorem step_of_ended {k : Call} {d : Direction} (h : k.standing.isRunning = false) :
    k.step d = (d, k) := by
  obtain ⟨ticket, retrier, phase⟩ := k
  cases phase with
  | returned r => rfl
  | _ => cases h

/-- **The step of a call on a lane with one call**, by what it does to that
one. -/
theorem Bears.called {P Q : Standing → Request → Hand → Prop} {l' : Lane} {k : Call}
    (h : l.Bears P ticket) (found : l.standing? k.ticket = some k.standing)
    (request : l'.direction.request = (k.step l.direction).1.request) (hand : l'.hand = l.hand)
    (calls : ∀ other, l'.standing? other =
      if other = k.ticket then some (k.step l.direction).2.standing else l.standing? other)
    (still : ∀ s, P s l.direction.request l.hand → Q s l.direction.request l.hand)
    (own : P k.standing l.direction.request l.hand →
      Q (k.step l.direction).2.standing (k.step l.direction).1.request l.hand) :
    l'.Bears Q ticket := by
  obtain ⟨⟨s, hs, hP⟩, hothers⟩ := h
  by_cases hown : k.ticket = ticket
  · subst hown
    obtain rfl : k.standing = s := Option.some.inj (found.symm.trans hs)
    refine ⟨⟨_, (calls k.ticket).trans (if_pos rfl), ?_⟩, fun other hother s' hs' => ?_⟩
    · rw [request, hand]
      exact own hP
    · rw [calls, if_neg hother] at hs'
      exact hothers other hother s' hs'
  · -- another call has returned, so its step is none
    have hstep := step_of_ended (d := l.direction) (hothers k.ticket hown _ found)
    rw [hstep] at request calls
    refine ⟨⟨s, ?_, ?_⟩, fun other hother s' hs' => ?_⟩
    · rw [calls, if_neg fun heq => hown heq.symm]
      exact hs
    · rw [request, hand]
      exact still s hP
    · rw [calls] at hs'
      by_cases hsame : other = k.ticket
      · rw [if_pos hsame] at hs'
        exact hothers k.ticket hown s' (found.trans hs')
      · rw [if_neg hsame] at hs'
        exact hothers other hother s' hs'

/-- What the step of the one call does while it seeks. -/
theorem Seeking.step {k : Call} {d : Direction} {hand : Hand} (hexit : d.exit = false)
    (hlength : b.length = d.elementSize.toNat) (h : Seeking b k.standing d.request hand) :
    Seeking b (k.step d).2.standing (k.step d).1.request hand := by
  have hready : ∀ b', k.standing = .owing b' → b'.length = d.elementSize.toNat ∧
      d.request = .empty := fun b' howing => by
    rw [howing] at h
    obtain ⟨rfl, hrequest, -⟩ := h.of_owing
    exact ⟨hlength, hrequest⟩
  have hfailed := Call.not_failed hexit hready h.isRunning
  have hmove := k.moves d none
  generalize (k.step d).1 = d' at hmove ⊢
  generalize (k.step d).2.standing = s' at hmove hfailed ⊢
  generalize Course.callDeeds d none k = done at hmove
  cases hmove with
  | accepted b' owes free kept =>
    rw [owes] at h
    obtain ⟨rfl, -, rfl⟩ := h.of_owing
    exact .pending
  | collected t waits hfinished =>
    rw [hfinished] at h
    obtain ⟨rfl, rfl⟩ := h.of_finished
    exact .owing
  | failed e running => exact absurd rfl (hfailed e)
  | still => exact h

/-- What the step of the one call does when its element has crossed. -/
theorem Crossed.step {k : Call} {d : Direction} {hand : Hand} (hexit : d.exit = false)
    (h : Crossed e k.standing d.request hand) :
    Crossed e (k.step d).2.standing (k.step d).1.request hand := by
  have hnot : ∀ b, k.standing ≠ .owing b := fun b howing => by
    rw [howing] at h
    exact h.not_owing
  have hfailed := fun hrunning => Call.not_failed (k := k) hexit
    (fun b howing => absurd howing (hnot b)) hrunning
  have hmove := k.moves d none
  generalize (k.step d).1 = d' at hmove ⊢
  generalize (k.step d).2.standing = s' at hmove hfailed ⊢
  generalize Course.callDeeds d none k = done at hmove
  cases hmove with
  | accepted b owes free kept => exact absurd owes (hnot b)
  | collected t waits hfinished =>
    rw [hfinished] at h
    obtain ⟨rfl, rfl⟩ := h.of_finished
    exact .returned
  | failed error running =>
    exact absurd rfl (hfailed (Standing.isRunning_iff.2 running) error)
  | still => exact h

/-- **A lane that rests does so whatever thread takes a step.** -/
theorem Rests.thread (h : l.Rests) (hl : l.Steady g n role) (thread : t.isThread = true)
    (s : Store) : (l.turned t s).lane.Rests ∧ (l.turned t s).store = s := by
  obtain ⟨hrequest, hhand, hended⟩ := h
  cases moves_thread hl thread s with
  | still request hand calls store =>
    exact ⟨⟨request.trans hrequest, hand.trans hhand, fun k s hs =>
      hended k s ((calls k).symm.trans hs)⟩, store⟩
  | called k found request hand calls store =>
    rw [step_of_ended (hended k.ticket _ found)] at request calls
    refine ⟨⟨request.trans hrequest, hand.trans hhand, fun other s hs => ?_⟩, store⟩
    rw [calls] at hs
    split at hs
    · exact hended k.ticket s (found.trans hs)
    · exact hended other s hs
  | pickedUp b pending free request hand calls store =>
    rw [hrequest] at pending
    cases pending
  | published t returning request hand calls store =>
    rw [hhand] at returning
    cases returning
  | served b attempt after ring carrying serve request hand calls store =>
    rw [hhand] at carrying
    cases carrying

/-- **An element that has crossed stays so**, and the ring is not touched
again. -/
theorem Has.thread (h : l.Has ticket e) (hl : l.Steady g n role) (thread : t.isThread = true)
    (s : Store) : (l.turned t s).lane.Has ticket e ∧ (l.turned t s).store = s := by
  obtain ⟨own, -, hcrossed⟩ := h.own
  cases moves_thread hl thread s with
  | still request hand calls store =>
    exact ⟨h.of_calls calls fun s hs => by rw [request, hand]; exact hs, store⟩
  | called k found request hand calls store =>
    exact ⟨h.called found request hand calls (fun _ hs => hs) (Crossed.step hl.exit), store⟩
  | pickedUp b pending free request hand calls store =>
    rw [pending] at hcrossed
    exact hcrossed.not_pending.elim
  | published t returning request hand calls store =>
    refine ⟨h.of_calls calls fun s hs => ?_, store⟩
    rw [request, hand]
    rw [returning] at hs
    obtain ⟨rfl, rfl⟩ := hs.of_returning
    exact .finished
  | served b attempt after ring carrying serve request hand calls store =>
    rw [carrying] at hcrossed
    exact hcrossed.not_carrying.elim

/-- **A call that seeks goes on to seek, or has its element across** by the
worker's having moved it at the ring. -/
theorem Seeks.thread (h : l.Seeks ticket b) (hl : l.Steady g n role)
    (hlength : b.length = g.elementSize.toNat) (live : n < s.objects.size)
    (thread : t.isThread = true) :
    ((l.turned t s).lane.Seeks ticket b ∧ (l.turned t s).store.object n = s.object n) ∨
      ∃ e, Ring.serve role g b (s.object n) = (.moved, e, (l.turned t s).store.object n) ∧
        (l.turned t s).lane.Has ticket e := by
  obtain ⟨own, -, hseeking⟩ := h.own
  cases moves_thread hl thread s with
  | still request hand calls store =>
    exact .inl ⟨h.of_calls calls fun s hs => by rw [request, hand]; exact hs, by rw [store]⟩
  | called k found request hand calls store =>
    exact .inl ⟨h.called found request hand calls (fun _ hs => hs)
      (Seeking.step hl.exit (hl.elementSize ▸ hlength)), by rw [store]⟩
  | pickedUp b' pending free request hand calls store =>
    refine .inl ⟨h.of_calls calls fun s hs => ?_, by rw [store]⟩
    rw [request, hand]
    rw [pending] at hs
    obtain ⟨rfl, rfl⟩ := hs.of_pending
    exact .carrying
  | published t returning request hand calls store =>
    refine .inl ⟨h.of_calls calls fun s hs => ?_, by rw [store]⟩
    rw [request, hand]
    rw [returning] at hs
    obtain ⟨rfl, rfl⟩ := hs.of_returning
    exact .finished
  | served b' attempt after ring carrying serve request hand calls store =>
    rw [carrying] at hseeking
    obtain ⟨rfl, -, hservicing⟩ := hseeking.of_carrying
    have hring : (l.turned t s).store.object n = ring := by
      rw [store]
      exact Store.object_setObject_self live
    cases hmoved : attempt.isMoved with
    | false =>
      obtain ⟨rfl, rfl⟩ := Ring.serve_of_not_moved serve hmoved
      refine .inl ⟨h.of_calls calls fun s hs => ?_, hring⟩
      rw [carrying] at hs
      rw [request, hand, hmoved, hservicing, hs.of_carrying.2.1]
      exact .returning
    | true =>
      obtain rfl : attempt = .moved := beq_iff_eq.1 hmoved
      refine .inr ⟨after, by rw [hring]; exact serve, h.of_calls calls fun s hs => ?_⟩
      rw [carrying] at hs
      rw [request, hand, hmoved, hservicing, hs.of_carrying.2.1]
      exact .returning

/-! ## What a program sees and does -/

/-- A call that seeks has not returned. -/
theorem Seeks.result? (h : l.Seeks ticket b) : l.handshake.result? ticket = none := by
  obtain ⟨s, hs, hseeking⟩ := h.own
  obtain ⟨k, hk, rfl⟩ := Option.map_eq_some_iff.1 hs
  rw [Handshake.result?, hk]
  refine Call.result?_of_running fun r hr => ?_
  rw [hr] at hseeking
  exact Bool.noConfusion hseeking.isRunning

/-- **A call that has returned has its element**, and nothing is on its way
after it. -/
theorem Has.result? (h : l.Has ticket e) {r : Except ChannelError Bytes}
    (hr : l.handshake.result? ticket = some r) :
    r = .ok e ∧ (l.onHandshake fun h => h.forget ticket).Rests := by
  obtain ⟨s, hs, hcrossed⟩ := h.own
  obtain ⟨k, hk, hstanding⟩ := Option.map_eq_some_iff.1 hs
  rw [Handshake.result?, hk] at hr
  rw [← hstanding, Call.result?_eq_some_iff.1 hr] at hcrossed
  obtain ⟨rfl, hrequest, hhand⟩ := hcrossed.of_ended
  refine ⟨rfl, hrequest, hhand, fun other s' hs' => ?_⟩
  obtain ⟨k', hk', rfl⟩ := Option.map_eq_some_iff.1 hs'
  have hfound : k' ∈ l.handshake.calls.filter fun c => c.ticket ≠ ticket :=
    List.mem_of_find?_eq_some hk'
  have hother : k'.ticket = other := beq_iff_eq.1 (List.find?_some hk' :)
  have hne : other ≠ ticket := by
    rw [← hother]
    simpa using (List.mem_filter.1 hfound).2
  refine h.others other hne _ ?_
  have hsame : (l.handshake.calls.filter fun c => c.ticket ≠ ticket).find? (·.ticket == other) =
      l.handshake.calls.find? (·.ticket == other) := by
    rw [List.find?_filter]
    congr 1
    funext c
    by_cases hc : c.ticket = other
    · simp [hc, hne]
    · simp [hc]
  have hk'' : (l.handshake.calls.filter fun c => c.ticket ≠ ticket).find? (·.ticket == other) =
      some k' := hk'
  rw [standing?, ← hsame, hk'']
  rfl

/-- **A call that starts on a lane that rests** is to get its buffer
across. -/
theorem Rests.call (h : l.Rests) (hl : l.Steady g n role) (b : Bytes) (policy : RetryPolicy) :
    (l.call b policy).2.Seeks (l.call b policy).1 b ∧ (l.call b policy).2.Steady g n role := by
  let c : Course := { lane := l, store := {} }
  have hcalls : ∀ other, (l.call b policy).2.standing? other =
      ((if other = l.handshake.nextTicket then
        some ⟨l.handshake.nextTicket, ⟨policy, 0⟩, .submitting b⟩
      else c.call? other).map Call.standing) := fun other =>
    congrArg (Option.map Call.standing) (Course.call?_begin (c := c) hl.numbered b policy other)
  refine ⟨⟨⟨.owing b, ?_, ?_⟩, fun other hother s hs => ?_⟩, ?_⟩
  · exact (hcalls _).trans (congrArg _ (if_pos rfl))
  · have hrequest : (l.call b policy).2.direction.request = .empty := h.request
    have hhand : (l.call b policy).2.hand = .free := h.hand
    rw [hrequest, hhand]
    exact .owing
  · have hne : ¬ other = l.handshake.nextTicket := hother
    rw [hcalls, if_neg hne] at hs
    exact h.ended other s hs
  · exact {
      geometry := hl.geometry
      object := hl.object
      role_eq := hl.role_eq
      elementSize := hl.elementSize
      exit := hl.exit
      numbered := Course.Numbered.turn (c := c) hl.numbered (.begin b policy) }

theorem Steady.forget (hl : l.Steady g n role) (ticket : Nat) :
    (l.onHandshake fun h => h.forget ticket).Steady g n role where
  geometry := hl.geometry
  object := hl.object
  role_eq := hl.role_eq
  elementSize := hl.elementSize
  exit := hl.exit
  numbered k hk := hl.numbered k (List.mem_filter.1 hk).1

end Lane

end TwinRing
