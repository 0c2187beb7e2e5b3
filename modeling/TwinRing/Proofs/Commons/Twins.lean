import TwinRing.Proofs.Commons.Sides
import TwinRing.Proofs.Direction.Alike
import TwinRing.Proofs.Direction.Settled
/-!
# Commons — two channels that cannot be told apart

What happens to a channel is a `Play`: a step of one of its threads, a look
at a flag or at a result, a call on one of its rings, or something that
somebody else does through handles of their own. Two channels are `Twins`
if their lanes are alike on both sides and their stores have the same
objects. Every play is answered alike on both and leaves them twins, so no
list of plays tells them apart (`Twins.playAll`).
-/

namespace TwinRing

open Store (AgreeOn Within)

/-! ## What others do -/

/-- **Something that somebody does through handles of their own.** -/
inductive PeerAct
  | call (v : View) (call : RingCall)
  /-- Write through a handle, if it covers so much. -/
  | write (h : Handle) (offset : Nat) (bytes : Bytes)
  | read (h : Handle) (offset length : Nat)

inductive PeerAnswer
  | answered (answer : RingAnswer)
  | done
  | found (bytes : Bytes)

namespace PeerAct

variable {s t : Store}

def perform : PeerAct → Store → PeerAnswer × Store
  | .call v asked, s => (.answered (v.perform asked s).1, (v.perform asked s).2)
  | .write h offset bytes, s =>
    (.done, if h.covers offset bytes.length then h.write s offset bytes else s)
  | .read h offset length, s => (.found (h.read s offset length), s)

/-- The store after one act after the other. -/
def performAll (acts : List PeerAct) (s : Store) : Store :=
  acts.foldl (fun s act => (act.perform s).2) s

/-- What others do changes bytes only. -/
theorem within_perform (act : PeerAct) (s : Store) : ∃ reach, Within reach s (act.perform s).2 := by
  cases act with
  | call v asked => exact ⟨_, v.within_perform asked s⟩
  | write h offset bytes =>
    simp only [perform]
    split
    · exact ⟨_, h.within_write s offset bytes⟩
    · exact ⟨[], .refl⟩
  | read h offset length => exact ⟨[], .refl⟩

theorem within_performAll (acts : List PeerAct) (s : Store) :
    ∃ reach, Within reach s (performAll acts s) := by
  induction acts generalizing s with
  | nil => exact ⟨[], .refl⟩
  | cons act rest ih =>
    obtain ⟨first, hfirst⟩ := act.within_perform s
    obtain ⟨later, hlater⟩ := ih (act.perform s).2
    exact ⟨first ++ later, (hfirst.mono (List.subset_append_left ..)).trans
      (hlater.mono (List.subset_append_right ..))⟩

/-- **What it comes to follows from the objects.** -/
theorem perform_congr (h : s.objects = t.objects) (act : PeerAct) :
    (act.perform s).1 = (act.perform t).1 ∧
      (act.perform s).2.objects = (act.perform t).2.objects := by
  cases act with
  | call v asked =>
    obtain ⟨hanswer, hobjects⟩ := v.perform_congr h asked
    exact ⟨congrArg PeerAnswer.answered hanswer, hobjects⟩
  | write k offset bytes =>
    refine ⟨rfl, ?_⟩
    simp only [perform]
    split
    · exact congrArg (·.modify k.object fun o => o.write offset bytes) h
    · exact h
  | read k offset length =>
    refine ⟨?_, h⟩
    simp only [perform, Handle.read, Store.object, h]

theorem performAll_congr (acts : List PeerAct) (h : s.objects = t.objects) :
    (performAll acts s).objects = (performAll acts t).objects := by
  induction acts generalizing s t with
  | nil => exact h
  | cons act rest ih => exact ih (act.perform_congr h).2

end PeerAct

/-- A call through one view or through another of the same geometry on the
same object. -/
theorem View.perform_of_same {v w : View} (hgeometry : v.geometry = w.geometry)
    (hobject : v.handle.object = w.handle.object) (call : RingCall) (s : Store) :
    (v.perform call s).1 = (w.perform call s).1 ∧
      (v.perform call s).2.objects = (w.perform call s).2.objects := by
  obtain ⟨⟨name, size, creator, descriptor, object⟩, g⟩ := v
  obtain ⟨⟨name', size', creator', descriptor', object'⟩, g'⟩ := w
  cases hgeometry
  cases hobject
  cases call <;> exact ⟨rfl, rfl⟩

/-! ## Plays -/

/-- **Something that happens to a channel.** Blocking calls go by the order
in which they were started since the plays began. -/
inductive Play
  /-- A thread of a side takes its step. -/
  | turn (role : Role) (t : Turn)
  /-- A blocking push starts, or a blocking get into a buffer. -/
  | sync (role : Role) (buffer : Bytes)
  /-- Somebody asks whether the last request has moved an element. -/
  | isComplete (role : Role)
  /-- Somebody asks what a blocking call has returned. -/
  | result (role : Role) (call : Nat)
  /-- A call on the channel's own ring. -/
  | queue (role : Role) (call : RingCall)
  | peer (act : PeerAct)

/-- **What comes back.** -/
inductive PlayAnswer
  | side (reply : SideReply)
  | ring (answer : RingAnswer)
  | peer (answer : PeerAnswer)

/-- What comes back of a step: of a request whether it was accepted, and of
a collecting what was collected. -/
def Turn.reply (l : Lane) : Turn → SideReply
  | .submit buffer => .accepted (l.handshake.submit buffer).1
  | .collect => .collected l.takeResult.1
  | _ => .done

@[simp] theorem Turn.countedFrom_zero (t : Turn) : t.countedFrom 0 = t := by
  cases t <;> simp [countedFrom]

namespace Channel

/-- The number of the first blocking call that is still to come. -/
def tickets (c : Channel) (role : Role) : Nat := (c.lane role).handshake.nextTicket

/-- **Let something happen**, with blocking calls counted from given numbers
on. -/
def play (c : Channel) (first : Role → Nat) : Play → Store → PlayAnswer × Channel × Store
  | .turn role t, s =>
    (.side (t.reply (c.lane role)), c.turn role (t.countedFrom (first role)) s)
  | .sync .writer element, s => (.side .done, (c.callPush element).2, s)
  | .sync .reader buffer, s => (.side .done, (c.callGet buffer.length).2, s)
  | .isComplete .writer, s => (.side (.complete c.pushIsComplete), c, s)
  | .isComplete .reader, s => (.side (.complete c.getIsComplete), c, s)
  | .result role call, s =>
    (.side (match c.result? role (first role + call) with
      | none => .blocked
      | some result => .returned result), c, s)
  | .queue role call, s =>
    (.ring ((c.lane role).view.perform call s).1, c, ((c.lane role).view.perform call s).2)
  | .peer act, s => (.peer (act.perform s).1, c, (act.perform s).2)

/-- What comes back of one play after the other. -/
def playAll (c : Channel) (first : Role → Nat) : List Play → Store → List PlayAnswer
  | [], _ => []
  | p :: rest, s =>
    let (answer, c, s) := c.play first p s
    answer :: c.playAll first rest s

/-! ## Twins -/

/-- **Two channels on two stores that cannot be told apart** by anyone who
counts the blocking calls of the one from given numbers on, and those of
the other from zero. -/
structure Twins (first : Role → Nat) (c c' : Channel) (s s' : Store) : Prop where
  objects : s.objects = s'.objects
  retry : ∀ role, c.retry role = c'.retry role
  lanes : ∀ role, Course.Alike (first role) { lane := c.lane role, store := s }
    { lane := c'.lane role, store := s' }

theorem retry_congr {c c' : Channel} (h : c.config = c'.config) (role : Role) :
    c.retry role = c'.retry role := by
  unfold retry
  rw [h]

namespace Twins

variable {first : Role → Nat} {c c' d d' : Channel} {s s' t t' : Store} {l l' : Lane} {role : Role}

/-- The stores change, alike in both. -/
theorem stores (h : Twins first c c' s s') (ht : t.objects = t'.objects) :
    Twins first c c' t t' where
  objects := ht
  retry := h.retry
  lanes role := (h.lanes role).others (.of_objects ht)

/-- One side moves, alike in both. -/
theorem withLane (h : Twins first c c' s s') (ht : t.objects = t'.objects)
    (hrole : Course.Alike (first role) { lane := l, store := t } { lane := l', store := t' }) :
    Twins first (c.withLane l role) (c'.withLane l' role) t t' where
  objects := ht
  retry side := by
    rw [retry_congr (config_withLane c l role), retry_congr (config_withLane c' l' role)]
    exact h.retry side
  lanes side := by
    by_cases hside : side = role
    · subst hside
      rw [lane_withLane_self, lane_withLane_self]
      exact hrole
    · rw [lane_withLane_of_ne c l hside, lane_withLane_of_ne c' l' hside]
      exact (h.stores ht).lanes side

/-- **A thread takes its step on both.** -/
theorem turn (h : Twins first c c' s s') (role : Role) (turn : Turn) :
    Twins first (c.turn role (turn.countedFrom (first role)) s).1 (c'.turn role turn s').1
      (c.turn role (turn.countedFrom (first role)) s).2 (c'.turn role turn s').2 := by
  have hnext := ((h.lanes role).ownTurn turn).bare
  obtain ⟨hview, hwithin⟩ := Course.within_ownTurn { lane := c.lane role, store := s }
    (turn.countedFrom (first role))
  obtain ⟨-, hwithin'⟩ := Course.within_ownTurn { lane := c'.lane role, store := s' } turn
  refine h.withLane (Store.objects_ext ?_ fun n => ?_) hnext
  · exact hwithin.count.trans ((congrArg Array.size h.objects).trans hwithin'.count.symm)
  · have hring := hnext.ring
    rw [hview] at hring
    by_cases hn : n = (c.lane role).view.handle.object
    · rw [hn]
      exact hring.object_eq
    · have hn' : n ≠ (c'.lane role).view.handle.object := (h.lanes role).object ▸ hn
      have hsame : s.object n = s'.object n := congrArg (·.getD n {}) h.objects
      exact (hwithin.others n (by simpa using hn)).trans
        (hsame.trans (hwithin'.others n (by simpa using hn')).symm)

/-- A blocking call starts on both. -/
theorem begin (h : Twins first c c' s s') (role : Role) (buffer : Bytes) :
    Twins first (c.withLane ((c.lane role).call buffer (c.retry role)).2 role)
      (c'.withLane ((c'.lane role).call buffer (c'.retry role)).2 role) s s' := by
  rw [← h.retry role]
  exact h.turn role (.begin buffer (c.retry role))

theorem reply (h : Twins first c c' s s') (role : Role) (turn : Turn) :
    turn.reply (c.lane role) = turn.reply (c'.lane role) := by
  have hdirection : (c.lane role).handshake.direction = (c'.lane role).handshake.direction :=
    (h.lanes role).direction
  cases turn with
  | submit buffer =>
    have haccepted : ∀ k : Handshake,
        (k.submit buffer).1 = (k.direction.submit buffer).1 := fun k => by
      rw [Handshake.submit]
      rcases k.direction.submit buffer with ⟨e | _, d⟩ <;> rfl
    simp only [Turn.reply, haccepted, hdirection]
  | collect => simp only [Turn.reply, Lane.takeResult, Handshake.takeResult, hdirection]
  | _ => rfl

theorem result? (h : Twins first c c' s s') (role : Role) (call : Nat) :
    c.result? role (first role + call) = c'.result? role call := by
  have hc : c.result? role (first role + call) =
      (({ lane := c.lane role, store := s } : Course).call? (first role + call)).bind
        Call.result? := rfl
  have hc' : c'.result? role call =
      (({ lane := c'.lane role, store := s' } : Course).call? call).bind Call.result? := rfl
  rw [hc, hc']
  rcases (h.lanes role).call_cases call with ⟨hnone, hnone'⟩ | ⟨k, k', hk, hk', hbody⟩
  · rw [hnone, hnone']
  · rw [hk, hk']
    exact Call.result?_body hbody

/-- **Whatever happens to both is answered alike**, and leaves them twins. -/
theorem play (h : Twins first c c' s s') (p : Play) :
    (c.play first p s).1 = (c'.play (fun _ => 0) p s').1 ∧
      Twins first (c.play first p s).2.1 (c'.play (fun _ => 0) p s').2.1
        (c.play first p s).2.2 (c'.play (fun _ => 0) p s').2.2 := by
  have hdirection : ∀ role, (c.lane role).direction = (c'.lane role).direction := fun role =>
    (h.lanes role).direction
  cases p with
  | turn role turn =>
    simp only [Channel.play, Turn.countedFrom_zero]
    exact ⟨congrArg PlayAnswer.side (h.reply role turn), h.turn role turn⟩
  | sync role buffer =>
    cases role with
    | writer => exact ⟨rfl, h.begin .writer buffer⟩
    | reader => exact ⟨rfl, h.begin .reader (List.replicate buffer.length 0)⟩
  | isComplete role =>
    cases role with
    | writer =>
      refine ⟨?_, h⟩
      exact congrArg (fun d : Direction => PlayAnswer.side (.complete d.complete))
        (hdirection .writer)
    | reader =>
      refine ⟨?_, h⟩
      exact congrArg (fun d : Direction => PlayAnswer.side (.complete d.complete))
        (hdirection .reader)
  | result role call =>
    simp only [Channel.play, h.result? role call, Nat.zero_add]
    exact ⟨trivial, h⟩
  | queue role call =>
    obtain ⟨hanswer, hobjects⟩ := View.perform_of_same (h.lanes role).geometry
      (h.lanes role).object call s
    obtain ⟨hanswer', hobjects'⟩ := (c'.lane role).view.perform_congr h.objects call
    exact ⟨congrArg PlayAnswer.ring (hanswer.trans hanswer'), h.stores (hobjects.trans hobjects')⟩
  | peer act =>
    obtain ⟨hanswer, hobjects⟩ := act.perform_congr h.objects
    exact ⟨congrArg PlayAnswer.peer hanswer, h.stores hobjects⟩

/-- **No list of plays tells twins apart.** -/
theorem playAll (h : Twins first c c' s s') (plays : List Play) :
    c.playAll first plays s = c'.playAll (fun _ => 0) plays s' := by
  induction plays generalizing c c' s s' with
  | nil => rfl
  | cons p rest ih =>
    obtain ⟨hanswer, hnext⟩ := h.play p
    exact congrArg₂ List.cons hanswer (ih hnext)

end Twins

end Channel

end TwinRing
