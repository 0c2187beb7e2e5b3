import TwinRing.Proofs.Commons.Basic
/-!
# Lanes — acts that stay on their own ring

An act on a lane reads and writes one object, that of the lane's ring.
`Local` says so in both directions: the rest of the store is as it was, and
what the act comes to is the same in every store that has the same object
there. Both pass from steps to sequences of acts, so it is enough to look
at single steps. Acts on two lanes with two objects then neither see nor
disturb each other.
-/

namespace TwinRing

open Store (Within)

namespace Store

variable {s s' t u : Store} {n m : Nat}

/-- **Two stores agree on an object.** -/
structure AgreeOn (n : Nat) (s t : Store) : Prop where
  object_eq : s.object n = t.object n
  /-- It is there in both, or in neither. -/
  live_iff : n < s.objects.size ↔ n < t.objects.size

namespace AgreeOn

theorem refl : AgreeOn n s s := ⟨rfl, Iff.rfl⟩

theorem symm (h : AgreeOn n s t) : AgreeOn n t s := ⟨h.object_eq.symm, h.live_iff.symm⟩

theorem trans (h : AgreeOn n s t) (h' : AgreeOn n t u) : AgreeOn n s u :=
  ⟨h.object_eq.trans h'.object_eq, h.live_iff.trans h'.live_iff⟩

theorem of_within {reach : List Nat} (h : Within reach s s') (hn : n ∉ reach) : AgreeOn n s s' :=
  ⟨(h.others n hn).symm, by rw [h.count]⟩

theorem of_objects (h : s.objects = t.objects) : AgreeOn n s t :=
  ⟨by rw [object, object, h], by rw [h]⟩

/-- What is put in place of the object is in its place in both. -/
theorem setObject (h : AgreeOn n s t) (o : Object) :
    AgreeOn n (s.setObject n o) (t.setObject n o) := by
  refine ⟨?_, by rw [size_setObject, size_setObject]; exact h.live_iff⟩
  by_cases hlive : n < s.objects.size
  · rw [object_setObject_self hlive, object_setObject_self (h.live_iff.1 hlive)]
  · have hlive' : ¬ n < t.objects.size := fun ht => hlive (h.live_iff.2 ht)
    rw [object_of_le, object_of_le]
    · rw [size_setObject]; exact Nat.not_lt.1 hlive'
    · rw [size_setObject]; exact Nat.not_lt.1 hlive

end AgreeOn

/-- The store with nothing reported. -/
def silent (s : Store) : Store := { s with journal := {} }

/-- What does not show in the objects is told by what is left of a store
without its objects and its journal. -/
def Framed (s s' : Store) : Prop :=
  ∃ objects journal, s' = { s with objects, journal }

theorem Framed.refl : Framed s s := ⟨_, _, rfl⟩

theorem Framed.trans (h : Framed s t) (h' : Framed t u) : Framed s u := by
  obtain ⟨objects, journal, rfl⟩ := h
  obtain ⟨objects', journal', rfl⟩ := h'
  exact ⟨objects', journal', rfl⟩

/-- Stores with the same objects under every number have the same objects. -/
theorem objects_ext (hsize : s.objects.size = t.objects.size)
    (hobjects : ∀ n, s.object n = t.object n) : s.objects = t.objects := by
  refine Array.ext hsize fun n hn hn' => ?_
  have hobject := hobjects n
  rwa [object, object, Array.getD_eq_getD_getElem?, Array.getD_eq_getD_getElem?,
    Array.getElem?_eq_getElem hn, Array.getElem?_eq_getElem hn'] at hobject

/-- Two changes of objects alone that end with the same objects end alike,
their reports apart. -/
theorem Framed.silent_eq (h : Framed s t) (h' : Framed s u)
    (hsize : u.objects.size = t.objects.size)
    (hobjects : ∀ n, u.object n = t.object n) : u.silent = t.silent := by
  have hsame : u.objects = t.objects := objects_ext hsize hobjects
  obtain ⟨objects, journal, rfl⟩ := h
  obtain ⟨objects', journal', rfl⟩ := h'
  obtain rfl : objects' = objects := hsame
  rfl

end Store

namespace Lane

open Store (AgreeOn Framed)

/-- **An act that stays on the ring of its lane.** -/
structure Local {α : Type} (act : Lane → Store → α × Lane × Store) : Prop where
  view : ∀ l s, (act l s).2.1.view = l.view
  within : ∀ l s, Within [l.view.handle.object] s (act l s).2.2
  framed : ∀ l s, Framed s (act l s).2.2
  /-- Answer, lane and object follow from the lane and the object. -/
  congr : ∀ l s t, AgreeOn l.view.handle.object s t →
    (act l s).1 = (act l t).1 ∧ (act l s).2.1 = (act l t).2.1 ∧
      AgreeOn l.view.handle.object (act l s).2.2 (act l t).2.2

variable {α β : Type} {l : Lane} {s t : Store}

/-- What does not look at the store and leaves the ring alone. -/
theorem local_of_lane {f : Lane → α × Lane} (h : ∀ l, (f l).2.view = l.view) :
    Local fun l s => ((f l).1, (f l).2, s) where
  view l _ := h l
  within _ _ := .refl
  framed _ _ := .refl
  congr _ _ _ hst := ⟨rfl, rfl, hst⟩

/-- One act after the other. -/
theorem Local.bind {f : Lane → Store → α × Lane × Store} {g : α → Lane → Store → β × Lane × Store}
    (hf : Local f) (hg : ∀ a, Local (g a)) :
    Local fun l s => g (f l s).1 (f l s).2.1 (f l s).2.2 where
  view l s := ((hg _).view _ _).trans (hf.view l s)
  within l s := by
    have hafter := (hg (f l s).1).within (f l s).2.1 (f l s).2.2
    rw [hf.view l s] at hafter
    exact (hf.within l s).trans hafter
  framed l s := (hf.framed l s).trans ((hg _).framed _ _)
  congr l s t hst := by
    obtain ⟨hanswer, hlane, hagree⟩ := hf.congr l s t hst
    have hafter := (hg (f l s).1).congr (f l s).2.1 (f l s).2.2 (f l t).2.2
      (by rw [hf.view l s]; exact hagree)
    rw [hf.view l s] at hafter
    rw [← hanswer, ← hlane]
    exact hafter

/-! ## Steps -/

theorem local_workerStep : Local fun l s => ((), l.workerStep s) where
  view l s := view_workerStep l s
  within l s := (within_workerStep l s).1
  framed l s := by
    simp only [workerStep, Store.updateObject_eq]
    split
    · exact ⟨_, _, rfl⟩
    · exact .refl
    · exact .refl
  congr l s t hst := by
    refine ⟨rfl, ?_⟩
    simp only [workerStep, Store.updateObject_eq]
    split
    · rw [hst.object_eq]
      exact ⟨rfl, hst.setObject _⟩
    · exact ⟨rfl, hst⟩
    · exact ⟨rfl, hst⟩

/-- **Which thread steps next does not depend on the store.** -/
theorem stepAny_shape (l : Lane) :
    (∀ s, l.stepAny s = none) ∨ (∀ s, l.stepAny s = some (l.workerStep s)) ∨
      ∃ ticket, ∀ s, l.stepAny s = some (l.callStep ticket, s) := by
  have called : (∀ s, stepAny.stepCall l s = none) ∨
      ∃ ticket, ∀ s, stepAny.stepCall l s = some (l.callStep ticket, s) := by
    cases hfind : l.handshake.calls.find? fun c => !c.isQuiet with
    | none => exact .inl fun s => by rw [stepAny.stepCall, hfind]; rfl
    | some k => exact .inr ⟨k.ticket, fun s => by rw [stepAny.stepCall, hfind]; rfl⟩
  have calls (hstep : ∀ s, l.stepAny s = stepAny.stepCall l s) :
      (∀ s, l.stepAny s = none) ∨ (∀ s, l.stepAny s = some (l.workerStep s)) ∨
        ∃ ticket, ∀ s, l.stepAny s = some (l.callStep ticket, s) := by
    rcases called with h | ⟨ticket, h⟩
    · exact .inl fun s => (hstep s).trans (h s)
    · exact .inr (.inr ⟨ticket, fun s => (hstep s).trans (h s)⟩)
  cases hworker : l.handshake.worker with
  | none => exact calls fun s => by simp only [stepAny, hworker]
  | some phase =>
    cases hquiet : phase.isQuiet with
    | true => exact calls fun s => by simp only [stepAny, hworker, hquiet, if_true]
    | false => exact .inr (.inl fun s => by simp only [stepAny, hworker, hquiet]; rfl)

theorem local_steps (n : Nat) : Local fun l s => ((), steps n l s) := by
  induction n with
  | zero => exact local_of_lane (f := fun l => ((), l)) fun _ => rfl
  | succ n ih =>
    -- the first step is of the same thread in both stores
    have first : ∀ l, (∀ s, steps (n + 1) l s = (l, s)) ∨
        (∀ s, steps (n + 1) l s = steps n (l.workerStep s).1 (l.workerStep s).2) ∨
        ∃ ticket, ∀ s, steps (n + 1) l s = steps n (l.callStep ticket) s := fun l => by
      rcases l.stepAny_shape with h | h | ⟨ticket, h⟩
      · exact .inl fun s => by rw [steps, h]
      · exact .inr (.inl fun s => by rw [steps, h])
      · exact .inr (.inr ⟨ticket, fun s => by rw [steps, h]⟩)
    have worker := local_workerStep.bind fun _ => ih
    refine ⟨fun l s => (within_steps (n + 1) l s).1, fun l s => (within_steps (n + 1) l s).2,
      fun l s => ?_, fun l s t hst => ?_⟩
    · dsimp only
      rcases first l with h | h | ⟨ticket, h⟩
      · rw [h]; exact .refl
      · rw [h]; exact worker.framed l s
      · rw [h]; exact ih.framed (l.callStep ticket) s
    · dsimp only
      rcases first l with h | h | ⟨ticket, h⟩
      · rw [h, h]; exact ⟨rfl, rfl, hst⟩
      · rw [h, h]; exact worker.congr l s t hst
      · rw [h, h]; exact ih.congr (l.callStep ticket) s t hst

theorem local_settle : Local fun l s => ((), l.settle s) where
  view l s := (local_steps l.stepBound).view l s
  within l s := (local_steps l.stepBound).within l s
  framed l s := (local_steps l.stepBound).framed l s
  congr l s t hst := (local_steps l.stepBound).congr l s t hst

/-! ## What callers do -/

theorem local_submit (buffer : Bytes) : Local fun l s => l.submit buffer s :=
  (local_of_lane (f := fun l => ((l.handshake.submit buffer).1,
    { l with handshake := (l.handshake.submit buffer).2 })) fun _ => rfl).bind
      fun result => local_settle.bind fun _ =>
        local_of_lane (f := fun l => (result, l)) fun _ => rfl

theorem local_begin (buffer : Bytes) (policy : RetryPolicy) :
    Local fun l s => l.begin buffer policy s :=
  (local_of_lane (f := fun l => l.call buffer policy) fun _ => rfl).bind
    fun ticket => local_settle.bind fun _ => local_of_lane (f := fun l => (ticket, l)) fun _ => rfl

theorem local_clear : Local fun l s => ((), l, l.view.clear s) where
  view _ _ := rfl
  within l s := l.view.within_perform .clear s
  framed _ _ := ⟨_, _, rfl⟩
  congr l s t hst := by
    refine ⟨rfl, rfl, ?_⟩
    have hobject : l.view.object s = l.view.object t := hst.object_eq
    have hset := hst.setObject (Ring.clear (l.view.object t))
    have hreported : ∀ (s : Store) (e : Event), AgreeOn l.view.handle.object s (s.report e) :=
      fun s e => .of_objects rfl
    simp only [View.clear, hobject]
    exact (((hreported _ _).symm).trans hset).trans (hreported _ _)

/-- **A turn of a thread stays on the ring of its lane.** -/
theorem local_ownTurn (turn : Turn) :
    Local fun l s => ((), (({ lane := l, store := s } : Course).ownTurn turn).lane,
      (({ lane := l, store := s } : Course).ownTurn turn).store) := by
  have quiet : ∀ f : Lane → Lane, (∀ l, (f l).view = l.view) →
      Local fun l s => ((), f l, s) := fun f hf => local_of_lane (f := fun l => ((), f l)) hf
  cases turn with
  | worker => exact local_workerStep
  | others s => exact quiet id fun _ => rfl
  | submit buffer => exact quiet (fun l => l.onHandshake fun h => (h.submit buffer).2) fun _ => rfl
  | collect => exact quiet (fun l => l.takeResult.2) fun _ => rfl
  | shutDown => exact quiet (fun l => l.onHandshake Handshake.signalExit) fun _ => rfl
  | begin element policy => exact quiet (fun l => (l.call element policy).2) fun _ => rfl
  | rouse ticket =>
    exact quiet (fun l => l.onHandshake fun h =>
      { h with calls := h.calls.map fun k => if k.ticket = ticket then k.noticed else k })
        fun _ => rfl
  | rouseWorker => exact quiet (fun l => l.onHandshake Handshake.noticeWorker) fun _ => rfl
  | spawn =>
    have hspawn : ∀ l : Lane, ∃ l' : Lane, l'.view = l.view ∧
        ∀ s, ({ lane := l, store := s } : Course).turn .spawn = { lane := l', store := s } :=
      fun l => by
        cases hw : l.handshake.worker with
        | none => exact ⟨l.spawn, rfl, fun s => by simp only [Course.turn, Course.worker, hw]⟩
        | some w => exact ⟨l, rfl, fun s => by simp only [Course.turn, Course.worker, hw]⟩
    choose f hview hf using hspawn
    have hsame : ∀ l s, ({ lane := l, store := s } : Course).ownTurn .spawn =
        { lane := f l, store := s } := fun l s => hf l s
    simp only [hsame]
    exact quiet f hview
  | call ticket =>
    have hcall : ∀ l s, (({ lane := l, store := s } : Course).ownTurn (.call ticket)).lane =
          l.callStep ticket ∧
        (({ lane := l, store := s } : Course).ownTurn (.call ticket)).store = s := fun l s => by
      simp only [Course.ownTurn, Course.turn, Course.call?]
      cases hfind : l.handshake.calls.find? (·.ticket == ticket) with
      | none =>
        refine ⟨?_, rfl⟩
        simp only [callStep, onHandshake, Handshake.callStep, hfind]
      | some k => exact ⟨rfl, rfl⟩
    simp only [(hcall _ _).1, (hcall _ _).2]
    exact quiet (fun l => l.callStep ticket) fun _ => rfl

end Lane

end TwinRing
