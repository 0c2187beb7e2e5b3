import TwinRing.Proofs.Direction.Exchange
/-!
# Lanes under way — every accepted request is served once, in order

The sequence of buffers that were accepted is, at every moment and in
every order of steps, the sequence of those that the worker took to the
ring, followed by the one that still waits in the slot, if one does. So no
accepted request is skipped, repeated or overtaken, and none is served
that was not accepted.

The invariant is on slot and hand alone. A request is either waiting in
the slot or in the worker's hand; while the hand is not free the slot says
`servicing`, which is why nothing can be accepted in the meantime, and why
a result is never published over anything else.
-/

namespace TwinRing

/-! ## Two sequences of a record -/

def Deed.accepted? : Deed → Option Bytes
  | .accepted _ buffer => some buffer
  | _ => none

/-- The buffer that the worker took to the ring. -/
def Deed.served? : Deed → Option Bytes
  | .served _ buffer _ _ => some buffer
  | _ => none

/-- The buffer that the worker is about to take to the ring. -/
def Hand.carried : Hand → List Bytes
  | .carrying buffer => [buffer]
  | .free => []
  | .returning _ => []

def Request.waiting : Request → List Bytes
  | .pending buffer => [buffer]
  | .empty => []
  | .servicing => []
  | .finished _ => []

namespace Exchange

variable {x y : Exchange}

/-- **Slot and hand agree with the record.** -/
structure Serviced (x : Exchange) : Prop where
  /-- What was accepted is what was served, what is in hand, and what waits. -/
  sequence : x.record.filterMap Deed.accepted? =
    x.record.filterMap Deed.served? ++ x.hand.carried ++ x.request.waiting
  /-- The slot says so while the worker's hand is not free. -/
  servicing_iff : x.request = .servicing ↔ x.hand ≠ .free

/-- Nothing is accepted or served aside. -/
theorem Aside.accepted?_eq_none {d : Deed} (h : Aside d) :
    d.accepted? = none ∧ d.served? = none := by
  rcases aside_cases h with ⟨ticket, element, rfl⟩ | ⟨ticket, e, rfl⟩ <;> exact ⟨rfl, rfl⟩

/-- A hand that is not free keeps requests out. -/
theorem Serviced.hand_eq_free (h : x.Serviced) (hrequest : x.request ≠ .servicing) :
    x.hand = .free :=
  not_not.1 fun hhand => hrequest (h.servicing_iff.2 hhand)

/-- Where a request is accepted, none is on its way. -/
theorem Serviced.of_free (h : x.Serviced) (free : x.request.isOutstanding = false) :
    x.hand = .free ∧ x.request.waiting = [] := by
  refine ⟨h.hand_eq_free fun hservicing => ?_, ?_⟩
  · rw [hservicing] at free
    exact Bool.noConfusion free
  · cases hrequest : x.request with
    | pending b => rw [hrequest] at free; exact Bool.noConfusion free
    | _ => rfl

/-- **Every step keeps slot and hand in agreement with the record.** -/
theorem Serviced.step (hstep : x.Step y) (h : x.Serviced) : y.Serviced := by
  cases hstep with
  | aside deeds hdeeds =>
    refine ⟨?_, h.servicing_iff⟩
    have haccepted : deeds.filterMap Deed.accepted? = [] :=
      List.filterMap_eq_nil_iff.2 fun d hd => (hdeeds d hd).accepted?_eq_none.1
    have hserved : deeds.filterMap Deed.served? = [] :=
      List.filterMap_eq_nil_iff.2 fun d hd => (hdeeds d hd).accepted?_eq_none.2
    rw [List.filterMap_append, List.filterMap_append, haccepted, hserved, List.append_nil,
      List.append_nil, h.sequence]
  | accept caller buffer free kept =>
    obtain ⟨hhand, hwaiting⟩ := h.of_free free
    have haccepted : (Course.replacedDeeds x.requester x.request).filterMap Deed.accepted? = [] :=
      Course.filterMap_replacedDeeds fun _ => rfl
    have hserved : (Course.replacedDeeds x.requester x.request).filterMap Deed.served? = [] :=
      Course.filterMap_replacedDeeds fun _ => rfl
    have hsequence := h.sequence
    rw [hhand, hwaiting] at hsequence
    refine ⟨?_, ?_⟩
    · simp only [List.filterMap_append, List.filterMap_cons, List.filterMap_nil, Deed.accepted?,
        Deed.served?, haccepted, hserved, hsequence, hhand, Hand.carried, Request.waiting,
        List.append_nil, List.nil_append]
    · simp [hhand]
  | collect caller result hfinished =>
    have hhand : x.hand = .free := h.hand_eq_free (by simp [hfinished])
    have haccepted : (Call.outcome caller result).filterMap Deed.accepted? = [] :=
      Call.filterMap_outcome fun _ => rfl
    have hserved : (Call.outcome caller result).filterMap Deed.served? = [] :=
      Call.filterMap_outcome fun _ => rfl
    have hsequence := h.sequence
    rw [hfinished] at hsequence
    refine ⟨?_, by simp [hhand]⟩
    simp only [List.filterMap_append, List.filterMap_cons, Deed.accepted?, Deed.served?, haccepted,
      hserved, hsequence, Request.waiting, List.append_nil]
  | pickUp buffer hpending free =>
    have hsequence := h.sequence
    rw [hpending, free] at hsequence
    refine ⟨?_, by simp⟩
    simpa only [Hand.carried, Request.waiting, List.append_nil] using hsequence
  | serve buffer attempt after hcarrying same =>
    -- The buffer leaves the hand and becomes the last that was served.
    have hservicing : x.request = .servicing := h.servicing_iff.2 (by simp [hcarrying])
    have hsequence := h.sequence
    rw [hcarrying, hservicing] at hsequence
    refine ⟨?_, by simp [hservicing]⟩
    simp only [List.filterMap_append, List.filterMap_cons, List.filterMap_nil, Deed.accepted?,
      Deed.served?, hsequence, hservicing, Hand.carried, Request.waiting, List.append_nil]
  | publish result hreturning =>
    have hservicing : x.request = .servicing := h.servicing_iff.2 (by simp [hreturning])
    have hsequence := h.sequence
    rw [hreturning, hservicing] at hsequence
    refine ⟨?_, by simp⟩
    simpa only [Hand.carried, Request.waiting, List.append_nil] using hsequence

end Exchange

namespace Course

/-- The buffers of the requests that were accepted, in order. -/
def acceptedBuffers (c : Course) : List Bytes := c.record.filterMap Deed.accepted?

/-- The buffers that the worker has gone to the ring with, in order; the
last of them may be on its way. -/
def startedBuffers (c : Course) : List Bytes :=
  c.record.filterMap Deed.served? ++ (handOf c.worker).carried

theorem serviced_run (view : View) (role : Role) (elementSize : UInt64) (s : Store)
    (turns : List Turn) : ((start view role elementSize s).run turns).exchange.Serviced := by
  refine exchange_run turns ?_ fun _ _ => .step
  rw [exchange_start]
  exact ⟨rfl, by simp⟩

/-- **Every accepted request is served once, in the order of acceptance.**
In every order of steps, of callers and of the worker, what was accepted is
what the worker has started, and at most one request more, which waits in
the slot; and a worker that comes back with a result finds the slot as it
left it. -/
theorem accepted_eq_started_append_waiting (view : View) (role : Role) (elementSize : UInt64)
    (s : Store) (turns : List Turn) :
    let c := (start view role elementSize s).run turns
    c.acceptedBuffers = c.startedBuffers ++ c.direction.request.waiting ∧
      (∀ buffer, c.worker = some (.serving buffer) → c.direction.request = .servicing) ∧
      ∀ result, c.worker = some (.publishing result) → c.direction.request = .servicing := by
  intro c
  have h : c.exchange.Serviced := serviced_run view role elementSize s turns
  refine ⟨h.sequence, fun buffer hw => ?_, fun result hw => ?_⟩
  · have hhand : c.exchange.hand = .carrying buffer := by rw [exchange, hw]; rfl
    exact h.servicing_iff.2 (by simp [hhand])
  · have hhand : c.exchange.hand = .returning result := by rw [exchange, hw]; rfl
    exact h.servicing_iff.2 (by simp [hhand])

end Course

end TwinRing
