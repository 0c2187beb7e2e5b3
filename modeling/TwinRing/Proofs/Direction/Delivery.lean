import TwinRing.Proofs.Direction.Servicing
/-!
# Lanes under way — no element that was read is lost or given twice

An element that a reader's worker has taken out of the ring is in no other
place: it is in the worker's hand, then in the slot, and then with the
caller that collects it. `Delivered` says that the elements taken out of
the ring are, in order, those that callers were handed, followed by the
one that is still on its way.

What keeps it is that the slot of a reader is not free to a new request
while it holds an element. The slot of a writer is, and a writer's result
may be lost; its element is in the ring.
-/

namespace TwinRing

/-! ## Elements on their way -/

/-- The element of a result, if it has crossed the ring. -/
def Transfer.elements (t : Transfer) : List Bytes := if t.transferred then [t.buffer] else []

/-- The element that the worker took out of the ring. -/
def Deed.dequeued : Deed → List Bytes
  | .served _ _ attempt after => Transfer.elements ⟨attempt.isMoved, after⟩
  | _ => []

/-- The element that a caller was handed: one that collected in one go, or
one whose blocking call has returned with it. -/
def Deed.handedOut : Deed → List Bytes
  | .collected none _ result => result.elements
  | .returned _ (.ok element) => [element]
  | _ => []

def Hand.elements : Hand → List Bytes
  | .returning result => result.elements
  | .free => []
  | .carrying _ => []

def Request.elements : Request → List Bytes
  | .finished result => result.elements
  | .empty => []
  | .pending _ => []
  | .servicing => []

theorem Transfer.length_elements_le (t : Transfer) : t.elements.length ≤ 1 := by
  unfold elements
  split
  · exact Nat.le_refl 1
  · exact Nat.zero_le 1

/-- A slot that holds no element has none. -/
theorem Request.elements_eq_nil {r : Request} (h : r.holdsElement = false) : r.elements = [] := by
  cases r with
  | finished result => exact if_neg (by rw [show result.transferred = false from h]; simp)
  | _ => rfl

namespace Exchange

variable {x y : Exchange}

def dequeued (x : Exchange) : List Bytes := x.record.flatMap Deed.dequeued

def handedOut (x : Exchange) : List Bytes := x.record.flatMap Deed.handedOut

/-- The element that is on its way from the ring to a caller. -/
def onItsWay (x : Exchange) : List Bytes := x.hand.elements ++ x.request.elements

/-- Nothing is taken out of the ring or handed out aside. -/
theorem Aside.dequeued_eq_nil {d : Deed} (h : Aside d) : d.dequeued = [] ∧ d.handedOut = [] := by
  rcases aside_cases h with ⟨ticket, element, rfl⟩ | ⟨ticket, e, rfl⟩ <;> exact ⟨rfl, rfl⟩

/-- Neither is anything when a result is replaced. -/
theorem dequeued_replacedDeeds (requester : Option Nat) (request : Request) :
    (Course.replacedDeeds requester request).flatMap Deed.dequeued = [] ∧
      (Course.replacedDeeds requester request).flatMap Deed.handedOut = [] :=
  ⟨List.flatMap_eq_nil_iff.2 (Course.forall_mem_replacedDeeds fun _ => rfl),
    List.flatMap_eq_nil_iff.2 (Course.forall_mem_replacedDeeds fun _ => rfl)⟩

/-- **A caller that collects a result is handed its element**, once, and
nothing is taken out of the ring. -/
theorem handedOut_collected (caller owner : Option Nat) (t : Transfer) :
    (Deed.collected caller owner t :: Call.outcome caller t).flatMap Deed.handedOut = t.elements ∧
      (Deed.collected caller owner t :: Call.outcome caller t).flatMap Deed.dequeued = [] := by
  cases caller with
  | none => exact ⟨List.append_nil _, rfl⟩
  | some ticket =>
    cases h : t.transferred with
    | true =>
      rw [Call.outcome_of_crossed h]
      exact ⟨(if_pos h).symm, rfl⟩
    | false =>
      rw [Call.outcome_of_refused h]
      exact ⟨(if_neg (by simp [h])).symm, rfl⟩

/-! ## The invariant -/

/-- **Elements taken out of the ring are handed out or on their way.** -/
structure Delivered (x : Exchange) : Prop where
  serviced : x.Serviced
  /-- None is lost, none is given twice, none overtakes another. -/
  sequence : x.dequeued = x.handedOut ++ x.onItsWay

/-- At most one element is on its way: there is none in the slot while
there is one in the worker's hand. -/
theorem Serviced.length_onItsWay_le (h : x.Serviced) : x.onItsWay.length ≤ 1 := by
  unfold onItsWay
  by_cases hrequest : x.request = .servicing
  · rw [hrequest, Request.elements, List.append_nil]
    cases x.hand with
    | returning result => exact result.length_elements_le
    | free => exact Nat.zero_le 1
    | carrying buffer => exact Nat.zero_le 1
  · rw [h.hand_eq_free hrequest, Hand.elements, List.nil_append]
    cases x.request with
    | finished result => exact result.length_elements_le
    | empty => exact Nat.zero_le 1
    | pending buffer => exact Nat.zero_le 1
    | servicing => exact Nat.zero_le 1

/-- **Every step of a reader keeps its elements.** -/
theorem Delivered.step (hstep : x.Step y) (hrole : x.role = .reader) (h : x.Delivered) :
    y.Delivered := by
  have hserviced := h.serviced.step hstep
  refine ⟨hserviced, ?_⟩
  have hsequence := h.sequence
  unfold dequeued handedOut onItsWay at hsequence ⊢
  cases hstep with
  | aside deeds hdeeds =>
    have hdequeued : deeds.flatMap Deed.dequeued = [] :=
      List.flatMap_eq_nil_iff.2 fun d hd => (hdeeds d hd).dequeued_eq_nil.1
    have hhanded : deeds.flatMap Deed.handedOut = [] :=
      List.flatMap_eq_nil_iff.2 fun d hd => (hdeeds d hd).dequeued_eq_nil.2
    rw [List.flatMap_append, List.flatMap_append, hdequeued, hhanded, List.append_nil,
      List.append_nil, hsequence]
  | accept caller buffer free kept =>
    -- A reader accepts nothing over an element, so none goes with the slot.
    have hnone : x.request.elements = [] := Request.elements_eq_nil (kept hrole)
    obtain ⟨hdequeued, hhanded⟩ := dequeued_replacedDeeds x.requester x.request
    rw [hnone] at hsequence
    simp only [List.flatMap_append, hdequeued, hhanded, hsequence, List.flatMap_cons,
      List.flatMap_nil, Deed.dequeued, Deed.handedOut, Request.elements, List.append_nil]
  | collect caller result hfinished =>
    have hhand : x.hand = .free := h.serviced.hand_eq_free (by simp [hfinished])
    obtain ⟨hhanded, hdequeued⟩ := handedOut_collected caller x.requester result
    rw [hfinished, hhand] at hsequence
    simp only [List.flatMap_append, hdequeued, hhanded, hsequence, hhand, Hand.elements,
      Request.elements, List.append_nil, List.nil_append]
  | pickUp buffer hpending free =>
    rw [hpending, free] at hsequence
    exact hsequence
  | serve buffer attempt after hcarrying same =>
    have hservicing : x.request = .servicing := h.serviced.servicing_iff.2 (by simp [hcarrying])
    rw [hcarrying, hservicing] at hsequence
    simp only [List.flatMap_append, hsequence, hservicing, List.flatMap_cons, List.flatMap_nil,
      Deed.dequeued, Deed.handedOut, Hand.elements, Request.elements, List.append_nil]
  | publish result hreturning =>
    have hservicing : x.request = .servicing := h.serviced.servicing_iff.2 (by simp [hreturning])
    rw [hreturning, hservicing] at hsequence
    simpa only [Hand.elements, Request.elements, List.append_nil, List.nil_append] using hsequence

/-- **An element in the slot stays there until a caller is handed it.** -/
theorem Delivered.kept (hstep : x.Step y) (hrole : x.role = .reader) (h : x.Delivered)
    {element : Bytes} (hheld : x.request = .finished ⟨true, element⟩) :
    y.request = .finished ⟨true, element⟩ ∧ y.handedOut = x.handedOut ∨
      y.handedOut = x.handedOut ++ [element] := by
  have hhand : x.hand = .free := h.serviced.hand_eq_free (by simp [hheld])
  unfold handedOut
  cases hstep with
  | aside deeds hdeeds =>
    have hhanded : deeds.flatMap Deed.handedOut = [] :=
      List.flatMap_eq_nil_iff.2 fun d hd => (hdeeds d hd).dequeued_eq_nil.2
    exact .inl ⟨hheld, by rw [List.flatMap_append, hhanded, List.append_nil]⟩
  | accept caller buffer free kept =>
    -- This is where a writer's result would go.
    have hnot := kept hrole
    rw [hheld] at hnot
    exact Bool.noConfusion hnot
  | collect caller result hfinished =>
    have hresult : result = ⟨true, element⟩ := by
      rw [hheld] at hfinished
      exact (Request.finished.inj hfinished).symm
    have hhanded := (handedOut_collected caller x.requester result).1
    rw [hresult] at hhanded ⊢
    exact .inr (by rw [List.flatMap_append, hhanded]; rfl)
  | pickUp buffer hpending free =>
    rw [hheld] at hpending
    exact Request.noConfusion hpending
  | serve buffer attempt after hcarrying same =>
    rw [hhand] at hcarrying
    exact Hand.noConfusion hcarrying
  | publish result hreturning =>
    rw [hhand] at hreturning
    exact Hand.noConfusion hreturning

theorem handedOut_grows (hstep : x.Step y) : ∃ more, y.handedOut = x.handedOut ++ more := by
  obtain ⟨deeds, hdeeds⟩ := hstep.record_grows
  exact ⟨_, by rw [handedOut, handedOut, hdeeds, List.flatMap_append]⟩

/-! ## Runs -/

/-- What a reader's course keeps, whatever it starts from. -/
theorem delivered_run {c : Course} (turns : List Turn) (hrole : c.exchange.role = .reader)
    (h : c.exchange.Delivered) :
    (c.run turns).exchange.role = .reader ∧ (c.run turns).exchange.Delivered :=
  Course.exchange_run (P := fun x => x.role = .reader ∧ x.Delivered) turns ⟨hrole, h⟩
    fun _ _ hstep ih => ⟨hstep.role_eq.trans ih.1, ih.2.step hstep ih.1⟩

/-- **An element in the slot waits for its caller**, however long, and
whatever happens in the meantime: it is still there and nothing was handed
out, or it is the next that was. -/
theorem kept_run {c : Course} (turns : List Turn) (hrole : c.exchange.role = .reader)
    (h : c.exchange.Delivered) {element : Bytes}
    (hheld : c.exchange.request = .finished ⟨true, element⟩) :
    ((c.run turns).exchange.request = .finished ⟨true, element⟩ ∧
        (c.run turns).exchange.handedOut = c.exchange.handedOut) ∨
      ∃ rest, (c.run turns).exchange.handedOut = c.exchange.handedOut ++ element :: rest := by
  refine (Course.exchange_run (P := fun x => (x.role = .reader ∧ x.Delivered) ∧
    (x.request = .finished ⟨true, element⟩ ∧ x.handedOut = c.exchange.handedOut ∨
      ∃ rest, x.handedOut = c.exchange.handedOut ++ element :: rest))
    turns ⟨⟨hrole, h⟩, .inl ⟨hheld, rfl⟩⟩ ?_).2
  rintro x y hstep ⟨⟨hreader, hdelivered⟩, hplace⟩
  refine ⟨⟨hstep.role_eq.trans hreader, hdelivered.step hstep hreader⟩, ?_⟩
  rcases hplace with ⟨hthere, hsame⟩ | ⟨rest, hrest⟩
  · rcases hdelivered.kept hstep hreader hthere with ⟨hstill, hnone⟩ | hgiven
    · exact .inl ⟨hstill, hnone.trans hsame⟩
    · exact .inr ⟨[], hgiven.trans (by rw [hsame])⟩
  · obtain ⟨more, hmore⟩ := handedOut_grows hstep
    exact .inr ⟨rest ++ more, by rw [hmore, hrest, List.append_assoc, List.cons_append]⟩

end Exchange

/-- **No element that was read is lost or given twice.** In every order of
steps, the elements that a reader's worker took out of the ring are those
that callers were handed, in order, and at most one more: it is in the
worker's hand, or in the slot. One that is in the slot stays there until it
is the next that a caller is handed. -/
theorem Course.dequeued_eq_handedOut_append (view : View) (elementSize : UInt64) (s : Store)
    (turns : List Turn) :
    let c := (Course.start view .reader elementSize s).run turns
    c.exchange.dequeued = c.exchange.handedOut ++ c.exchange.onItsWay ∧
      c.exchange.onItsWay.length ≤ 1 ∧
      ∀ element, c.direction.request = .finished ⟨true, element⟩ → ∀ later,
        ((c.run later).direction.request = .finished ⟨true, element⟩ ∧
            (c.run later).exchange.handedOut = c.exchange.handedOut) ∨
          ∃ rest, (c.run later).exchange.handedOut = c.exchange.handedOut ++ element :: rest := by
  intro c
  have hstart : (Course.start view .reader elementSize s).exchange.Delivered := by
    rw [Course.exchange_start]
    exact ⟨⟨rfl, by simp⟩, rfl⟩
  obtain ⟨hrole, h⟩ := Exchange.delivered_run turns rfl hstart
  exact ⟨h.sequence, h.serviced.length_onItsWay_le,
    fun element hheld later => Exchange.kept_run later hrole h hheld⟩

end TwinRing
