import TwinRing.Proofs.Direction.Account
/-!
# Lanes under way — what becomes of a call's results

The worker serves each request once and brings one result back. The call
whose request it was may collect it; another caller may, or the next
request may replace it. So of the results that the worker brought back for
one call, those that it kept and those that it lost make up all but the
one that is still on its way: `balanced_run`. Results can be counted all
together, or only those of some kind, such as the successes. And of the
requests that the call issued all were served, but for one that is still
on its way: `answered_run`.
-/

namespace TwinRing

/-! ## Four kinds of deed -/

section Kinds

variable (ticket : Nat) (good : Transfer → Bool)

/-- The worker came to such a result for the call. -/
def Deed.servesFor : Deed → Bool
  | .served owner _ attempt after => owner == some ticket && good ⟨attempt.isMoved, after⟩
  | _ => false

/-- The call collected such a result, and its own. -/
def Deed.keeps : Deed → Bool
  | .collected caller owner t => caller == some ticket && owner == some ticket && good t
  | _ => false

/-- Such a result of the call went to another caller, or was replaced. -/
def Deed.loses : Deed → Bool
  | .collected caller owner t => caller != some ticket && owner == some ticket && good t
  | .replaced owner t => owner == some ticket && good t
  | _ => false

/-- The call collected such a result, and another's. -/
def Deed.gains : Deed → Bool
  | .collected caller owner t => caller == some ticket && owner != some ticket && good t
  | _ => false

end Kinds

def Deed.issues (ticket : Nat) : Deed → Bool
  | .accepted caller _ => caller == some ticket
  | _ => false

/-! ## The two laws -/

def Hand.results : Hand → List Transfer
  | .returning result => [result]
  | .free => []
  | .carrying _ => []

def Request.results : Request → List Transfer
  | .finished result => [result]
  | .empty => []
  | .pending _ => []
  | .servicing => []

namespace Exchange

variable {x y : Exchange} {ticket : Nat} {good : Transfer → Bool}

/-- The call's results of a kind that are on their way. -/
def ownResults (x : Exchange) (ticket : Nat) (good : Transfer → Bool) : Nat :=
  if x.requester = some ticket then (x.hand.results ++ x.request.results).countP good else 0

def ownRequests (x : Exchange) (ticket : Nat) : Nat :=
  if x.requester = some ticket then (x.hand.carried ++ x.request.waiting).length else 0

/-- **Results are kept, lost, or on their way.** -/
def Balanced (x : Exchange) (ticket : Nat) (good : Transfer → Bool) : Prop :=
  x.record.countP (Deed.servesFor ticket good) =
    x.record.countP (Deed.keeps ticket good) + x.record.countP (Deed.loses ticket good) +
      x.ownResults ticket good

/-- **Requests are served or on their way.** -/
def Answered (x : Exchange) (ticket : Nat) : Prop :=
  x.record.countP (Deed.issues ticket) =
    x.record.countP (Deed.servesFor ticket fun _ => true) + x.ownRequests ticket

/-! ### What is counted of what is done -/

section Counts

variable (ticket : Nat) (good : Transfer → Bool)

theorem countP_eq_zero_of_aside {deeds : List Deed} (h : ∀ d ∈ deeds, Aside d) :
    deeds.countP (Deed.servesFor ticket good) = 0 ∧ deeds.countP (Deed.keeps ticket good) = 0 ∧
      deeds.countP (Deed.loses ticket good) = 0 ∧ deeds.countP (Deed.issues ticket) = 0 := by
  have hnone : ∀ d ∈ deeds, d.servesFor ticket good = false ∧ d.keeps ticket good = false ∧
      d.loses ticket good = false ∧ d.issues ticket = false := by
    intro d hd
    rcases aside_cases (h d hd) with ⟨other, element, rfl⟩ | ⟨other, e, rfl⟩ <;>
      exact ⟨rfl, rfl, rfl, rfl⟩
  refine ⟨?_, ?_, ?_, ?_⟩ <;> refine List.countP_eq_zero.2 fun d hd => ?_
  · simp [(hnone d hd).1]
  · simp [(hnone d hd).2.1]
  · simp [(hnone d hd).2.2.1]
  · simp [(hnone d hd).2.2.2]

/-- A result that is replaced is lost to its owner. -/
theorem countP_replacedDeeds (requester : Option Nat) (request : Request) :
    (Course.replacedDeeds requester request).countP (Deed.servesFor ticket good) = 0 ∧
      (Course.replacedDeeds requester request).countP (Deed.keeps ticket good) = 0 ∧
      (Course.replacedDeeds requester request).countP (Deed.issues ticket) = 0 ∧
      (Course.replacedDeeds requester request).countP (Deed.loses ticket good) =
        if requester = some ticket then request.results.countP good else 0 := by
  cases request with
  | finished t =>
    refine ⟨rfl, rfl, rfl, ?_⟩
    by_cases hown : requester = some ticket
    · rw [if_pos hown]
      simp [Course.replacedDeeds, Deed.loses, Request.results, hown, List.countP_cons]
    · rw [if_neg hown]
      simp [Course.replacedDeeds, Deed.loses, hown]
  | empty => exact ⟨rfl, rfl, rfl, by split <;> rfl⟩
  | pending buffer => exact ⟨rfl, rfl, rfl, by split <;> rfl⟩
  | servicing => exact ⟨rfl, rfl, rfl, by split <;> rfl⟩

theorem countP_outcome (caller : Option Nat) (t : Transfer) :
    (Call.outcome caller t).countP (Deed.servesFor ticket good) = 0 ∧
      (Call.outcome caller t).countP (Deed.keeps ticket good) = 0 ∧
      (Call.outcome caller t).countP (Deed.loses ticket good) = 0 ∧
      (Call.outcome caller t).countP (Deed.issues ticket) = 0 := by
  refine ⟨?_, ?_, ?_, ?_⟩ <;>
    exact List.countP_eq_zero.2 (Call.forall_mem_outcome fun _ => Bool.false_ne_true)

/-- A result that is collected is kept by its owner or lost to it. -/
theorem countP_collected (caller owner : Option Nat) (t : Transfer) :
    [Deed.collected caller owner t].countP (Deed.keeps ticket good) +
        [Deed.collected caller owner t].countP (Deed.loses ticket good) =
      if owner = some ticket then [t].countP good else 0 := by
  by_cases hown : owner = some ticket
  · by_cases hcaller : caller = some ticket
    · simp [Deed.keeps, Deed.loses, hown, hcaller, List.countP_cons]
    · simp [Deed.keeps, Deed.loses, hown, hcaller, List.countP_cons]
  · simp [Deed.keeps, Deed.loses, hown]

theorem countP_served (owner : Option Nat) (buffer : Bytes) (attempt : Attempt) (after : Bytes) :
    [Deed.served owner buffer attempt after].countP (Deed.servesFor ticket good) =
      if owner = some ticket then [Transfer.mk attempt.isMoved after].countP good else 0 := by
  by_cases hown : owner = some ticket
  · simp [Deed.servesFor, hown, List.countP_cons]
  · simp [Deed.servesFor, hown]

end Counts

/-! ### Every step keeps the laws -/

theorem Balanced.step (hstep : x.Step y) (hserviced : x.Serviced) (h : x.Balanced ticket good) :
    y.Balanced ticket good := by
  unfold Balanced ownResults at h ⊢
  cases hstep with
  | aside deeds hdeeds =>
    obtain ⟨hserves, hkeeps, hloses, -⟩ := countP_eq_zero_of_aside ticket good hdeeds
    simp only [List.countP_append, hserves, hkeeps, hloses, Nat.add_zero] at h ⊢
    exact h
  | accept caller buffer free kept =>
    -- The result in the slot, if there is one, is lost to its owner.
    have hhand := (hserviced.of_free free).1
    obtain ⟨hserves, hkeeps, -, hloses⟩ :=
      countP_replacedDeeds ticket good x.requester x.request
    simp only [List.countP_append, hserves, hkeeps, hloses, hhand, Hand.results, Request.results,
      List.countP_nil, List.countP_singleton, Deed.servesFor, Deed.keeps, Deed.loses,
      Bool.false_eq_true, if_false, ite_self, Nat.add_zero, Nat.zero_add] at h ⊢
    omega
  | collect caller result hfinished =>
    have hhand : x.hand = .free := hserviced.hand_eq_free (by simp [hfinished])
    -- The slot is emptied, so the result must turn up as kept or as lost.
    obtain ⟨hserves, hkeeps, hloses, -⟩ := countP_outcome ticket good caller result
    have hplace := countP_collected ticket good caller x.requester result
    rw [List.append_cons]
    simp only [List.countP_append, hserves, hkeeps, hloses, hhand, hfinished, Hand.results,
      Request.results, List.countP_nil, List.countP_singleton, Deed.servesFor,
      Bool.false_eq_true, if_false, ite_self, Nat.add_zero, Nat.zero_add] at h hplace ⊢
    omega
  | pickUp buffer hpending free =>
    rw [hpending, free] at h
    exact h
  | serve buffer attempt after hcarrying same =>
    have hservicing : x.request = .servicing := hserviced.servicing_iff.2 (by simp [hcarrying])
    have hserves := countP_served ticket good x.requester buffer attempt after
    simp only [List.countP_append, hserves, hcarrying, hservicing, Hand.results, Request.results,
      List.countP_nil, ite_self, Nat.add_zero] at h ⊢
    rw [h]
    simp [Deed.keeps, Deed.loses]
  | publish result hreturning =>
    have hservicing : x.request = .servicing := hserviced.servicing_iff.2 (by simp [hreturning])
    rw [hreturning, hservicing] at h
    exact h

theorem Answered.step (hstep : x.Step y) (hserviced : x.Serviced) (h : x.Answered ticket) :
    y.Answered ticket := by
  unfold Answered ownRequests at h ⊢
  cases hstep with
  | aside deeds hdeeds =>
    obtain ⟨hserves, -, -, hissues⟩ := countP_eq_zero_of_aside ticket (fun _ => true) hdeeds
    simp only [List.countP_append, hserves, hissues, Nat.add_zero] at h ⊢
    exact h
  | accept caller buffer free kept =>
    obtain ⟨hhand, hwaiting⟩ := hserviced.of_free free
    obtain ⟨hserves, -, hissues, -⟩ :=
      countP_replacedDeeds ticket (fun _ => true) x.requester x.request
    rw [hhand, hwaiting, Hand.carried, List.append_nil, List.length_nil, ite_self] at h
    simp only [List.countP_append, hserves, hissues, h, hhand, Hand.carried, Request.waiting,
      List.countP_singleton, Deed.servesFor, Deed.issues, List.length_singleton, List.nil_append,
      Bool.false_eq_true, if_false, Nat.add_zero, Nat.zero_add, beq_iff_eq]
  | collect caller result hfinished =>
    obtain ⟨hserves, -, -, hissues⟩ := countP_outcome ticket (fun _ => true) caller result
    rw [List.append_cons]
    simp only [List.countP_append, hserves, hissues, hfinished, Request.waiting,
      List.countP_singleton, Deed.servesFor, Deed.issues, Bool.false_eq_true, if_false,
      Nat.add_zero] at h ⊢
    exact h
  | pickUp buffer hpending free =>
    rw [hpending, free] at h
    exact h
  | serve buffer attempt after hcarrying same =>
    have hservicing : x.request = .servicing := hserviced.servicing_iff.2 (by simp [hcarrying])
    have hserves := countP_served ticket (fun _ => true) x.requester buffer attempt after
    rw [hcarrying, hservicing] at h
    simp only [List.countP_append, hserves, h, hservicing, Hand.carried, Request.waiting,
      List.countP_singleton, Deed.issues, List.append_nil, List.length_nil, List.length_singleton,
      Bool.false_eq_true, if_false, if_true, ite_self, Nat.add_zero]
  | publish result hreturning =>
    have hservicing : x.request = .servicing := hserviced.servicing_iff.2 (by simp [hreturning])
    rw [hreturning, hservicing] at h
    exact h

end Exchange

namespace Course

variable (view : View) (role : Role) (elementSize : UInt64) (s : Store)

/-- **Of the results that the worker brought back for a call**, the call
kept some, lost some, and at most one is on its way. -/
theorem balanced_run (turns : List Turn) (ticket : Nat) (good : Transfer → Bool) :
    ((start view role elementSize s).run turns).exchange.Balanced ticket good := by
  refine (exchange_run (P := fun x => x.Serviced ∧ x.Balanced ticket good) turns ?_
    fun _ _ hstep ih => ⟨ih.1.step hstep, ih.2.step hstep ih.1⟩).2
  rw [exchange_start]
  exact ⟨⟨rfl, by simp⟩, rfl⟩

/-- **Of the requests that a call issued**, all were served but at most one
that is on its way. -/
theorem answered_run (turns : List Turn) (ticket : Nat) :
    ((start view role elementSize s).run turns).exchange.Answered ticket := by
  refine (exchange_run (P := fun x => x.Serviced ∧ x.Answered ticket) turns ?_
    fun _ _ hstep ih => ⟨ih.1.step hstep, ih.2.step hstep ih.1⟩).2
  rw [exchange_start]
  exact ⟨⟨rfl, by simp⟩, rfl⟩

end Course

end TwinRing
