import TwinRing.Proofs.Direction.Custody
/-!
# Lanes under way — whose element a call reports

A blocking call takes whatever result is in the slot; it does not know
whose it is. On a direction with several callers it may take another's, and
its own may be replaced or taken in the meantime. Here is said exactly when
a writer's call that returns with success has put its own element into the
ring, once, and when all that it issues is its element.

The two laws of custody settle the first: all requests of a call that
returns are served by then, and of their successes the call has kept one,
unless it has gained one of another's instead. So its element is in the
ring once exactly if it lost as many successes as it gained.

One condition needs no counting. A call that takes no result but those of
its own requests gains none, and it loses none either, for it issues one
request for each result that it takes (`lost_eq_zero_of_own`). Whatever
other callers do on the direction, such a call reports its own element:
`put_once_of_own`.
-/

namespace TwinRing

/-- The buffer that the worker put into the ring for a call. -/
def Deed.success? (ticket : Nat) : Deed → Option Bytes
  | .served owner buffer attempt _ =>
    if owner = some ticket ∧ attempt.isMoved = true then some buffer else none
  | _ => none

/-! ## Counting in accounts -/

section Counting

variable {role : Role} {ticket : Nat} {element : Bytes} {deeds record : List Deed} {s : Standing}
variable {good : Transfer → Bool}

/-- What a call collects is noted under its ticket. -/
theorem countP_deedsOf {p : Deed → Bool} (h : ∀ d, p d = true → d.caller = some ticket) :
    (deedsOf ticket record).countP p = record.countP p := by
  rw [deedsOf, List.countP_filter]
  refine List.countP_congr fun d _ => ?_
  constructor
  · intro hd
    exact (Bool.and_eq_true_iff.1 hd).1
  · intro hd
    exact Bool.and_eq_true_iff.2 ⟨hd, beq_iff_eq.2 (h d hd)⟩

theorem caller_of_keeps (d : Deed) (h : d.keeps ticket good = true) : d.caller = some ticket := by
  cases d with
  | collected caller owner t =>
    simp only [Deed.keeps, Bool.and_eq_true, beq_iff_eq] at h
    exact h.1.1
  | _ => cases h

theorem caller_of_gains (d : Deed) (h : d.gains ticket good = true) : d.caller = some ticket := by
  cases d with
  | collected caller owner t =>
    simp only [Deed.gains, Bool.and_eq_true, beq_iff_eq] at h
    exact h.1.1
  | _ => cases h

theorem loses_of_loses {d : Deed} (h : d.loses ticket good = true) :
    d.loses ticket (fun _ => true) = true := by
  cases d with
  | replaced owner t =>
    simp only [Deed.loses, Bool.and_eq_true] at h ⊢
    exact ⟨h.1, trivial⟩
  | collected caller owner t =>
    simp only [Deed.loses, Bool.and_eq_true] at h ⊢
    exact ⟨h.1, trivial⟩
  | _ => cases h

theorem collected_of_mem_refusals {r : Option Nat × Bytes} (h : r ∈ refusals ticket record) :
    ∃ t, .collected (some ticket) r.1 t ∈ record := by
  obtain ⟨d, hd, hrefused⟩ := List.mem_filterMap.1 h
  obtain ⟨hmem, hcaller⟩ := mem_deedsOf.1 hd
  cases d with
  | collected caller owner t =>
    rw [show caller = some ticket from hcaller] at hmem
    simp only [Deed.refused?] at hrefused
    split at hrefused
    · cases hrefused
    · rw [← Option.some.inj hrefused]
      exact ⟨t, hmem⟩
  | _ => cases hrefused

/-- How many results a call has returned with. -/
def Standing.successes : Standing → Nat
  | .ended (.ok _) => 1
  | .ended (.error _) => 0
  | .owing _ => 0
  | .waiting => 0

theorem countP_taken (ticket : Nat) (good : Transfer → Bool) (owner : Option Nat) (t : Transfer) :
    [Deed.collected (some ticket) owner t].countP (Deed.keeps ticket good) +
        [Deed.collected (some ticket) owner t].countP (Deed.gains ticket good) =
      [t].countP good := by
  by_cases hown : owner = some ticket
  · simp [Deed.keeps, Deed.gains, hown, List.countP_singleton]
  · simp [Deed.keeps, Deed.gains, hown, List.countP_singleton]

/-- Results of a kind that a call collected, its own and others'. -/
def taken (ticket : Nat) (good : Transfer → Bool) (deeds : List Deed) : Nat :=
  deeds.countP (Deed.keeps ticket good) + deeds.countP (Deed.gains ticket good)

theorem taken_append_collected (owner : Option Nat) (t : Transfer) :
    taken ticket good (deeds ++ .collected (some ticket) owner t ::
      Call.outcome (some ticket) t) = taken ticket good deeds + [t].countP good := by
  have hkeeps : (Call.outcome (some ticket) t).countP (Deed.keeps ticket good) = 0 :=
    List.countP_eq_zero.2 (Call.forall_mem_outcome fun _ => Bool.false_ne_true)
  have hgains : (Call.outcome (some ticket) t).countP (Deed.gains ticket good) = 0 :=
    List.countP_eq_zero.2 (Call.forall_mem_outcome fun _ => Bool.false_ne_true)
  have hplace := countP_taken ticket good owner t
  unfold taken
  rw [List.append_cons, List.countP_append, List.countP_append, List.countP_append,
    List.countP_append, hkeeps, hgains]
  omega

theorem taken_append_of_other {d : Deed} (hkeeps : d.keeps ticket good = false)
    (hgains : d.gains ticket good = false) :
    taken ticket good (deeds ++ [d]) = taken ticket good deeds := by
  unfold taken
  rw [List.countP_append, List.countP_append, List.countP_singleton, List.countP_singleton, hkeeps,
    hgains]
  rfl

/-- **A call returns with the one success that it collects.** -/
theorem Account.taken_transferred (h : Account role ticket element deeds s) :
    taken ticket Transfer.transferred deeds = s.successes := by
  induction h with
  | began => rfl
  | accepted h ih => rw [taken_append_of_other rfl rfl, ih]; rfl
  | collected owner t h own ih =>
    rw [taken_append_collected, ih, List.countP_singleton]
    cases htrans : t.transferred with
    | true => rw [Call.standingAfter_of_crossed htrans]; rfl
    | false => rw [Call.standingAfter_of_refused htrans]; rfl
  | @failed deeds s e h running ih =>
    rw [taken_append_of_other rfl rfl, ih]
    cases s with
    | ended r => exact absurd rfl (running r)
    | owing buffer => rfl
    | waiting => rfl

/-- All else that it collects are refusals. -/
theorem Account.taken_all (h : Account role ticket element deeds s) :
    taken ticket (fun _ => true) deeds = (deeds.filterMap Deed.refused?).length + s.successes := by
  induction h with
  | began => rfl
  | accepted h ih =>
    rw [taken_append_of_other rfl rfl, ih, List.filterMap_append, List.length_append]
    rfl
  | collected owner t h own ih =>
    rw [taken_append_collected, ih, List.countP_singleton, List.filterMap_append,
      List.length_append]
    cases htrans : t.transferred with
    | true =>
      rw [Call.standingAfter_of_crossed htrans, Call.outcome_of_crossed htrans]
      simp [Deed.refused?, htrans, Standing.successes]
    | false =>
      rw [Call.standingAfter_of_refused htrans, Call.outcome_of_refused htrans]
      simp [Deed.refused?, htrans, Standing.successes]
  | @failed deeds s e h running ih =>
    rw [taken_append_of_other rfl rfl, ih, List.filterMap_append, List.length_append]
    cases s with
    | ended r => exact absurd rfl (running r)
    | owing buffer => rfl
    | waiting => rfl

end Counting

/-! ## The turn at which a call returns -/

namespace Course

variable {c : Course} {ticket : Nat} {element : Bytes}

def result? (c : Course) (ticket : Nat) : Option (Except ChannelError Bytes) :=
  c.lane.handshake.result? ticket

theorem result?_eq_some_iff {r : Except ChannelError Bytes} :
    c.result? ticket = some r ↔ c.standing? ticket = some (.ended r) := by
  have hresult : c.result? ticket = (c.call? ticket).bind Call.result? := rfl
  rw [hresult, standing?]
  cases c.call? ticket with
  | none => exact ⟨fun h => (by cases h), fun h => (by cases h)⟩
  | some k =>
    rw [Option.bind_some, Option.map_some, Call.result?_eq_some_iff]
    exact ⟨fun h => congrArg some h, fun h => Option.some.inj h⟩

/-- **A call that returns with success has found a success in the slot**,
and leaves the slot empty. -/
theorem exchange_of_returns (hbefore : c.result? ticket = none)
    (hafter : (c.turn (.call ticket)).result? ticket = some (.ok element)) :
    ∃ t, t.transferred = true ∧ c.exchange.request = .finished t ∧
      (c.turn (.call ticket)).exchange =
        { c.exchange with
          request := .empty
          record := c.record ++ (.collected (some ticket) c.requester t ::
            Call.outcome (some ticket) t) } := by
  rw [result?_eq_some_iff] at hafter
  cases hk : c.call? ticket with
  | none =>
    have hturn : c.turn (.call ticket) = c := by simp only [turn, hk]
    rw [hturn, standing?, hk] at hafter
    cases hafter
  | some k =>
    rw [standing?_call hk] at hafter
    rw [exchange_call hk]
    have hrunning : k.standing ≠ .ended (.ok element) := fun h => by
      rw [result?_eq_some_iff.2 (by rw [standing?, hk, Option.map_some, h])] at hbefore
      cases hbefore
    have hticket := ticket_of_call? hk
    have hmove := k.moves c.direction c.requester
    generalize (k.step c.direction).1 = d at hmove ⊢
    generalize (k.step c.direction).2.standing = s at hmove hafter
    generalize callDeeds c.direction c.requester k = done at hmove ⊢
    -- Of the four moves only one can end in success.
    cases hmove with
    | accepted buffer owes free kept => cases hafter
    | collected t waits hfinished =>
      cases htrans : t.transferred with
      | true => exact ⟨t, htrans, hfinished, by rw [hticket]; rfl⟩
      | false =>
        rw [Call.standingAfter_of_refused htrans] at hafter
        cases hafter
    | failed e running => cases hafter
    | still => exact absurd (Option.some.inj hafter) hrunning

/-! ## What a call issues and what it has put in -/

def issued (c : Course) (ticket : Nat) : List Bytes := submissions ticket c.record

/-- The buffers that the worker put into the ring for a call. -/
def successes (c : Course) (ticket : Nat) : List Bytes :=
  c.record.filterMap (Deed.success? ticket)

/-- How many successes of the call went to others or were replaced. -/
def lost (c : Course) (ticket : Nat) : Nat :=
  c.record.countP (Deed.loses ticket Transfer.transferred)

/-- How many successes of others the call collected. -/
def gained (c : Course) (ticket : Nat) : Nat :=
  c.record.countP (Deed.gains ticket Transfer.transferred)

/-- **No refusal of another's request gave the call bytes that it issued as
its own.** -/
def Untainted (c : Course) (ticket : Nat) (element : Bytes) : Prop :=
  ∀ r ∈ refusals ticket c.record, r.1 ≠ some ticket → r.2 ∈ c.issued ticket → r.2 = element

theorem length_successes :
    (c.successes ticket).length = c.record.countP (Deed.servesFor ticket Transfer.transferred) := by
  rw [successes, List.length_filterMap_eq_countP]
  refine List.countP_congr fun d _ => ?_
  cases d with
  | served owner buffer attempt after =>
    simp only [Deed.success?, Deed.servesFor]
    split <;> simp_all
  | _ => simp [Deed.success?, Deed.servesFor]

theorem length_issued : (c.issued ticket).length = c.record.countP (Deed.issues ticket) := by
  rw [issued, submissions, List.length_filterMap_eq_countP, deedsOf, List.countP_filter]
  refine List.countP_congr fun d _ => ?_
  cases d with
  | accepted caller buffer => simp [Deed.accepted?, Deed.caller, Deed.issues]
  | _ => simp [Deed.accepted?, Deed.issues]

/-- **What was put in for a call is what the call issued.** -/
theorem mem_issued_of_mem_successes (h : c.Accounted) (hrole : c.direction.role = .writer)
    {a : Bytes} (ha : a ∈ c.successes ticket) : a ∈ c.issued ticket := by
  obtain ⟨d, hd, hsuccess⟩ := List.mem_filterMap.1 ha
  cases d with
  | served owner buffer attempt after =>
    simp only [Deed.success?] at hsuccess
    split at hsuccess
    · rename_i hown
      have hissued := (h.traced hrole).served owner buffer attempt after hd
      rw [hown.1] at hissued
      rw [← Option.some.inj hsuccess]
      exact List.mem_filterMap.2 ⟨_, mem_deedsOf.2 ⟨hissued, rfl⟩, rfl⟩
    · cases hsuccess
  | _ => cases hsuccess

theorem account_of_began (h : c.Accounted) (hbegan : .began ticket element ∈ c.record) :
    ∃ s, c.standing? ticket = some s ∧
      Account c.direction.role ticket element (deedsOf ticket c.record) s := by
  have hmine : .began ticket element ∈ deedsOf ticket c.record := mem_deedsOf.2 ⟨hbegan, rfl⟩
  cases hs : c.standing? ticket with
  | none =>
    rw [h.absent ticket hs] at hmine
    exact absurd hmine List.not_mem_nil
  | some s =>
    obtain ⟨element', haccount⟩ := h.account ticket s hs
    have hsame : element = element' := haccount.element_eq hmine
    exact ⟨s, rfl, hsame ▸ haccount⟩

/-- **A call issues nothing but its element exactly if it is untainted.** -/
theorem issued_eq_iff (h : c.Accounted) (hrole : c.direction.role = .writer)
    (hbegan : .began ticket element ∈ c.record) :
    (∀ a ∈ c.issued ticket, a = element) ↔ c.Untainted ticket element := by
  obtain ⟨s, -, haccount⟩ := account_of_began h hbegan
  rw [hrole] at haccount
  constructor
  · intro hown r _ _ hissued
    exact hown r.2 hissued
  · intro huntainted a ha
    rcases haccount.origin.1 a ha with hself | ⟨owner, hforeign, hrefused⟩
    · exact hself
    · exact huntainted (owner, a) hrefused hforeign ha

/-- At its return with success no request and no result of the call is on
its way: the slot is empty then, and the worker's hand is free. -/
theorem own_eq_zero_of_returns (h : c.Accounted) (hbefore : c.result? ticket = none)
    (hafter : (c.turn (.call ticket)).result? ticket = some (.ok element))
    (good : Transfer → Bool) :
    (c.turn (.call ticket)).exchange.ownResults ticket good = 0 ∧
      (c.turn (.call ticket)).exchange.ownRequests ticket = 0 := by
  obtain ⟨t, -, hfinished, hexchange⟩ := exchange_of_returns hbefore hafter
  have hhand : c.exchange.hand = .free := h.serviced.hand_eq_free (by simp [hfinished])
  rw [hexchange, Exchange.ownResults, Exchange.ownRequests]
  simp only [hhand, Hand.results, Hand.carried, Request.results, Request.waiting, List.append_nil,
    List.countP_nil, List.length_nil, ite_self, and_self]

/-- **At its return with success a call has put one element in exactly if it
has lost as many successes as it has gained.** -/
theorem length_successes_eq_one_iff (h : c.Accounted) (hbalanced :
      (c.turn (.call ticket)).exchange.Balanced ticket Transfer.transferred)
    (hbefore : c.result? ticket = none)
    (hafter : (c.turn (.call ticket)).result? ticket = some (.ok element)) :
    ((c.turn (.call ticket)).successes ticket).length = 1 ↔
      (c.turn (.call ticket)).lost ticket = (c.turn (.call ticket)).gained ticket := by
  obtain ⟨element', haccount⟩ := (h.turn _).account ticket _ (result?_eq_some_iff.1 hafter)
  have htaken := haccount.taken_transferred
  have hnone := (own_eq_zero_of_returns h hbefore hafter Transfer.transferred).1
  have hone : (Standing.ended (.ok element)).successes = 1 := rfl
  rw [taken, countP_deedsOf caller_of_keeps, countP_deedsOf caller_of_gains, hone] at htaken
  rw [Exchange.Balanced, hnone] at hbalanced
  rw [length_successes, lost, gained]
  change (c.turn _).record.countP _ = (c.turn _).record.countP _ + (c.turn _).record.countP _ + 0
    at hbalanced
  omega

/-- **A call that takes no result but its own loses none.** It has issued
one request for each result that it took, and all of them were served. -/
theorem lost_eq_zero_of_own (h : c.Accounted) (hbalanced :
      (c.turn (.call ticket)).exchange.Balanced ticket fun _ => true)
    (hanswered : (c.turn (.call ticket)).exchange.Answered ticket)
    (hbefore : c.result? ticket = none)
    (hafter : (c.turn (.call ticket)).result? ticket = some (.ok element))
    (hown : (c.turn (.call ticket)).record.countP (Deed.gains ticket fun _ => true) = 0) :
    (c.turn (.call ticket)).lost ticket = 0 := by
  obtain ⟨element', haccount⟩ := (h.turn _).account ticket _ (result?_eq_some_iff.1 hafter)
  have htaken := haccount.taken_all
  have hone : (Standing.ended (.ok element)).successes = 1 := rfl
  rw [taken, countP_deedsOf caller_of_keeps, countP_deedsOf caller_of_gains, hown, hone] at htaken
  -- As many requests as refusals, and one more for the element.
  obtain ⟨owed, howed, hsequence⟩ := haccount.sequence
  have hnil : owed = [] := howed
  have hlength := congrArg List.length hsequence
  rw [hnil, List.append_nil, List.length_cons, List.length_map] at hlength
  have hissued : ((deedsOf ticket (c.turn (.call ticket)).record).filterMap
      Deed.accepted?).length = (c.turn (.call ticket)).record.countP (Deed.issues ticket) :=
    length_issued
  -- Each request was served, and each result is kept or lost; all that it took was kept.
  obtain ⟨hresults, hrequests⟩ := own_eq_zero_of_returns h hbefore hafter fun _ => true
  have hserved : (c.turn (.call ticket)).record.countP (Deed.servesFor ticket fun _ => true) =
      (c.turn (.call ticket)).record.countP (Deed.keeps ticket fun _ => true) +
        (c.turn (.call ticket)).record.countP (Deed.loses ticket fun _ => true) + 0 := by
    rw [← hresults]
    exact hbalanced
  have hall : (c.turn (.call ticket)).record.countP (Deed.issues ticket) =
      (c.turn (.call ticket)).record.countP (Deed.servesFor ticket fun _ => true) + 0 := by
    rw [← hrequests]
    exact hanswered
  have hmost : (c.turn (.call ticket)).lost ticket ≤
      (c.turn (.call ticket)).record.countP (Deed.loses ticket fun _ => true) :=
    List.countP_mono_left fun d _ hd => loses_of_loses hd
  omega

/-- **At its return with success a call has put its element in once, and
issued nothing else, exactly if it is untainted and has lost as many
successes as it has gained.** -/
theorem put_once_iff (h : c.Accounted) (hrole : c.direction.role = .writer)
    (hbegan : .began ticket element ∈ c.record) (hbalanced :
      (c.turn (.call ticket)).exchange.Balanced ticket Transfer.transferred)
    {result : Bytes} (hbefore : c.result? ticket = none)
    (hafter : (c.turn (.call ticket)).result? ticket = some (.ok result)) :
    ((∀ a ∈ (c.turn (.call ticket)).issued ticket, a = element) ∧
        (c.turn (.call ticket)).successes ticket = [element]) ↔
      (c.turn (.call ticket)).Untainted ticket element ∧
        (c.turn (.call ticket)).lost ticket = (c.turn (.call ticket)).gained ticket := by
  set next := c.turn (.call ticket) with hnext
  have hnextAccounted : next.Accounted := h.turn _
  have hnextRole : next.direction.role = .writer := (c.step_turn _).role_eq.trans hrole
  have hnextBegan : .began ticket element ∈ next.record := by
    obtain ⟨more, hmore⟩ := (c.step_turn (.call ticket)).record_grows
    have hrecord : next.record = c.record ++ more := hmore
    rw [hrecord]
    exact List.mem_append_left _ hbegan
  rw [← issued_eq_iff hnextAccounted hnextRole hnextBegan,
    ← length_successes_eq_one_iff h hbalanced hbefore hafter]
  refine and_congr_right fun hissued => ?_
  -- What was put in was issued, so it is the element as soon as it is one thing.
  constructor
  · intro hsuccesses
    rw [← hnext, hsuccesses]
    rfl
  · intro hlength
    obtain ⟨x, hx⟩ := List.length_eq_one_iff.1 hlength
    rw [← hnext] at hx
    have hmine : x ∈ next.issued ticket := mem_issued_of_mem_successes hnextAccounted hnextRole
      (by rw [hx]; exact List.mem_singleton_self x)
    rw [hx, hissued x hmine]

/-- **A call that takes no result but its own reports its own element.** -/
theorem put_once_of_own (view : View) (elementSize : UInt64) (s : Store) (turns : List Turn)
    (hbegan : .began ticket element ∈ ((start view .writer elementSize s).run turns).record)
    {result : Bytes}
    (hbefore : ((start view .writer elementSize s).run turns).result? ticket = none)
    (hafter : ((start view .writer elementSize s).run (turns ++ [.call ticket])).result? ticket =
      some (.ok result))
    (hown : ∀ owner t, .collected (some ticket) owner t ∈
      ((start view .writer elementSize s).run (turns ++ [.call ticket])).record →
        owner = some ticket) :
    (∀ a ∈ ((start view .writer elementSize s).run (turns ++ [.call ticket])).issued ticket,
        a = element) ∧
      ((start view .writer elementSize s).run (turns ++ [.call ticket])).successes ticket =
        [element] := by
  have hbalanced := balanced_run view .writer elementSize s (turns ++ [.call ticket]) ticket
  have hanswered := answered_run view .writer elementSize s (turns ++ [.call ticket]) ticket
  have h := accounted_run view .writer elementSize s turns
  have hrole := role_run view .writer elementSize s turns
  have hgains : ∀ good : Transfer → Bool,
      ((start view .writer elementSize s).run (turns ++ [.call ticket])).record.countP
        (Deed.gains ticket good) = 0 := by
    intro good
    refine List.countP_eq_zero.2 fun d hd hgains => ?_
    cases d with
    | collected caller owner t =>
      simp only [Deed.gains, Bool.and_eq_true, beq_iff_eq, bne_iff_ne] at hgains
      rw [hgains.1.1] at hd
      exact hgains.1.2 (hown owner t hd)
    | _ => cases hgains
  rw [run_append] at hbalanced hanswered hafter hown hgains ⊢
  refine (put_once_iff h hrole hbegan (hbalanced _) hbefore hafter).2 ⟨?_, ?_⟩
  · intro r hr hforeign
    obtain ⟨t, ht⟩ := collected_of_mem_refusals hr
    exact absurd (hown r.1 t ht) hforeign
  · rw [lost_eq_zero_of_own h (hbalanced _) hanswered hbefore hafter (hgains _)]
    exact (hgains _).symm

/-- **When a call reports its own element.** In every order of steps on a
writer's lane, a call issues nothing but its element, and has nothing else
put in, exactly if it is untainted. And at the turn at which it returns
with success, its element was put in for it, once, and nothing but its
element was issued, exactly if it is untainted and has lost as many
successes as it has gained. -/
theorem reports_own_element_iff (view : View) (elementSize : UInt64) (s : Store)
    (turns : List Turn) (ticket : Nat) (element : Bytes)
    (hbegan : .began ticket element ∈ ((start view .writer elementSize s).run turns).record) :
    let c := (start view .writer elementSize s).run turns
    let next := c.turn (.call ticket)
    ((∀ a ∈ c.issued ticket ++ c.successes ticket, a = element) ↔ c.Untainted ticket element) ∧
      ∀ result, c.result? ticket = none → next.result? ticket = some (.ok result) →
        ((∀ a ∈ next.issued ticket, a = element) ∧ next.successes ticket = [element] ↔
          next.Untainted ticket element ∧ next.lost ticket = next.gained ticket) := by
  intro c next
  have h : c.Accounted := accounted_run view .writer elementSize s turns
  have hrole : c.direction.role = .writer := role_run view .writer elementSize s turns
  have hbalanced : next.exchange.Balanced ticket Transfer.transferred := by
    have hrun := balanced_run view .writer elementSize s (turns ++ [.call ticket]) ticket
      Transfer.transferred
    rwa [run_append] at hrun
  refine ⟨?_, fun result hbefore hafter => put_once_iff h hrole hbegan hbalanced hbefore hafter⟩
  rw [← issued_eq_iff h hrole hbegan]
  constructor
  · intro hall a ha
    exact hall a (List.mem_append_left _ ha)
  · intro hissued a ha
    rcases List.mem_append.1 ha with ha | ha
    · exact hissued a ha
    · exact hissued a (mem_issued_of_mem_successes h hrole ha)

/-! ## A call that reports its own element, and one that does not -/

/-- A writer's lane on a ring of one element of one byte. -/
def narrowView : View :=
  ⟨⟨⟨['n'], List.cons_ne_nil _ _, List.forall_mem_singleton.2 ⟨by decide, by decide⟩⟩,
    57, true, 0, 0⟩, ⟨1, 1⟩⟩

/-- The store with that ring, after so many elements were put in. -/
def narrowStore (written : UInt64) : Store :=
  { objects := #[Ring.setIndices 0 written { size := 57 }] }

/-- A call issues the element ten, and the worker serves it. -/
def servedTurns : List Turn :=
  [.spawn, .begin [10] (.fixed ⟨1, 0⟩), .call 0, .call 0, .worker, .worker, .worker]

/-- On an empty ring that is all there is to it. -/
def plainCourse : Course := (start narrowView .writer 1 (narrowStore 0)).run servedTurns

set_option maxRecDepth 4000 in
theorem reports_own_element_iff_plain :
    .began 0 [10] ∈ plainCourse.record ∧
      (plainCourse.turn (.call 0)).result? 0 = some (.ok [10]) ∧
      (∀ a ∈ (plainCourse.turn (.call 0)).issued 0, a = [10]) ∧
      (plainCourse.turn (.call 0)).successes 0 = [[10]] := by
  have hrecord : plainCourse.record = [.began 0 [10], .accepted (some 0) [10],
      .served (some 0) [10] .moved [10]] := by rfl
  have hbegan : .began 0 [10] ∈ plainCourse.record := by
    rw [hrecord]
    exact List.mem_cons_self
  have hbefore : plainCourse.result? 0 = none := by decide +kernel
  have hafter : (plainCourse.turn (.call 0)).result? 0 = some (.ok [10]) := by rfl
  have huntainted : (plainCourse.turn (.call 0)).Untainted 0 [10] := by
    unfold Untainted
    decide +kernel
  have heven : (plainCourse.turn (.call 0)).lost 0 = (plainCourse.turn (.call 0)).gained 0 := by
    decide +kernel
  have hreports := (reports_own_element_iff narrowView 1 (narrowStore 0) servedTurns 0 [10]
    hbegan).2 [10] hbefore hafter
  exact ⟨hbegan, hafter, hreports.2 ⟨huntainted, heven⟩⟩

/-- On a full ring the request is refused. Before the call has looked at
that, another request is issued over it; then others empty the ring, and
the worker serves that request. -/
def strayCourse : Course :=
  (start narrowView .writer 1 (narrowStore 1)).run (servedTurns ++
    [.submit [11], .others (narrowStore 0), .worker, .worker, .worker, .worker])

set_option maxRecDepth 4000 in
/-- **A call can return with success and its element was never put in.** It
takes the success of the other request for its own. -/
theorem reports_another_element :
    .began 0 [10] ∈ strayCourse.record ∧ strayCourse.result? 0 = none ∧
      (strayCourse.turn (.call 0)).result? 0 = some (.ok [11]) ∧
      (strayCourse.turn (.call 0)).successes 0 ≠ [[10]] := by
  have hrecord : strayCourse.record = [.began 0 [10], .accepted (some 0) [10],
      .served (some 0) [10] .refused [10], .replaced (some 0) ⟨false, [10]⟩, .accepted none [11],
      .served none [11] .moved [11]] := by rfl
  have hbegan : .began 0 [10] ∈ strayCourse.record := by
    rw [hrecord]
    exact List.mem_cons_self
  exact ⟨hbegan, by decide +kernel, by rfl, by decide +kernel⟩

end Course

end TwinRing
