import TwinRing.Proofs.Direction.Attribution
import TwinRing.Proofs.Direction.Delivery
import TwinRing.Proofs.Direction.Ordered
/-!
# Lanes under way — what a writer's one caller gets put in

What the worker puts in for a blocking call is counted against where the
call stands and what of its is still on the way. With one caller no
element of a call is put in twice, and a call that returns with success
had its element put in (`Once`). Together with the order of what is put in
this is a `Sender`.
-/

namespace TwinRing

/-- What was put in for one call is part of what was put in. -/
theorem successes_sublist_puts (ticket : Nat) (record : List Deed) :
    (record.filterMap (Deed.success? ticket)).Sublist (puts record) := by
  induction record with
  | nil => exact List.Sublist.refl _
  | cons d rest ih =>
    have hputs : puts (d :: rest) = d.put ++ puts rest := List.flatMap_cons
    rw [hputs]
    cases hd : d.success? ticket with
    | none =>
      rw [List.filterMap_cons_none hd]
      exact ih.trans (List.sublist_append_right ..)
    | some b =>
      have hput : d.put = [b] := by
        cases d with
        | served owner buffer attempt after =>
          simp only [Deed.success?] at hd
          split at hd
          · rename_i hmine
            rw [Deed.put, if_pos hmine.2, Option.some.inj hd]
          · cases hd
        | _ => cases hd
      rw [List.filterMap_cons_some hd, hput]
      exact ih.cons_cons b

/-- Where nothing is served, nothing is put in for a call. -/
theorem Exchange.Quiet.successes {x y : Exchange} (h : x.Quiet y) (ticket : Nat) :
    y.record.filterMap (Deed.success? ticket) = x.record.filterMap (Deed.success? ticket) := by
  obtain ⟨more, hmore, hnone⟩ := h
  have hnil : more.filterMap (Deed.success? ticket) = [] :=
    List.filterMap_eq_nil_iff.2 fun d hd => by
      have hd := hnone d hd
      cases d with
      | served owner buffer attempt after => cases hd
      | _ => rfl
  rw [hmore, List.filterMap_append, hnil, List.append_nil]

namespace Floor

variable {g : Geometry} {x y : Floor}

/-! ## Once -/

/-- What was put in for the call with a ticket. -/
def successes (x : Floor) (ticket : Nat) : List Bytes :=
  x.exchange.record.filterMap (Deed.success? ticket)

/-- The request of the call with a ticket that is still to be served. -/
def unserved (x : Floor) (ticket : Nat) : List Bytes :=
  if x.exchange.requester = some ticket then
    x.exchange.hand.carried ++ x.exchange.request.waiting
  else []

/-- A result that is collected was not waiting to be served. -/
theorem unserved_collecting {caller : Option Nat} {result : Transfer}
    {standing? : Nat → Option Standing} {ticket : Nat} (h : x.exchange.request = .finished result) :
    unserved ⟨x.exchange.collecting caller result, standing?, x.ring⟩ ticket =
      x.unserved ticket := by
  simp only [unserved, Exchange.collecting, h, Request.waiting]
  rfl

/-- **What is put in for a call is put in once.** -/
structure Once (x : Floor) : Prop where
  /-- Nothing was put in for a call that is to try again. -/
  owing : ∀ ticket buffer, x.standing? ticket = some (.owing buffer) → x.successes ticket = []
  /-- What was put in for a call that waits is on its way to it. -/
  waiting : ∀ ticket, x.standing? ticket = some .waiting →
    x.successes ticket = x.exchange.onItsWay
  /-- A call returns with what was put in for it. -/
  ended : ∀ ticket r, x.standing? ticket = some (.ended (.ok r)) → x.successes ticket = [r]
  /-- One element at most was put in for a call or may be yet. -/
  once : ∀ ticket, (x.successes ticket ++ x.unserved ticket).length ≤ 1

namespace Once

variable (h : x.Once)
include h

theorem length_successes_le (ticket : Nat) : (x.successes ticket).length ≤ 1 := by
  have honce := h.once ticket
  rw [List.length_append] at honce
  omega

/-- **Where nothing is put in**, it is enough that what was put in before
fits where the calls stand now. -/
theorem of_quiet (hquiet : x.exchange.Quiet y.exchange)
    (owing : ∀ ticket buffer, y.standing? ticket = some (.owing buffer) →
      x.successes ticket = [])
    (waiting : ∀ ticket, y.standing? ticket = some .waiting →
      x.successes ticket = y.exchange.onItsWay)
    (ended : ∀ ticket r, y.standing? ticket = some (.ended (.ok r)) → x.successes ticket = [r])
    (unserved : ∀ ticket, y.unserved ticket ≠ [] → y.unserved ticket ≠ x.unserved ticket →
      x.successes ticket = [] ∧ (y.unserved ticket).length ≤ 1) : y.Once where
  owing ticket buffer hs := (hquiet.successes ticket).trans (owing ticket buffer hs)
  waiting ticket hs := (hquiet.successes ticket).trans (waiting ticket hs)
  ended ticket r hs := (hquiet.successes ticket).trans (ended ticket r hs)
  once ticket := by
    rw [successes, hquiet.successes]
    by_cases hnone : y.unserved ticket = []
    · rw [hnone, List.append_nil]
      exact h.length_successes_le ticket
    · by_cases hsame : y.unserved ticket = x.unserved ticket
      · rw [hsame]
        exact h.once ticket
      · obtain ⟨hempty, hone⟩ := unserved ticket hnone hsame
        rw [show x.exchange.record.filterMap (Deed.success? ticket) = [] from hempty]
        exact hone

/-- **At the ring**: what is put in there for a call is the first. -/
theorem successes_serving {buffer after : Bytes} {attempt : Attempt} {ring : Object} {ticket : Nat}
    (hcarrying : x.exchange.hand = .carrying buffer) :
    x.exchange.requester ≠ some ticket ∧
        successes { x with exchange := x.exchange.serving buffer attempt after, ring } ticket =
          x.successes ticket ∨
      x.exchange.requester = some ticket ∧ x.successes ticket = [] ∧
        successes { x with exchange := x.exchange.serving buffer attempt after, ring } ticket =
          if attempt.isMoved then [buffer] else [] := by
  have hsplit :
      successes { x with exchange := x.exchange.serving buffer attempt after, ring } ticket =
        x.successes ticket ++ [Deed.served x.exchange.requester buffer attempt after].filterMap
          (Deed.success? ticket) := List.filterMap_append ..
  by_cases hown : x.exchange.requester = some ticket
  · -- a request in hand leaves no room for anything put in before
    have honce := h.once ticket
    rw [unserved, if_pos hown, hcarrying, List.length_append, List.length_append] at honce
    have hnone : x.successes ticket = [] := List.length_eq_zero_iff.1 (by
      simp only [Hand.carried, List.length_singleton] at honce
      omega)
    refine .inr ⟨hown, hnone, ?_⟩
    rw [hsplit, hnone, List.nil_append, hown]
    cases hmoved : attempt.isMoved <;> simp [Deed.success?, hmoved]
  · refine .inl ⟨hown, ?_⟩
    rw [hsplit]
    simp [Deed.success?, hown]

/-- **At the ring** the one request that was to be served is served. -/
theorem serve {buffer after : Bytes} {attempt : Attempt} {ring : Object} (halone : x.Alone)
    (hcarrying : x.exchange.hand = .carrying buffer) (hafter : after = buffer) :
    Once { x with exchange := x.exchange.serving buffer attempt after, ring } := by
  have hservicing : x.exchange.request = .servicing :=
    halone.serviced.servicing_iff.2 (by simp [hcarrying])
  have hnothing : ∀ ticket, unserved
      { x with exchange := x.exchange.serving buffer attempt after, ring } ticket = [] := by
    simp only [unserved, Exchange.serving, hservicing, Hand.carried, Request.waiting,
      List.append_nil, ite_self, implies_true]
  refine ⟨fun ticket b howes => ?_, fun ticket hwaits => ?_, fun ticket r hended => ?_,
    fun ticket => ?_⟩ <;>
    rcases h.successes_serving hcarrying with ⟨hother, hsame⟩ | ⟨hown, hnone, hput⟩
  · rw [hsame]
    exact h.owing ticket b howes
  · -- it would be at its first attempt, and the request in hand is another's
    have hissued := halone.traced.hand buffer (by rw [hcarrying]; rfl)
    rw [hown] at hissued
    have hfree := (halone.between ticket b howes ⟨buffer, hissued⟩).2
    rw [hcarrying] at hfree
    cases hfree
  · exact absurd (halone.own ticket hwaits) hother
  · rw [hput, Exchange.onItsWay, Exchange.serving, hafter, hservicing, Request.elements,
      List.append_nil]
    rfl
  · rw [hsame]
    exact h.ended ticket r hended
  · have hsome := h.ended ticket r hended
    rw [hnone] at hsome
    cases hsome
  · rw [hsame, hnothing, List.append_nil]
    exact h.length_successes_le ticket
  · rw [hput, hnothing, List.append_nil]
    split <;> simp

/-- **For a call that starts** nothing was put in yet. -/
theorem start {acting : Nat} {element : Bytes} (halone : x.Alone) (idle : x.Idle)
    (silent : deedsOf acting x.exchange.record = []) :
    Once { x with
      exchange := x.exchange.noting (.began acting element)
      standing? := x.stood acting (.owing element) } := by
  have hnone : x.successes acting = [] := List.filterMap_eq_nil_iff.2 fun d hd => by
    cases d with
    | served owner buffer attempt after =>
      -- what is put in for a call it has issued, and a new call has issued nothing
      have hissued := halone.traced.served owner buffer attempt after hd
      exact if_neg fun hown => caller_ne_of_silent silent hissued hown.1
    | _ => rfl
  refine h.of_quiet (Exchange.quiet_noting rfl) (fun ticket b howes => ?_)
    (fun ticket hwaits => ?_) (fun ticket r hended => ?_) fun ticket _ hother => absurd rfl hother
  · rcases stood_cases howes with ⟨hsame, hs⟩ | ⟨hsame, howes⟩
    · rw [hsame]
      exact hnone
    · exact absurd (runs_of_owing howes) idle.not_runs
  · rcases stood_cases hwaits with ⟨hsame, hs⟩ | ⟨hsame, hwaits⟩
    · cases hs
    · exact absurd (runs_of_waiting hwaits) idle.not_runs
  · rcases stood_cases hended with ⟨hsame, hs⟩ | ⟨hsame, hended⟩
    · cases hs
    · exact h.ended ticket r hended

/-- **A call that issues a request** has nothing put in and nothing else on
its way. -/
theorem issueFor {acting : Nat} {buffer : Bytes} (halone : x.Alone)
    (owes : x.standing? acting = some (.owing buffer))
    (free : x.exchange.request.isOutstanding = false) :
    Once { x with
      exchange := x.exchange.accepting (some acting) buffer
      standing? := x.stood acting .waiting } := by
  have hhand := (halone.serviced.of_free free).1
  refine h.of_quiet Exchange.quiet_accepting (fun ticket b howes => ?_) (fun ticket hwaits => ?_)
    (fun ticket r hended => ?_) fun ticket hsome _ => ?_
  · rcases stood_cases howes with ⟨hsame, hs⟩ | ⟨hsame, howes⟩
    · cases hs
    · exact absurd (halone.single _ _ (runs_of_owing howes) (runs_of_owing owes)) hsame
  · rcases stood_cases hwaits with ⟨hsame, hs⟩ | ⟨hsame, hwaits⟩
    · rw [hsame, h.owing acting buffer owes]
      simp only [Exchange.onItsWay, Exchange.accepting, hhand, Hand.elements, Request.elements,
        List.append_nil]
    · exact absurd (halone.single _ _ (runs_of_waiting hwaits) (runs_of_owing owes)) hsame
  · rcases stood_cases hended with ⟨hsame, hs⟩ | ⟨hsame, hended⟩
    · cases hs
    · exact h.ended ticket r hended
  · by_cases hsame : acting = ticket
    · rw [← hsame]
      refine ⟨h.owing acting buffer owes, ?_⟩
      simp [unserved, Exchange.accepting, hhand, Hand.carried, Request.waiting]
    · exact absurd (if_neg fun heq => hsame (Option.some.inj heq)) hsome

/-- **A call that collects a result** returns if its element was put in, and
tries again if not. -/
theorem takeFor {acting : Nat} {result : Transfer} (halone : x.Alone)
    (waits : x.standing? acting = some .waiting)
    (hfinished : x.exchange.request = .finished result) :
    Once { x with
      exchange := x.exchange.collecting (some acting) result
      standing? := x.stood acting (Call.standingAfter result) } := by
  have hhand := halone.serviced.hand_eq_free (by simp [hfinished])
  -- what was put in for the call is what it collects
  have hresult : x.successes acting = result.elements := by
    rw [h.waiting acting waits, Exchange.onItsWay, hhand, hfinished]
    rfl
  refine h.of_quiet Exchange.quiet_collecting (fun ticket b howes => ?_) (fun ticket hwaits => ?_)
    (fun ticket r hended => ?_) fun ticket _ hother => absurd (unserved_collecting hfinished) hother
  · rcases stood_cases howes with ⟨hsame, hs⟩ | ⟨hsame, howes⟩
    · rw [hsame, hresult]
      obtain ⟨transferred, back⟩ := result
      cases transferred with
      | true => cases hs
      | false => rfl
    · exact absurd (halone.single _ _ (runs_of_owing howes) (runs_of_waiting waits)) hsame
  · rcases stood_cases hwaits with ⟨hsame, hs⟩ | ⟨hsame, hwaits⟩
    · unfold Call.standingAfter at hs
      split at hs <;> cases hs
    · exact absurd (halone.single _ _ (runs_of_waiting hwaits) (runs_of_waiting waits)) hsame
  · rcases stood_cases hended with ⟨hsame, hs⟩ | ⟨hsame, hended⟩
    · rw [hsame, hresult]
      obtain ⟨transferred, back⟩ := result
      cases transferred with
      | true => cases hs; rfl
      | false => cases hs
    · exact h.ended ticket r hended

/-- **Every step keeps it at once.** -/
theorem step (hstep : x.Step g y) (halone : x.Alone) : y.Once := by
  cases hstep with
  | still => exact h
  | issue buffer idle free kept =>
    exact h.of_quiet Exchange.quiet_accepting
      (fun ticket b howes => absurd (runs_of_owing howes) idle.not_runs)
      (fun ticket hwaits => absurd (runs_of_waiting hwaits) idle.not_runs) h.ended
      fun ticket hsome _ => absurd (if_neg (Option.some_ne_none ticket).symm) hsome
  | take result idle hfinished =>
    exact h.of_quiet Exchange.quiet_collecting
      (fun ticket b howes => absurd (runs_of_owing howes) idle.not_runs)
      (fun ticket hwaits => absurd (runs_of_waiting hwaits) idle.not_runs) h.ended
      fun ticket _ hother => absurd (unserved_collecting hfinished) hother
  | start acting element idle new silent => exact h.start halone idle silent
  | issueFor acting buffer owes free kept => exact h.issueFor halone owes free
  | takeFor acting result waits hfinished => exact h.takeFor halone waits hfinished
  | fail acting e s stands running =>
    refine h.of_quiet (Exchange.quiet_noting rfl) (fun ticket b howes => ?_)
      (fun ticket hwaits => ?_) (fun ticket r hended => ?_) fun ticket _ hother => absurd rfl hother
    · rcases stood_cases howes with ⟨hsame, hs⟩ | ⟨hsame, howes⟩
      · cases hs
      · exact h.owing ticket b howes
    · rcases stood_cases hwaits with ⟨hsame, hs⟩ | ⟨hsame, hwaits⟩
      · cases hs
      · exact h.waiting ticket hwaits
    · rcases stood_cases hended with ⟨hsame, hs⟩ | ⟨hsame, hended⟩
      · cases hs
      · exact h.ended ticket r hended
  | pickUp buffer hpending free =>
    refine h.of_quiet (Exchange.quiet_of_record_eq rfl) h.owing (fun ticket hwaits => ?_) h.ended
      fun ticket _ hother => absurd ?_ hother
    · refine (h.waiting ticket hwaits).trans ?_
      simp only [Exchange.onItsWay, hpending, free, Hand.elements, Request.elements]
    · simp only [unserved, hpending, free, Hand.carried, Request.waiting, List.append_nil,
        List.nil_append]
  | serve buffer hcarrying attempt after ring served =>
    exact h.serve halone hcarrying (after_of_writer halone.role served)
  | publish result hreturning =>
    have hservicing : x.exchange.request = .servicing :=
      halone.serviced.servicing_iff.2 (by simp [hreturning])
    refine h.of_quiet (Exchange.quiet_of_record_eq rfl) h.owing (fun ticket hwaits => ?_) h.ended
      fun ticket _ hother => absurd ?_ hother
    · refine (h.waiting ticket hwaits).trans ?_
      simp only [Exchange.onItsWay, hreturning, hservicing, Hand.elements, Request.elements,
        List.append_nil, List.nil_append]
    · simp only [unserved, hreturning, hservicing, Hand.carried, Request.waiting]

end Once

/-! ## A sender -/

/-- **A writer's lane whose one caller is sent what it pushes.** -/
structure Sender (x : Floor) : Prop where
  alone : x.Alone
  ordered : x.Ordered
  once : x.Once

/-- None of it is about the ring. -/
theorem Sender.of_ring {ring : Object} (h : x.Sender) : Sender { x with ring } := by
  obtain ⟨⟨role, serviced, traced, single, own, between, element⟩, ⟨sublist, last⟩,
    ⟨owing, waiting, ended, once⟩⟩ := h
  refine ⟨⟨role, serviced, traced, single, own, between, element⟩,
    ⟨sublist, fun b hb => last b ?_⟩, ⟨owing, waiting, ended, once⟩⟩
  cases hb with
  | waiting hpending => exact .waiting hpending
  | carried hcarries => exact .carried hcarries
  | returned hreturning => exact .returned hreturning
  | refused hfinished => exact .refused hfinished
  | owed ticket owes issued => exact .owed ticket owes issued

/-- On a new lane nothing is amiss, for nothing was done. -/
theorem sender_of_new (hexchange : x.exchange = ⟨.writer, .empty, .free, none, []⟩)
    (hstanding : ∀ ticket, x.standing? ticket = none) : x.Sender := by
  obtain ⟨exchange, standing?, ring⟩ := x
  obtain rfl : exchange = ⟨.writer, .empty, .free, none, []⟩ := hexchange
  have nobody : ∀ ticket s, standing? ticket ≠ some s := fun ticket s h => by
    rw [show standing? ticket = none from hstanding ticket] at h
    cases h
  have unheard : ∀ d : Deed, d ∉ ([] : List Deed) := fun _ => List.not_mem_nil
  refine ⟨⟨rfl, ⟨rfl, by simp⟩, ⟨fun _ hb => (by cases hb), fun _ hb => (by cases hb),
      fun _ _ _ _ hd => absurd hd (unheard _)⟩, ?_, ?_, ?_, ?_⟩, ⟨List.Sublist.refl _, ?_⟩,
    ⟨?_, ?_, ?_, ?_⟩⟩
  · exact fun ticket other ⟨s, hs, _⟩ => absurd hs (nobody ticket s)
  · exact fun ticket hs => absurd hs (nobody ticket _)
  · exact fun ticket b hs => absurd hs (nobody ticket _)
  · exact fun ticket e hd => absurd hd (unheard _)
  · rintro b hb
    cases hb with
    | waiting hpending => cases hpending
    | carried hcarries => cases hcarries
    | returned hreturning => cases hreturning
    | refused hfinished => cases hfinished
    | owed ticket owes issued => exact absurd owes (nobody ticket _)
  · exact fun ticket b hs => absurd hs (nobody ticket _)
  · exact fun ticket hs => absurd hs (nobody ticket _)
  · exact fun ticket r hs => absurd hs (nobody ticket _)
  · intro ticket
    rw [unserved, if_neg (Option.some_ne_none ticket).symm]
    exact Nat.zero_le 1

theorem Sender.step (hstep : x.Step g y) (h : x.Sender) : y.Sender :=
  ⟨h.alone.step hstep, h.ordered.step hstep h.alone, h.once.step hstep h.alone⟩

/-- **What a call has put in is its element**, once at most, and once if it
has returned with success. -/
theorem Sender.successes_eq (h : x.Sender) {ticket : Nat} {element : Bytes}
    (hbegan : .began ticket element ∈ x.exchange.record) :
    (x.successes ticket).Sublist [element] ∧
      ∀ r, x.standing? ticket = some (.ended (.ok r)) → x.successes ticket = [element] := by
  have hown : ∀ b ∈ x.successes ticket, b = element := by
    intro b hb
    obtain ⟨d, hd, hsuccess⟩ := List.mem_filterMap.1 hb
    cases d with
    | served owner buffer attempt after =>
      simp only [Deed.success?] at hsuccess
      split at hsuccess
      · rename_i hmine
        have hissued := h.alone.traced.served owner buffer attempt after hd
        rw [hmine.1] at hissued
        rw [← Option.some.inj hsuccess]
        exact (h.alone.element ticket element hbegan).2 buffer hissued
      · cases hsuccess
    | _ => cases hsuccess
  have hlength := h.once.length_successes_le ticket
  cases hlist : x.successes ticket with
  | nil =>
    refine ⟨List.nil_sublist _, fun r hended => ?_⟩
    rw [h.once.ended ticket r hended] at hlist
    cases hlist
  | cons b rest =>
    rw [hlist] at hlength hown
    have hrest : rest = [] := List.length_eq_zero_iff.1 (by
      rw [List.length_cons] at hlength
      omega)
    rw [hown b (List.mem_cons_self ..), hrest]
    exact ⟨List.Sublist.refl _, fun _ _ => rfl⟩

end Floor

end TwinRing
