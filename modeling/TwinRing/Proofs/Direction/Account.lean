import TwinRing.Proofs.Direction.Progress
import TwinRing.Proofs.Direction.Servicing
/-!
# Lanes under way — the account of a call

What one blocking call did, from its start to where it stands, is an
account of the kind that `Account` describes: it issues its element,
collects a result, issues what a refused one gave back, and so on until it
returns. Whose result it collects is not its choice. For a writer each
account also says that the buffer of a result which is the call's own is
one that the call issued before.
-/

namespace TwinRing

/-! ## Where buffers come from -/

/-- The buffer in the worker's hand, or in the result there. -/
def Hand.buffer? : Hand → Option Bytes
  | .carrying buffer => some buffer
  | .returning result => some result.buffer
  | .free => none

/-- The buffer in the slot, or in the result there. -/
def Request.buffer? : Request → Option Bytes
  | .pending buffer => some buffer
  | .finished result => some result.buffer
  | .empty => none
  | .servicing => none

namespace Exchange

variable {x y : Exchange} {d : Deed}

/-- **Every buffer was issued by the one it is held for.** -/
structure Traced (x : Exchange) : Prop where
  /-- The one in the slot. -/
  slot : ∀ buffer, x.request.buffer? = some buffer → .accepted x.requester buffer ∈ x.record
  /-- The one in the worker's hand. -/
  hand : ∀ buffer, x.hand.buffer? = some buffer → .accepted x.requester buffer ∈ x.record
  /-- Those that were taken to the ring. -/
  served : ∀ owner buffer attempt after, .served owner buffer attempt after ∈ x.record →
    .accepted owner buffer ∈ x.record

theorem Traced.served_append (h : x.Traced) {deeds : List Deed}
    (hnone : ∀ d ∈ deeds, d.served? = none) (owner : Option Nat) (buffer : Bytes)
    (attempt : Attempt) (after : Bytes)
    (hd : .served owner buffer attempt after ∈ x.record ++ deeds) :
    .accepted owner buffer ∈ x.record ++ deeds := by
  rcases List.mem_append.1 hd with hd | hd
  · exact List.mem_append_left _ (h.served _ _ _ _ hd)
  · exact absurd (hnone _ hd) (Option.some_ne_none _)

/-- **A writer brings every buffer back as it was issued.** -/
theorem Traced.step (hstep : x.Step y) (hrole : x.role = .writer) (hserviced : x.Serviced)
    (h : x.Traced) : y.Traced := by
  cases hstep with
  | aside deeds hdeeds =>
    refine ⟨fun b hb => ?_, fun b hb => ?_, h.served_append fun d hd => ?_⟩
    · exact List.mem_append_left _ (h.slot b hb)
    · exact List.mem_append_left _ (h.hand b hb)
    · exact (hdeeds d hd).accepted?_eq_none.2
  | accept caller buffer free kept =>
    -- The requester changes here, which is sound only because the hand is free.
    have hhand := (hserviced.of_free free).1
    refine ⟨fun b hb => ?_, fun b hb => ?_, h.served_append fun d hd => ?_⟩
    · rw [← Option.some.inj hb]
      exact List.mem_append_right _ (List.mem_append_right _ (List.mem_singleton_self _))
    · have hb : x.hand.buffer? = some b := hb
      rw [hhand] at hb
      cases hb
    · rcases List.mem_append.1 hd with hd | hd
      · obtain ⟨t, -, rfl⟩ := Course.mem_replacedDeeds_iff.1 hd
        rfl
      · rw [List.mem_singleton.1 hd]; rfl
  | collect caller result hfinished =>
    refine ⟨fun b hb => (by cases hb), fun b hb => ?_, h.served_append fun d hd => ?_⟩
    · exact List.mem_append_left _ (h.hand b hb)
    · rcases List.mem_cons.1 hd with rfl | hd
      · rfl
      · obtain ⟨ticket, -, -, rfl⟩ := Call.mem_outcome_iff.1 hd
        rfl
  | pickUp buffer hpending free =>
    refine ⟨fun b hb => (by cases hb), fun b hb => ?_, h.served⟩
    exact h.slot b (by rw [hpending]; exact hb)
  | serve buffer attempt after hcarrying same =>
    have hissued : .accepted x.requester buffer ∈ x.record := h.hand buffer (by rw [hcarrying]; rfl)
    refine ⟨fun b hb => ?_, fun b hb => ?_, fun owner b attempt' after' hd => ?_⟩
    · exact List.mem_append_left _ (h.slot b hb)
    · -- A reader would bring back an element that nobody issued.
      rw [← Option.some.inj hb, same hrole]
      exact List.mem_append_left _ hissued
    · rcases List.mem_append.1 hd with hd | hd
      · exact List.mem_append_left _ (h.served _ _ _ _ hd)
      · cases List.mem_singleton.1 hd
        exact List.mem_append_left _ hissued
  | publish result hreturning =>
    refine ⟨fun b hb => ?_, fun b hb => (by cases hb), h.served⟩
    exact h.hand b (by rw [hreturning]; exact hb)

end Exchange

/-! ## Accounts -/

/-- **The account of a call**: what it did, and how it stands after it. -/
inductive Account (role : Role) (ticket : Nat) (element : Bytes) : List Deed → Standing → Prop
  | began : Account role ticket element [.began ticket element] (.owing element)
  | accepted {deeds : List Deed} {buffer : Bytes}
      (h : Account role ticket element deeds (.owing buffer)) :
      Account role ticket element (deeds ++ [.accepted (some ticket) buffer]) .waiting
  | collected {deeds : List Deed} (owner : Option Nat) (t : Transfer)
      (h : Account role ticket element deeds .waiting)
      (own : role = .writer → owner = some ticket → .accepted owner t.buffer ∈ deeds) :
      Account role ticket element
        (deeds ++ .collected (some ticket) owner t :: Call.outcome (some ticket) t)
        (Call.standingAfter t)
  | failed {deeds : List Deed} {s : Standing} (e : ChannelError)
      (h : Account role ticket element deeds s) (running : ∀ r, s ≠ .ended r) :
      Account role ticket element (deeds ++ [.returned ticket (.error e)]) (.ended (.error e))

namespace Course

variable {c : Course}

/-- **Every call has its account.** -/
structure Accounted (c : Course) : Prop where
  /-- Slot and hand agree with the record. -/
  serviced : c.exchange.Serviced
  /-- A writer's buffers come from those they are held for. -/
  traced : c.direction.role = .writer → c.exchange.Traced
  /-- Tickets not yet given out are nobody's. -/
  fresh : ∀ ticket, c.nextTicket ≤ ticket → c.standing? ticket = none
  /-- Nobody did nothing. -/
  absent : ∀ ticket, c.standing? ticket = none → deedsOf ticket c.record = []
  /-- What a call did is its account. -/
  account : ∀ ticket s, c.standing? ticket = some s →
    ∃ element, Account c.direction.role ticket element (deedsOf ticket c.record) s

theorem call?_of_standing? {ticket : Nat} (h : c.standing? ticket = none) :
    c.call? ticket = none :=
  Option.map_eq_none_iff.1 h

theorem nextTicket_le_turn (c : Course) (t : Turn) : c.nextTicket ≤ (c.turn t).nextTicket := by
  cases t with
  | spawn =>
    have hsame : (c.turn .spawn).nextTicket = c.nextTicket := by
      rcases c.turn_spawn with ⟨-, hturn⟩ | ⟨-, hturn⟩ <;> rw [hturn]
      rfl
    exact Nat.le_of_eq hsame.symm
  | submit buffer =>
    simp only [nextTicket, Course.turn, moved, Lane.onHandshake, Handshake.submit]
    split <;> exact Nat.le_refl _
  | collect => exact Nat.le_refl _
  | shutDown => exact Nat.le_refl _
  | begin element policy => exact Nat.le_succ _
  | call ticket =>
    simp only [nextTicket, Course.turn, moved, Lane.callStep, Lane.onHandshake, Handshake.callStep]
    split
    · exact Nat.le_refl _
    · split
      · exact Nat.le_refl _
      · split <;> exact Nat.le_refl _
  | rouse ticket => exact Nat.le_refl _
  | worker => exact Nat.le_of_eq (calls_workerStep c.lane c.store).1.symm
  | rouseWorker => exact Nat.le_refl _
  | others s => exact Nat.le_refl _

/-- **A move of a call goes into its account.** -/
theorem account_of_move {role : Role} {k : Call} {d d' : Direction} {requester : Option Nat}
    {s : Standing} {done : Option Nat × List Deed} {element : Bytes} {deeds : List Deed}
    (hmove : k.Move d requester d' s done)
    (hown : ∀ t, d.request = .finished t → role = .writer → requester = some k.ticket →
      .accepted requester t.buffer ∈ deeds)
    (h : Account role k.ticket element deeds k.standing) :
    Account role k.ticket element (deeds ++ deedsOf k.ticket done.2) s := by
  cases hmove with
  | accepted buffer owes free kept =>
    rw [owes] at h
    have hmine : deedsOf k.ticket (replacedDeeds requester d.request ++
        [.accepted (some k.ticket) buffer]) = [.accepted (some k.ticket) buffer] := by
      rw [deedsOf_append, deedsOf_eq_nil fun _ hd => caller_ne_of_eq_none (caller_replacedDeeds hd),
        List.nil_append, deedsOf_eq_self fun _ hd => by rw [List.mem_singleton.1 hd]; rfl]
    rw [hmine]
    exact h.accepted
  | collected t waits hfinished =>
    rw [waits] at h
    have hmine : deedsOf k.ticket (.collected (some k.ticket) requester t ::
        Call.outcome (some k.ticket) t) =
          .collected (some k.ticket) requester t :: Call.outcome (some k.ticket) t := by
      refine deedsOf_eq_self fun d hd => ?_
      rcases List.mem_cons.1 hd with rfl | hd
      · rfl
      · exact caller_outcome hd
    rw [hmine]
    exact h.collected requester t (hown t hfinished)
  | failed e running =>
    rw [deedsOf_eq_self fun _ hd => by rw [List.mem_singleton.1 hd]; rfl]
    exact h.failed e running
  | still =>
    rw [show deedsOf k.ticket [] = [] from rfl, List.append_nil]
    exact h

/-- **Every turn keeps the accounts.** -/
theorem Accounted.turn (h : c.Accounted) (t : Turn) : (c.turn t).Accounted := by
  have hstep := c.step_turn t
  have hrole : (c.turn t).direction.role = c.direction.role := hstep.role_eq
  have hprogress := progress (call?_of_standing? (h.fresh _ (Nat.le_refl _))) t
  refine ⟨h.serviced.step hstep, fun hwriter => ?_, fun ticket hticket => ?_,
    fun ticket hnone => ?_, fun ticket s hs => ?_⟩
  · rw [hrole] at hwriter
    exact (h.traced hwriter).step hstep hwriter h.serviced
  · have hbefore := h.fresh ticket (Nat.le_trans (c.nextTicket_le_turn t) hticket)
    cases hprogress ticket with
    | still standing deeds => rw [standing, hbefore]
    | began element fresh next standing deeds => omega
    | moved k d s done found move standing deeds =>
      rw [call?_of_standing? hbefore] at found
      cases found
  · cases hprogress ticket with
    | still standing deeds =>
      rw [deeds]
      exact h.absent ticket (standing ▸ hnone)
    | began element fresh next standing deeds =>
      rw [standing] at hnone
      cases hnone
    | moved k d s done found move standing deeds =>
      rw [standing] at hnone
      cases hnone
  · rw [hrole]
    cases hprogress ticket with
    | still standing deeds =>
      rw [deeds]
      exact h.account ticket s (standing ▸ hs)
    | began element fresh next standing deeds =>
      have hbefore := h.absent ticket (h.fresh ticket (Nat.le_of_eq fresh.symm))
      rw [standing] at hs
      rw [deeds, deedsOf_append, hbefore, List.nil_append,
        deedsOf_eq_self fun _ hd => by rw [List.mem_singleton.1 hd]; rfl, ← Option.some.inj hs]
      exact ⟨element, .began⟩
    | moved k d s' done found move standing deeds =>
      have hticket := ticket_of_call? found
      subst hticket
      obtain ⟨element, haccount⟩ := h.account k.ticket k.standing (by rw [standing?, found]; rfl)
      rw [standing] at hs
      rw [deeds, deedsOf_append, ← Option.some.inj hs]
      refine ⟨element, account_of_move move (fun t ht hwriter hmine => ?_) haccount⟩
      -- The result that lies in the slot for this call holds what the call issued.
      have hissued := (h.traced hwriter).slot t.buffer (by
        rw [show c.exchange.request = c.direction.request from rfl, ht]; rfl)
      refine mem_deedsOf.2 ⟨hissued, ?_⟩
      rw [← hmine]
      rfl

/-- Every call has its account in every course. -/
theorem accounted_run (view : View) (role : Role) (elementSize : UInt64) (s : Store)
    (turns : List Turn) : ((start view role elementSize s).run turns).Accounted := by
  refine run_induction turns ?_ fun c t h => h.turn t
  have hnone : ∀ ticket, (start view role elementSize s).standing? ticket = none := fun _ => rfl
  refine ⟨⟨rfl, by rw [exchange_start]; simp⟩, fun _ => ?_, fun ticket _ => hnone ticket,
    fun _ _ => rfl, fun ticket st hst => ?_⟩
  · exact ⟨fun _ hb => (by cases hb), fun _ hb => (by cases hb),
      fun _ _ _ _ hd => absurd hd List.not_mem_nil⟩
  · rw [hnone] at hst
    cases hst

end Course

/-! ## What an account says -/

/-- A result that was no success, and whose it was. -/
def Deed.refused? : Deed → Option (Option Nat × Bytes)
  | .collected _ owner t => if t.transferred then none else some (owner, t.buffer)
  | _ => none

def submissions (ticket : Nat) (record : List Deed) : List Bytes :=
  (deedsOf ticket record).filterMap Deed.accepted?

/-- The results that a call collected and that were no success, in order. -/
def refusals (ticket : Nat) (record : List Deed) : List (Option Nat × Bytes) :=
  (deedsOf ticket record).filterMap Deed.refused?

namespace Account

variable {role : Role} {ticket : Nat} {element : Bytes} {deeds : List Deed} {s : Standing}

/-- What a call that stands so is to issue yet, or would have been. -/
def Owed : Standing → List Bytes → Prop
  | .owing buffer, owed => owed = [buffer]
  | .waiting, owed => owed = []
  | .ended (.ok _), owed => owed = []
  | .ended (.error _), owed => owed.length ≤ 1

/-- **A call issues its element and then what each refusal gave it.** -/
theorem sequence (h : Account role ticket element deeds s) :
    ∃ owed, Owed s owed ∧ element :: (deeds.filterMap Deed.refused?).map Prod.snd =
      deeds.filterMap Deed.accepted? ++ owed := by
  induction h with
  | began => exact ⟨[element], rfl, rfl⟩
  | @accepted deeds buffer h ih =>
    obtain ⟨owed, rfl, hsequence⟩ := ih
    refine ⟨[], rfl, ?_⟩
    rw [List.filterMap_append, List.filterMap_append, List.append_nil]
    exact (congrArg (fun l => element :: List.map Prod.snd l) (List.append_nil _)).trans hsequence
  | @collected deeds owner t h own ih =>
    obtain ⟨owed, rfl, hsequence⟩ := ih
    rw [List.append_nil] at hsequence
    cases htrans : t.transferred with
    | true =>
      refine ⟨[], by rw [Call.standingAfter_of_crossed htrans]; rfl, ?_⟩
      rw [Call.outcome_of_crossed htrans]
      simp only [List.filterMap_append, List.filterMap_cons, List.filterMap_nil, Deed.refused?,
        Deed.accepted?, htrans, if_true, List.append_nil]
      exact hsequence
    | false =>
      refine ⟨[t.buffer], by rw [Call.standingAfter_of_refused htrans]; rfl, ?_⟩
      rw [Call.outcome_of_refused htrans]
      simp only [List.filterMap_append, List.filterMap_cons, List.filterMap_nil, Deed.refused?,
        Deed.accepted?, htrans, Bool.false_eq_true, if_false, List.append_nil, List.map_append,
        ← List.cons_append, hsequence]
      rfl
  | @failed deeds s e h running ih =>
    obtain ⟨owed, howed, hsequence⟩ := ih
    refine ⟨owed, ?_, ?_⟩
    · cases s with
      | owing buffer => exact Nat.le_of_eq (congrArg List.length howed)
      | waiting => exact Nat.le_of_lt (Nat.lt_one_iff.2 (congrArg List.length howed))
      | ended r => exact absurd rfl (running r)
    · simp only [List.filterMap_append, List.filterMap_cons, List.filterMap_nil, Deed.refused?,
        Deed.accepted?, List.append_nil]
      exact hsequence

theorem element_eq {e : Bytes} (h : Account role ticket element deeds s)
    (hbegan : .began ticket e ∈ deeds) : e = element := by
  induction h with
  | began =>
    cases List.mem_singleton.1 hbegan
    rfl
  | accepted h ih =>
    rcases List.mem_append.1 hbegan with hbegan | hbegan
    · exact ih hbegan
    · cases List.mem_singleton.1 hbegan
  | collected owner t h own ih =>
    rcases List.mem_append.1 hbegan with hbegan | hbegan
    · exact ih hbegan
    · rcases List.mem_cons.1 hbegan with hbegan | hbegan
      · cases hbegan
      · obtain ⟨taker, -, -, hreturn⟩ := Call.mem_outcome_iff.1 hbegan
        cases hreturn
  | failed e h running ih =>
    rcases List.mem_append.1 hbegan with hbegan | hbegan
    · exact ih hbegan
    · cases List.mem_singleton.1 hbegan

/-- Where a buffer comes from that a call issues: it is the call's element,
or a refusal of another's request gave it to the call. -/
def Origin (ticket : Nat) (element : Bytes) (deeds : List Deed) (buffer : Bytes) : Prop :=
  buffer = element ∨
    ∃ owner, owner ≠ some ticket ∧ (owner, buffer) ∈ deeds.filterMap Deed.refused?

theorem Origin.append {buffer : Bytes} (h : Origin ticket element deeds buffer)
    (more : List Deed) : Origin ticket element (deeds ++ more) buffer := by
  rcases h with h | ⟨owner, hforeign, hmem⟩
  · exact .inl h
  · exact .inr ⟨owner, hforeign, by rw [List.filterMap_append]; exact List.mem_append_left _ hmem⟩

/-- **A writer's call issues nothing but its element and what others'
refusals gave it.** A refusal of its own gives back what it issued before. -/
theorem origin (h : Account .writer ticket element deeds s) :
    (∀ a ∈ deeds.filterMap Deed.accepted?, Origin ticket element deeds a) ∧
      ∀ b, s = .owing b → Origin ticket element deeds b := by
  induction h with
  | began =>
    refine ⟨fun a ha => absurd ha List.not_mem_nil, fun b hb => .inl ?_⟩
    exact (Standing.owing.inj hb).symm
  | @accepted deeds buffer h ih =>
    refine ⟨fun a ha => ?_, fun b hb => Standing.noConfusion hb⟩
    rw [List.filterMap_append] at ha
    rcases List.mem_append.1 ha with ha | ha
    · exact (ih.1 a ha).append _
    · rw [List.mem_singleton.1 ha]
      exact (ih.2 buffer rfl).append _
  | @collected deeds owner t h own ih =>
    have hissued : ∀ a ∈ (deeds ++ .collected (some ticket) owner t ::
        Call.outcome (some ticket) t).filterMap Deed.accepted?,
        a ∈ deeds.filterMap Deed.accepted? := by
      intro a ha
      rw [List.filterMap_append, List.filterMap_cons,
        Call.filterMap_outcome fun _ => rfl] at ha
      rcases List.mem_append.1 ha with ha | ha
      · exact ha
      · exact absurd ha List.not_mem_nil
    refine ⟨fun a ha => (ih.1 a (hissued a ha)).append _, fun b hb => ?_⟩
    cases htrans : t.transferred with
    | true =>
      rw [Call.standingAfter_of_crossed htrans] at hb
      exact Standing.noConfusion hb
    | false =>
      rw [Call.standingAfter_of_refused htrans] at hb
      rw [← Standing.owing.inj hb]
      -- Its own refusal gives back what it issued, and that has an origin already.
      by_cases hown : owner = some ticket
      · have hmine : t.buffer ∈ deeds.filterMap Deed.accepted? :=
          List.mem_filterMap.2 ⟨_, own rfl hown, rfl⟩
        exact (ih.1 _ hmine).append _
      · refine .inr ⟨owner, hown, ?_⟩
        rw [List.filterMap_append]
        refine List.mem_append_right _ (List.mem_filterMap.2 ⟨_, List.mem_cons_self .., ?_⟩)
        simp only [Deed.refused?, htrans, Bool.false_eq_true, if_false]
  | @failed deeds s e h running ih =>
    refine ⟨fun a ha => ?_, fun b hb => Standing.noConfusion hb⟩
    rw [List.filterMap_append] at ha
    rcases List.mem_append.1 ha with ha | ha
    · exact (ih.1 a ha).append _
    · exact absurd ha List.not_mem_nil

end Account

end TwinRing
