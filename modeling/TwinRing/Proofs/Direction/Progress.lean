import TwinRing.Proofs.Direction.Exchange
/-!
# Lanes under way — the standing of one call

`Exchange.Step` follows slot and hand and does not see which call does
what. Here the lane is looked at from one ticket: how the call that has it
stands, and what it did so far. A turn leaves both alone, or starts the
call, or is one of its moves; `progress` says so for every turn and every
ticket at once.
-/

namespace TwinRing

/-- The ticket of the call that did it. -/
def Deed.caller : Deed → Option Nat
  | .began ticket _ => some ticket
  | .accepted caller _ => caller
  | .collected caller _ _ => caller
  | .returned ticket _ => some ticket
  | .replaced _ _ => none
  | .served _ _ _ _ => none

/-- What the call with a ticket did. -/
def deedsOf (ticket : Nat) (record : List Deed) : List Deed :=
  record.filter fun d => d.caller == some ticket

section DeedsOf

variable {ticket : Nat} {record deeds : List Deed} {d : Deed}

@[simp] theorem deedsOf_append :
    deedsOf ticket (record ++ deeds) = deedsOf ticket record ++ deedsOf ticket deeds :=
  List.filter_append ..

theorem mem_deedsOf : d ∈ deedsOf ticket record ↔ d ∈ record ∧ d.caller = some ticket := by
  rw [deedsOf, List.mem_filter, beq_iff_eq]

theorem deedsOf_eq_nil (h : ∀ d ∈ deeds, d.caller ≠ some ticket) : deedsOf ticket deeds = [] :=
  List.filter_eq_nil_iff.2 fun d hd hcaller => h d hd (beq_iff_eq.1 hcaller)

theorem deedsOf_eq_self (h : ∀ d ∈ deeds, d.caller = some ticket) :
    deedsOf ticket deeds = deeds :=
  List.filter_eq_self.2 fun d hd => beq_iff_eq.2 (h d hd)

theorem caller_ne_of_eq_none (h : d.caller = none) : d.caller ≠ some ticket := by
  rw [h]
  exact (Option.some_ne_none ticket).symm

/-- Who replaces a result is not known by what is noted of it. -/
theorem caller_replacedDeeds {requester : Option Nat} {request : Request}
    (h : d ∈ Course.replacedDeeds requester request) : d.caller = none := by
  obtain ⟨t, -, rfl⟩ := Course.mem_replacedDeeds_iff.1 h
  rfl

theorem caller_outcome {t : Transfer} (h : d ∈ Call.outcome (some ticket) t) :
    d.caller = some ticket := by
  obtain ⟨_, hticket, -, rfl⟩ := Call.mem_outcome_iff.1 h
  exact hticket.symm

end DeedsOf

/-! ## Finding a call -/

section Finding

variable {ticket : Nat} {calls : List Call} {f : Call → Call}

/-- A change that keeps the tickets changes what is found, and not whether. -/
theorem find?_map_of_ticket (hf : ∀ k, (f k).ticket = k.ticket) :
    (calls.map f).find? (·.ticket == ticket) = (calls.find? (·.ticket == ticket)).map f := by
  rw [List.find?_map]
  have hsame : ((fun k : Call => k.ticket == ticket) ∘ f) = fun k => k.ticket == ticket := by
    funext k
    rw [Function.comp_apply, hf]
  rw [hsame]

end Finding

namespace Course

variable {c : Course} {ticket : Nat} {k : Call}

/-- How the call with a ticket stands, if there is one. -/
def standing? (c : Course) (ticket : Nat) : Option Standing := (c.call? ticket).map Call.standing

def nextTicket (c : Course) : Nat := c.lane.handshake.nextTicket

/-- **What a turn can be to the call with a ticket.** -/
inductive Progress (c : Course) (ticket : Nat) (c' : Course) : Prop
  | still (standing : c'.standing? ticket = c.standing? ticket)
      (deeds : deedsOf ticket c'.record = deedsOf ticket c.record)
  | began (element : Bytes) (fresh : ticket = c.nextTicket) (next : ticket < c'.nextTicket)
      (standing : c'.standing? ticket = some (.owing element))
      (deeds : c'.record = c.record ++ [.began ticket element])
  | moved (k : Call) (d : Direction) (s : Standing) (done : Option Nat × List Deed)
      (found : c.call? ticket = some k) (move : k.Move c.direction c.requester d s done)
      (standing : c'.standing? ticket = some s) (deeds : c'.record = c.record ++ done.2)

variable {c' : Course} {f : Call → Call} {deeds : List Deed}

/-- A call stands as it did where the calls were changed, but not how this
one stands. -/
theorem standing?_of_calls (hcalls : c'.lane.handshake.calls = c.lane.handshake.calls.map f)
    (hticket : ∀ k, (f k).ticket = k.ticket)
    (hstanding : ∀ k, k.ticket = ticket → (f k).standing = k.standing) :
    c'.standing? ticket = c.standing? ticket := by
  rw [standing?, standing?, call?, hcalls, find?_map_of_ticket hticket]
  cases hk : c.call? ticket with
  | none => rw [show c.lane.handshake.calls.find? (·.ticket == ticket) = none from hk]; rfl
  | some k =>
    rw [show c.lane.handshake.calls.find? (·.ticket == ticket) = some k from hk]
    exact congrArg some (hstanding k (ticket_of_call? hk))

/-- Calls were changed, but not how this one stands, and it did nothing. -/
theorem progress_of_calls (hcalls : c'.lane.handshake.calls = c.lane.handshake.calls.map f)
    (hticket : ∀ k, (f k).ticket = k.ticket)
    (hstanding : ∀ k, k.ticket = ticket → (f k).standing = k.standing)
    (hrecord : c'.record = c.record ++ deeds) (hnone : ∀ d ∈ deeds, d.caller ≠ some ticket) :
    c.Progress ticket c' := by
  refine .still (standing?_of_calls hcalls hticket hstanding) ?_
  rw [hrecord, deedsOf_append, deedsOf_eq_nil hnone, List.append_nil]

/-- No call was changed, and this one did nothing. -/
theorem progress_of_same (hcalls : c'.lane.handshake.calls = c.lane.handshake.calls)
    (hrecord : c'.record = c.record ++ deeds) (hnone : ∀ d ∈ deeds, d.caller ≠ some ticket) :
    c.Progress ticket c' :=
  progress_of_calls (f := id) (by rw [hcalls, List.map_id]) (fun _ => rfl) (fun _ _ => rfl)
    hrecord hnone

/-- One that acts in one go has no ticket. -/
theorem caller_submitDeeds {d : Direction} {requester : Option Nat} {buffer : Bytes} {deed : Deed}
    (h : deed ∈ (submitDeeds d requester none buffer).2) : deed.caller = none := by
  unfold submitDeeds at h
  split at h
  · rcases List.mem_append.1 h with h | h
    · exact caller_replacedDeeds h
    · rw [List.mem_singleton.1 h]; rfl
  · exact absurd h List.not_mem_nil

theorem caller_collectDeeds {d : Direction} {requester : Option Nat} {deed : Deed}
    (h : deed ∈ collectDeeds d requester none) : deed.caller = none := by
  unfold collectDeeds at h
  split at h
  · rw [List.mem_singleton.1 h]; rfl
  · exact absurd h List.not_mem_nil

theorem caller_workerDeeds {l : Lane} {s : Store} {requester : Option Nat} {deed : Deed}
    (h : deed ∈ workerDeeds l s requester) : deed.caller = none := by
  unfold workerDeeds at h
  split at h
  · rw [List.mem_singleton.1 h]; rfl
  · exact absurd h List.not_mem_nil

/-- The worker starts no call, and changes calls by its notice only. -/
theorem calls_workerStep (l : Lane) (s : Store) :
    (l.workerStep s).1.handshake.nextTicket = l.handshake.nextTicket ∧
      ((l.workerStep s).1.handshake.calls = l.handshake.calls ∨
        (l.workerStep s).1.handshake.calls = l.handshake.calls.map Call.noticed) := by
  obtain ⟨view, ⟨d, worker, calls, next⟩, events⟩ := l
  cases worker with
  | none => exact ⟨rfl, .inl rfl⟩
  | some w =>
    cases w with
    | looking =>
      simp only [Lane.workerStep, Lane.onHandshake, Handshake.workerStep]
      rcases d.pickUp with ⟨found, d'⟩
      cases found <;> exact ⟨rfl, .inl rfl⟩
    | asleep => exact ⟨rfl, .inl rfl⟩
    | serving buffer => exact ⟨rfl, .inl rfl⟩
    | publishing t => exact ⟨rfl, .inl rfl⟩
    | announcing => exact ⟨rfl, .inr rfl⟩
    | leaving => exact ⟨rfl, .inr rfl⟩
    | stopped => exact ⟨rfl, .inl rfl⟩

theorem progress_worker (c : Course) (ticket : Nat) : c.Progress ticket (c.turn .worker) := by
  have hnone : ∀ d ∈ workerDeeds c.lane c.store c.requester, d.caller ≠ some ticket :=
    fun d hd => caller_ne_of_eq_none (caller_workerDeeds hd)
  rcases (calls_workerStep c.lane c.store).2 with h | h
  · exact progress_of_same h rfl hnone
  · exact progress_of_calls h Call.ticket_noticed (fun k _ => k.standing_noticed) rfl hnone

theorem progress_submit (c : Course) (buffer : Bytes) (ticket : Nat) :
    c.Progress ticket (c.turn (.submit buffer)) := by
  have hnone : ∀ d ∈ (submitDeeds c.direction c.requester none buffer).2,
      d.caller ≠ some ticket := fun d hd => caller_ne_of_eq_none (caller_submitDeeds hd)
  refine progress_of_same ?_ rfl hnone
  simp only [turn, moved, Lane.onHandshake, Handshake.submit]
  split <;> rfl

theorem progress_collect (c : Course) (ticket : Nat) : c.Progress ticket (c.turn .collect) :=
  progress_of_same rfl rfl fun _ hd => caller_ne_of_eq_none (caller_collectDeeds hd)

/-- The call that starts owes its element; the others stand as they did. -/
theorem standing?_begin (hfresh : c.call? c.nextTicket = none) (element : Bytes)
    (policy : RetryPolicy) (ticket : Nat) :
    (c.turn (.begin element policy)).standing? ticket =
      if ticket = c.nextTicket then some (.owing element) else c.standing? ticket := by
  set new : Call := ⟨c.nextTicket, ⟨policy, 0⟩, .submitting element⟩ with hnew
  have hcalls : (c.turn (.begin element policy)).lane.handshake.calls =
      c.lane.handshake.calls ++ [new] := rfl
  -- The new call is at the end of the list, so it is found only if no other has its ticket.
  by_cases hticket : ticket = c.nextTicket
  · subst hticket
    have hnone : c.lane.handshake.calls.find? (·.ticket == c.nextTicket) = none := hfresh
    have hfound : [new].find? (·.ticket == c.nextTicket) = some new := by simp [hnew]
    rw [if_pos rfl, standing?, call?, hcalls, List.find?_append, hnone, Option.none_or, hfound]
    rfl
  · have hnone : [new].find? (·.ticket == ticket) = none := by
      simp only [List.find?_singleton, hnew, beq_iff_eq]
      exact if_neg fun h => hticket h.symm
    rw [if_neg hticket, standing?, standing?, call?, hcalls, List.find?_append, hnone,
      Option.or_none]
    rfl

/-- A call that starts gets a ticket that no call has. -/
theorem progress_begin (hfresh : c.call? c.nextTicket = none) (element : Bytes)
    (policy : RetryPolicy) (ticket : Nat) :
    c.Progress ticket (c.turn (.begin element policy)) := by
  have hstanding := standing?_begin hfresh element policy ticket
  by_cases hticket : ticket = c.nextTicket
  · rw [if_pos hticket] at hstanding
    subst hticket
    exact .began element rfl (Nat.lt_succ_self _) hstanding rfl
  · rw [if_neg hticket] at hstanding
    refine .still hstanding ?_
    have hdeeds : deedsOf ticket [Deed.began c.nextTicket element] = [] :=
      deedsOf_eq_nil fun d hd => by
        rw [List.mem_singleton.1 hd]
        exact fun h => hticket (Option.some.inj h).symm
    have hrecord : (c.turn (.begin element policy)).record =
        c.record ++ [.began c.nextTicket element] := rfl
    rw [hrecord, deedsOf_append, hdeeds, List.append_nil]

/-- What a call does is noted under its own ticket, if under any. -/
theorem caller_of_move {d d' : Direction} {requester : Option Nat} {s : Standing}
    {done : Option Nat × List Deed} (hmove : k.Move d requester d' s done) {deed : Deed}
    (h : deed ∈ done.2) : deed.caller = none ∨ deed.caller = some k.ticket := by
  cases hmove with
  | accepted buffer owes free kept =>
    rcases List.mem_append.1 h with h | h
    · exact .inl (caller_replacedDeeds h)
    · rw [List.mem_singleton.1 h]; exact .inr rfl
  | collected t waits hfinished =>
    rcases List.mem_cons.1 h with rfl | h
    · exact .inr rfl
    · exact .inr (caller_outcome h)
  | failed e running => rw [List.mem_singleton.1 h]; exact .inr rfl
  | still => exact absurd h List.not_mem_nil

theorem turn_call (hk : c.call? ticket = some k) :
    c.turn (.call ticket) =
      c.moved (c.lane.callStep ticket) (callDeeds c.direction c.requester k) := by
  simp only [turn, hk]

theorem calls_call (hk : c.call? ticket = some k) :
    (c.turn (.call ticket)).lane.handshake.calls = c.lane.handshake.calls.map
      fun other => if other.ticket = ticket then (k.step c.direction).2 else other := by
  have hfind : c.lane.handshake.calls.find? (·.ticket == ticket) = some k := hk
  rw [turn_call hk]
  simp only [moved, Lane.callStep, Lane.onHandshake, Handshake.callStep, hfind]
  cases k.phase <;> rfl

theorem ticket_changed (hk : c.call? ticket = some k) (other : Call) :
    (if other.ticket = ticket then (k.step c.direction).2 else other).ticket = other.ticket := by
  split
  · rename_i h
    rw [Call.ticket_step, ticket_of_call? hk, h]
  · rfl

theorem standing?_call (hk : c.call? ticket = some k) :
    (c.turn (.call ticket)).standing? ticket = some (k.step c.direction).2.standing := by
  have hfound : c.lane.handshake.calls.find? (·.ticket == ticket) = some k := hk
  rw [standing?, call?, calls_call hk, find?_map_of_ticket (ticket_changed hk), hfound,
    Option.map_some, Option.map_some, if_pos (ticket_of_call? hk)]

theorem progress_call {acting : Nat} (hk : c.call? acting = some k) (ticket : Nat) :
    c.Progress ticket (c.turn (.call acting)) := by
  have hmove := k.moves c.direction c.requester
  by_cases hsame : ticket = acting
  · subst hsame
    exact .moved k _ _ _ hk hmove (standing?_call hk) (by rw [turn_call hk]; rfl)
  · refine progress_of_calls (calls_call hk) (ticket_changed hk) (fun other h => ?_)
      (by rw [turn_call hk]; rfl) fun d hd => ?_
    · rw [if_neg fun h' => hsame (h.symm.trans h')]
    · rcases caller_of_move hmove hd with h | h
      · exact caller_ne_of_eq_none h
      · rw [h, ticket_of_call? hk]
        exact fun h' => hsame (Option.some.inj h').symm

/-- **A turn leaves a call alone, starts it, or is one of its moves.** -/
theorem progress (hfresh : c.call? c.nextTicket = none) (t : Turn) (ticket : Nat) :
    c.Progress ticket (c.turn t) := by
  have hnil : ∀ d ∈ ([] : List Deed), d.caller ≠ some ticket := fun _ h => absurd h List.not_mem_nil
  cases t with
  | spawn =>
    rcases c.turn_spawn with ⟨-, hturn⟩ | ⟨-, hturn⟩ <;> rw [hturn]
    · exact progress_of_same rfl (List.append_nil _).symm hnil
    · exact .still rfl rfl
  | submit buffer => exact c.progress_submit buffer ticket
  | collect => exact c.progress_collect ticket
  | shutDown =>
    exact progress_of_calls rfl Call.ticket_noticed (fun k _ => k.standing_noticed)
      (List.append_nil _).symm hnil
  | begin element policy => exact progress_begin hfresh element policy ticket
  | call acting =>
    cases hk : c.call? acting with
    | none =>
      have hturn : c.turn (.call acting) = c := by simp only [turn, hk]
      rw [hturn]
      exact .still rfl rfl
    | some k => exact progress_call hk ticket
  | rouse roused =>
    refine progress_of_calls rfl (fun k => ?_) (fun k _ => ?_) (List.append_nil _).symm hnil
    · split
      · exact k.ticket_noticed
      · rfl
    · split
      · exact k.standing_noticed
      · rfl
  | worker => exact c.progress_worker ticket
  | rouseWorker => exact progress_of_same rfl (List.append_nil _).symm hnil
  | others s => exact progress_of_same rfl (List.append_nil _).symm hnil

end Course

end TwinRing
