import TwinRing.Proofs.Direction.Alone
import TwinRing.Proofs.Direction.Custody
/-!
# Lanes under way — what a writer's one caller pushes, and in what order

`pushes` is what the caller asked for: the element of every request in one
go that was accepted, and the element of every blocking call one of whose
requests was, once for the call, however often it tried. `puts` is what
the worker put into the ring. With one caller the second is a part of the
first, in the same order (`Ordered`): an element that is not put in yet is
the last that was pushed, for nothing is pushed before it is dealt with.
-/

namespace TwinRing

/-! ## Pushes and puts -/

/-- The element that the worker put into the ring. -/
def Deed.put : Deed → List Bytes
  | .served _ buffer attempt _ => if attempt.isMoved then [buffer] else []
  | _ => []

/-- The elements that the worker put into the ring, in order. -/
def puts (record : List Deed) : List Bytes := record.flatMap Deed.put

/-- The element that a caller pushed, after all that is on record before:
a blocking call pushes with the first of its requests that is accepted. -/
def Deed.push (before : List Deed) : Deed → List Bytes
  | .accepted none buffer => [buffer]
  | .accepted (some ticket) buffer => if before.any (Deed.issues ticket) then [] else [buffer]
  | _ => []

def pushesFrom (before : List Deed) : List Deed → List Bytes
  | [] => []
  | d :: rest => d.push before ++ pushesFrom (before ++ [d]) rest

/-- **The elements of the accepted pushes**, in the order of the calls. -/
def pushes (record : List Deed) : List Bytes := pushesFrom [] record

section Records

variable {record more : List Deed} {ticket : Nat} {caller owner : Option Nat}
variable {buffer after : Bytes} {attempt : Attempt}

theorem pushesFrom_append (before record more : List Deed) :
    pushesFrom before (record ++ more) =
      pushesFrom before record ++ pushesFrom (before ++ record) more := by
  induction record generalizing before with
  | nil => rw [List.append_nil]; rfl
  | cons d rest ih =>
    rw [List.cons_append, pushesFrom, ih, pushesFrom, List.append_assoc, List.append_assoc,
      List.singleton_append]

theorem pushesFrom_eq_nil (before : List Deed) (h : ∀ d ∈ more, d.accepted? = none) :
    pushesFrom before more = [] := by
  induction more generalizing before with
  | nil => rfl
  | cons d rest ih =>
    have hd := h d (List.mem_cons_self ..)
    have hpush : d.push before = [] := by
      cases d with
      | accepted caller buffer => cases hd
      | _ => rfl
    rw [pushesFrom, hpush, ih _ fun d' hd' => h d' (List.mem_cons_of_mem _ hd')]
    rfl

/-- Where nothing is accepted, nothing is pushed. -/
theorem pushes_append_of_none (h : ∀ d ∈ more, d.accepted? = none) :
    pushes (record ++ more) = pushes record := by
  rw [pushes, pushesFrom_append, pushesFrom_eq_nil _ h, List.append_nil]
  rfl

theorem puts_append_served :
    puts (record ++ [.served owner buffer attempt after]) =
      puts record ++ if attempt.isMoved then [buffer] else [] := by
  rw [puts, List.flatMap_append, List.flatMap_singleton]
  rfl

theorem issues_any_iff :
    record.any (Deed.issues ticket) = true ↔
      ∃ buffer, .accepted (some ticket) buffer ∈ record := by
  rw [List.any_eq_true]
  constructor
  · rintro ⟨d, hd, hissues⟩
    cases d with
    | accepted caller buffer =>
      rw [show caller = some ticket from beq_iff_eq.1 hissues] at hd
      exact ⟨buffer, hd⟩
    | _ => cases hissues
  · rintro ⟨buffer, hd⟩
    exact ⟨_, hd, beq_self_eq_true _⟩

end Records

namespace Exchange

variable {x y : Exchange} {ticket : Nat} {caller : Option Nat} {buffer : Bytes} {t : Transfer}

/-- Where nothing is served, nothing is put in. -/
theorem Quiet.puts (h : x.Quiet y) : puts y.record = puts x.record :=
  h.flatMap_eq fun d hd => by
    cases d with
    | served owner buffer attempt after => cases hd
    | _ => rfl

/-- **A request in one go is a push.** -/
theorem pushes_accepting_none :
    pushes (x.accepting none buffer).record = pushes x.record ++ [buffer] := by
  rw [accepting, ← List.append_assoc, pushes, pushesFrom_append]
  exact congrArg (· ++ [buffer])
    (pushes_append_of_none (Course.forall_mem_replacedDeeds fun _ => rfl))

/-- **A request of a blocking call is a push, if it is its first.** -/
theorem pushes_accepting_some (x : Exchange) (ticket : Nat) (buffer : Bytes) :
    pushes (x.accepting (some ticket) buffer).record =
      pushes x.record ++ if x.record.any (Deed.issues ticket) then [] else [buffer] := by
  have hany : (x.record ++ Course.replacedDeeds x.requester x.request).any (Deed.issues ticket) =
      x.record.any (Deed.issues ticket) := by
    have hfalse : (Course.replacedDeeds x.requester x.request).any (Deed.issues ticket) = false :=
      List.any_eq_false.2 (Course.forall_mem_replacedDeeds fun _ => Bool.false_ne_true)
    rw [List.any_append, hfalse, Bool.or_false]
  rw [accepting, ← List.append_assoc, pushes, pushesFrom_append,
    show pushesFrom [] (x.record ++ Course.replacedDeeds x.requester x.request) =
      pushes x.record from
        pushes_append_of_none (Course.forall_mem_replacedDeeds fun _ => rfl),
    pushesFrom, pushesFrom, List.append_nil, Deed.push, List.nil_append, hany]

theorem pushes_collecting : pushes (x.collecting caller t).record = pushes x.record := by
  refine pushes_append_of_none fun d hd => ?_
  rcases List.mem_cons.1 hd with rfl | hd
  · rfl
  · obtain ⟨ticket, -, -, rfl⟩ := Call.mem_outcome_iff.1 hd
    rfl

end Exchange

namespace Floor

variable {g : Geometry} {x y : Floor}

/-! ## Order -/

/-- **An element that was pushed and not put in**, and that may be yet. -/
inductive AtStake (x : Floor) (b : Bytes) : Prop
  /-- Its request waits in the slot. -/
  | waiting (h : x.exchange.request = .pending b)
  /-- The worker is on the way to the ring with it. -/
  | carried (h : x.exchange.hand = .carrying b)
  /-- The worker is back with it. -/
  | returned (h : x.exchange.hand = .returning ⟨false, b⟩)
  /-- It is in the slot, refused. -/
  | refused (h : x.exchange.request = .finished ⟨false, b⟩)
  /-- A call is to issue it again. -/
  | owed (ticket : Nat) (owes : x.standing? ticket = some (.owing b)) (issued : x.Issued ticket)

section AtStake

variable {standing? : Nat → Option Standing} {ring : Object} {caller : Option Nat}
variable {buffer b : Bytes} {t : Transfer} {d : Deed}

/-- With a request in the slot nothing else is on its way. -/
theorem atStake_accepting (hhand : x.exchange.hand = .free)
    (h : AtStake ⟨x.exchange.accepting caller buffer, standing?, ring⟩ b) :
    b = buffer ∨ ∃ ticket, standing? ticket = some (.owing b) := by
  cases h with
  | waiting hpending => exact .inl (Request.pending.inj hpending).symm
  | carried hcarries => exact absurd (hhand.symm.trans hcarries) Hand.noConfusion
  | returned hreturning => exact absurd (hhand.symm.trans hreturning) Hand.noConfusion
  | refused hfinished => cases hfinished
  | owed ticket owes issued => exact .inr ⟨ticket, owes⟩

theorem atStake_collecting (h : AtStake ⟨x.exchange.collecting caller t, standing?, ring⟩ b) :
    x.AtStake b ∨ ∃ ticket, standing? ticket = some (.owing b) := by
  cases h with
  | waiting hpending => cases hpending
  | carried hcarries => exact .inl (.carried hcarries)
  | returned hreturning => exact .inl (.returned hreturning)
  | refused hrefused => cases hrefused
  | owed ticket owes issued => exact .inr ⟨ticket, owes⟩

theorem atStake_noting (hd : d.accepted? = none)
    (h : AtStake ⟨x.exchange.noting d, standing?, ring⟩ b) :
    x.AtStake b ∨ ∃ ticket, standing? ticket = some (.owing b) ∧ x.Issued ticket := by
  cases h with
  | waiting hpending => exact .inl (.waiting hpending)
  | carried hcarries => exact .inl (.carried hcarries)
  | returned hreturning => exact .inl (.returned hreturning)
  | refused hrefused => exact .inl (.refused hrefused)
  | owed ticket owes issued =>
    obtain ⟨a, ha⟩ := issued
    rcases Exchange.mem_noting.1 ha with ha | rfl
    · exact .inr ⟨ticket, owes, a, ha⟩
    · cases hd

end AtStake

/-- **What is put in is part of what is pushed, in order.** -/
structure Ordered (x : Floor) : Prop where
  sublist : (puts x.exchange.record).Sublist (pushes x.exchange.record)
  /-- What is at stake is the last that was pushed. -/
  last : ∀ b, x.AtStake b →
    ∃ before, pushes x.exchange.record = before ++ [b] ∧ (puts x.exchange.record).Sublist before

namespace Ordered

/-- The next push goes behind all that was put in. -/
theorem push {b : Bytes} (h : x.Ordered)
    (hpushes : pushes y.exchange.record = pushes x.exchange.record ++ [b])
    (hputs : puts y.exchange.record = puts x.exchange.record)
    (hstake : ∀ b', y.AtStake b' → b' = b) : y.Ordered where
  sublist := by
    rw [hpushes, hputs]
    exact h.sublist.trans (List.sublist_append_left ..)
  last b' hb' := by
    rw [hstake b' hb', hpushes, hputs]
    exact ⟨_, rfl, h.sublist⟩

/-- Nothing is pushed, put in, or newly at stake. -/
theorem keep (h : x.Ordered) (hpushes : pushes y.exchange.record = pushes x.exchange.record)
    (hputs : puts y.exchange.record = puts x.exchange.record)
    (hstake : ∀ b, y.AtStake b → x.AtStake b) : y.Ordered where
  sublist := by
    rw [hpushes, hputs]
    exact h.sublist
  last b hb := by
    rw [hpushes, hputs]
    exact h.last b (hstake b hb)

/-- **At the ring the element that is at stake is put in, or stays so.** -/
theorem serve {buffer after : Bytes} {attempt : Attempt} {ring : Object} (h : x.Ordered)
    (halone : x.Alone) (hcarrying : x.exchange.hand = .carrying buffer)
    (hafter : after = buffer) :
    Ordered { x with exchange := x.exchange.serving buffer attempt after, ring } := by
  have hservicing : x.exchange.request = .servicing :=
    halone.serviced.servicing_iff.2 (by simp [hcarrying])
  have hpushes : pushes (x.exchange.serving buffer attempt after).record =
      pushes x.exchange.record := pushes_append_of_none (by simp [Deed.accepted?])
  have hputs : puts (x.exchange.serving buffer attempt after).record =
      puts x.exchange.record ++ if attempt.isMoved then [buffer] else [] := puts_append_served
  obtain ⟨before, hlast, hsublist⟩ := h.last buffer (.carried hcarrying)
  refine ⟨?_, fun b hb => ?_⟩
  · dsimp only
    rw [hpushes, hputs, hlast]
    split
    · exact hsublist.append_right _
    · rw [List.append_nil]
      exact hsublist.trans (List.sublist_append_left ..)
  · -- only a refused element is still at stake, and it was the last before
    cases hb with
    | waiting hpending => exact absurd (hservicing.symm.trans hpending) Request.noConfusion
    | carried hcarries => cases hcarries
    | refused hfinished => exact absurd (hservicing.symm.trans hfinished) Request.noConfusion
    | owed ticket owes issued =>
      have hissued : x.Issued ticket := by
        obtain ⟨a, ha⟩ := issued
        exact ⟨a, by simpa [Exchange.serving] using ha⟩
      have hfree := (halone.between ticket b owes hissued).2
      rw [hcarrying] at hfree
      cases hfree
    | returned hreturning =>
      obtain ⟨hnot, hback⟩ := Transfer.mk.inj (Hand.returning.inj hreturning)
      dsimp only
      rw [hpushes, hputs, hlast, hnot, ← hback, hafter]
      exact ⟨before, rfl, by simpa using hsublist⟩

/-- **A request of a blocking call** is a push, or the element is at stake
as it was. -/
theorem issueFor {acting : Nat} {buffer : Bytes} (h : x.Ordered) (halone : x.Alone)
    (owes : x.standing? acting = some (.owing buffer))
    (free : x.exchange.request.isOutstanding = false) :
    Ordered { x with
      exchange := x.exchange.accepting (some acting) buffer
      standing? := x.stood acting .waiting } := by
  have hhand := (halone.serviced.of_free free).1
  have hstake : ∀ b, AtStake { x with
      exchange := x.exchange.accepting (some acting) buffer
      standing? := x.stood acting .waiting } b → b = buffer := by
    intro b hb
    rcases atStake_accepting hhand hb with hsame | ⟨ticket, owes'⟩
    · exact hsame
    · rcases stood_cases owes' with ⟨-, hs⟩ | ⟨hsame, owes'⟩
      · cases hs
      · exact absurd (halone.single _ _ (runs_of_owing owes') (runs_of_owing owes)) hsame
  have hpushes := x.exchange.pushes_accepting_some acting buffer
  cases hissued : x.exchange.record.any (Deed.issues acting) with
  | false =>
    rw [hissued] at hpushes
    exact h.push hpushes Exchange.quiet_accepting.puts hstake
  | true =>
    -- issued again, it is at stake as it was
    rw [hissued, if_pos rfl, List.append_nil] at hpushes
    refine h.keep hpushes Exchange.quiet_accepting.puts fun b hb => ?_
    rw [hstake b hb]
    exact .owed acting owes (issues_any_iff.1 hissued)

/-- **Every step keeps the order.** -/
theorem step (hstep : x.Step g y) (halone : x.Alone) (h : x.Ordered) : y.Ordered := by
  cases hstep with
  | still => exact h
  | issue buffer idle free kept =>
    have hhand := (halone.serviced.of_free free).1
    refine h.push Exchange.pushes_accepting_none Exchange.quiet_accepting.puts fun b hb => ?_
    rcases atStake_accepting hhand hb with hsame | ⟨ticket, owes⟩
    · exact hsame
    · exact absurd (runs_of_owing owes) idle.not_runs
  | take result idle hfinished =>
    refine h.keep Exchange.pushes_collecting Exchange.quiet_collecting.puts fun b hb => ?_
    rcases atStake_collecting hb with hstake | ⟨ticket, owes⟩
    · exact hstake
    · exact absurd (runs_of_owing owes) idle.not_runs
  | start acting element idle new silent =>
    refine h.keep (pushes_append_of_none (by simp [Deed.accepted?]))
      (Exchange.quiet_noting rfl).puts fun b hb => ?_
    rcases atStake_noting rfl hb with hstake | ⟨ticket, owes, a, ha⟩
    · exact hstake
    · -- the new call has issued nothing, and no other is under way
      rcases stood_cases owes with ⟨hsame, -⟩ | ⟨-, owes⟩
      · exact absurd (congrArg some hsame) (caller_ne_of_silent silent ha)
      · exact absurd (runs_of_owing owes) idle.not_runs
  | issueFor acting buffer owes free kept => exact h.issueFor halone owes free
  | takeFor acting result waits hfinished =>
    refine h.keep Exchange.pushes_collecting Exchange.quiet_collecting.puts fun b hb => ?_
    rcases atStake_collecting hb with hstake | ⟨ticket, owes⟩
    · exact hstake
    · rcases stood_cases owes with ⟨-, hs⟩ | ⟨hsame, owes⟩
      · refine .refused (hfinished.trans ?_)
        obtain ⟨transferred, back⟩ := result
        cases transferred with
        | true => cases hs
        | false => cases hs; rfl
      · exact absurd (halone.single _ _ (runs_of_owing owes) (runs_of_waiting waits)) hsame
  | fail acting e s stands running =>
    refine h.keep (pushes_append_of_none (by simp [Deed.accepted?]))
      (Exchange.quiet_noting rfl).puts fun b hb => ?_
    rcases atStake_noting rfl hb with hstake | ⟨ticket, owes, -⟩
    · exact hstake
    · rcases stood_cases owes with ⟨-, hs⟩ | ⟨hsame, owes⟩
      · cases hs
      · exact absurd (halone.single _ _ (runs_of_owing owes) ⟨s, stands, running⟩) hsame
  | pickUp buffer hpending free =>
    refine h.keep rfl rfl fun b hb => ?_
    cases hb with
    | waiting hnone => cases hnone
    | carried hcarries => exact .waiting (Hand.carrying.inj hcarries ▸ hpending)
    | returned hreturning => cases hreturning
    | refused hrefused => cases hrefused
    | owed ticket owes issued => exact .owed ticket owes issued
  | serve buffer hcarrying attempt after ring served =>
    exact h.serve halone hcarrying (after_of_writer halone.role served)
  | publish result hreturning =>
    refine h.keep rfl rfl fun b hb => ?_
    cases hb with
    | waiting hpending => cases hpending
    | carried hcarries => cases hcarries
    | returned hback => cases hback
    | refused hrefused => exact .returned (Request.finished.inj hrefused ▸ hreturning)
    | owed ticket owes issued => exact .owed ticket owes issued

end Ordered

end Floor

end TwinRing
