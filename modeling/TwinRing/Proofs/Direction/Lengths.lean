import TwinRing.Proofs.Direction.Floor
import TwinRing.Proofs.Direction.Acts
/-!
# Lanes under way — the length of every buffer

A direction looks at the length of a buffer once, when a request is issued.
From there the buffer goes from the slot to the worker, to the ring, back
into the slot, and to whoever collects it, and may be issued again by a
caller that it was not meant for. `Exchange.Fits` says that it has the
length of an element at each of these places, so the one look is enough:
the ring never finds a buffer of another length, and a retry is never
refused for its length. A call of the wrong length fails at its first step
and has had nothing accepted.
-/

namespace TwinRing

/-! ## What the sections say of lengths -/

namespace Direction

variable {d : Direction} {buffer : Bytes}

/-- The error that names two lengths is that of a buffer that has not the
length it should have. -/
theorem elementSize_of_submit_error {expected actual : Nat}
    (h : (d.submit buffer).1 = .error (.elementSize expected actual)) :
    expected = d.elementSize.toNat ∧ actual = buffer.length ∧ actual ≠ expected := by
  unfold submit at h
  by_cases hlength : buffer.length = d.elementSize.toNat
  · rw [if_neg (not_not.2 hlength)] at h
    split at h
    · cases h
    · split at h
      · cases h
      · split at h <;> cases h
  · rw [if_pos hlength] at h
    cases h
    exact ⟨rfl, rfl, hlength⟩

end Direction

namespace Call

variable {d : Direction} {k : Call} {requester caller : Option Nat} {buffer : Bytes}

/-- What a call has accepted has the length of an element. -/
theorem length_of_accepted
    (h : .accepted caller buffer ∈ (Course.callDeeds d requester k).2) :
    buffer.length = d.elementSize.toNat := by
  have hmove := k.moves d requester
  generalize hd : (k.step d).1 = d' at hmove
  generalize hs : (k.step d).2.standing = s at hmove
  generalize hdone : Course.callDeeds d requester k = done at hmove h
  cases hmove with
  | accepted b owes free kept =>
    -- only the section of a request leads here, so it was accepted there
    obtain ⟨ticket, retrier, phase⟩ := k
    have hb : buffer = b := by
      rcases List.mem_append.1 h with h | h
      · obtain ⟨t, -, hreplaced⟩ := Course.mem_replacedDeeds_iff.1 h
        cases hreplaced
      · cases List.mem_singleton.1 h
        rfl
    cases phase with
    | submitting b' =>
      obtain rfl : b' = b := Standing.owing.inj owes
      rcases d.submit_cases b' with ⟨e, he⟩ | ⟨hlength, -⟩
      · simp only [step, he] at hs
        cases hs
      · rw [hb, hlength]
    | pausing b' delay =>
      simp only [step] at hs
      split at hs <;> cases hs
    | roused b' =>
      simp only [step] at hs
      split at hs <;> cases hs
    | napping b' delay => cases hs
    | calling => cases owes
    | checking => cases owes
    | asleep => cases owes
    | returned r => cases owes
  | collected t waits hfinished =>
    rcases List.mem_cons.1 h with h | h
    · cases h
    · obtain ⟨ticket, -, -, hreturn⟩ := mem_outcome_iff.1 h
      cases hreturn
  | failed e running => cases List.mem_singleton.1 h
  | still => cases h

/-- A call that fails for a length was about to issue a buffer of that
length. -/
theorem owing_of_elementSize {expected actual : Nat}
    (h : (k.step d).2.standing = .ended (.error (.elementSize expected actual)))
    (running : k.standing.isRunning = true) :
    ∃ buffer, k.standing = .owing buffer ∧ expected = d.elementSize.toNat ∧
      actual = buffer.length ∧ actual ≠ expected := by
  obtain ⟨ticket, retrier, phase⟩ := k
  cases phase with
  | submitting buffer =>
    refine ⟨buffer, rfl, Direction.elementSize_of_submit_error ?_⟩
    rcases hsubmit : d.submit buffer with ⟨e | _, d'⟩
    · simp only [step, hsubmit] at h
      cases h
      rfl
    · simp only [step, hsubmit] at h
      cases h
  | checking =>
    rcases d.takeFinished_cases with ⟨t, -, htake⟩ | hnone
    · simp only [step, htake, standing_collected, standingAfter] at h
      split at h <;> cases h
    · simp only [step, hnone] at h
      split at h <;> cases h
  | pausing buffer delay => simp only [step] at h; split at h <;> cases h
  | roused buffer => simp only [step] at h; split at h <;> cases h
  | calling => cases h
  | asleep => cases h
  | napping buffer delay => cases h
  | returned result => cases running

end Call

/-! ## Slot, hand and record -/

/-- What a deed says of lengths. -/
def Deed.Fits (n : Nat) : Deed → Prop
  | .began _ _ => True
  | .accepted _ buffer => buffer.length = n
  | .replaced _ result => result.buffer.length = n
  | .served _ buffer attempt after =>
    buffer.length = n ∧ attempt ≠ .wrongLength ∧ after.length = n
  | .collected _ _ result => result.buffer.length = n
  | .returned _ result => ∀ element, result = .ok element → element.length = n

namespace Exchange

/-- **Every buffer has the length of an element**, wherever it is and
wherever it was. -/
structure Fits (n : Nat) (x : Exchange) : Prop where
  slot : ∀ buffer, x.request.buffer? = some buffer → buffer.length = n
  hand : ∀ buffer, x.hand.buffer? = some buffer → buffer.length = n
  deeds : ∀ d ∈ x.record, d.Fits n

namespace Fits

variable {n : Nat} {x y : Exchange} {deeds : List Deed} {caller : Option Nat} {buffer : Bytes}
variable {t : Transfer} {attempt : Attempt} {after : Bytes}

theorem of_slot (h : x.Fits n) (hrequest : x.request = .finished t) : t.buffer.length = n :=
  h.slot t.buffer (by rw [hrequest]; rfl)

theorem noted (h : x.Fits n) (hdeeds : ∀ d ∈ deeds, d.Fits n) :
    { x with record := x.record ++ deeds }.Fits n :=
  ⟨h.slot, h.hand, List.forall_mem_append.2 ⟨h.deeds, hdeeds⟩⟩

theorem accepting (h : x.Fits n) (hb : buffer.length = n) : (x.accepting caller buffer).Fits n := by
  have hreplaced : ∀ d ∈ Course.replacedDeeds x.requester x.request, d.Fits n := by
    intro d hd
    obtain ⟨t, hrequest, rfl⟩ := Course.mem_replacedDeeds_iff.1 hd
    exact h.of_slot hrequest
  refine ⟨fun b hslot => ?_, h.hand, List.forall_mem_append.2 ⟨h.deeds,
    List.forall_mem_append.2 ⟨hreplaced, List.forall_mem_singleton.2 hb⟩⟩⟩
  cases hslot
  exact hb

theorem collecting (h : x.Fits n) (hrequest : x.request = .finished t) :
    (x.collecting caller t).Fits n := by
  have ht := h.of_slot hrequest
  have houtcome : ∀ d ∈ Call.outcome caller t, d.Fits n :=
    Call.forall_mem_outcome fun _ element hok => Except.ok.inj hok ▸ ht
  exact ⟨fun b hslot => (by cases hslot), h.hand,
    List.forall_mem_append.2 ⟨h.deeds, List.forall_mem_cons.2 ⟨ht, houtcome⟩⟩⟩

theorem pickedUp (h : x.Fits n) (hrequest : x.request = .pending buffer) :
    { x with request := .servicing, hand := .carrying buffer }.Fits n :=
  ⟨fun b hslot => (by cases hslot),
    fun b hhand => (by cases hhand; exact h.slot buffer (by rw [hrequest]; rfl)), h.deeds⟩

theorem serving (h : x.Fits n) (hb : buffer.length = n) (hattempt : attempt ≠ .wrongLength)
    (hafter : after.length = n) : (x.serving buffer attempt after).Fits n := by
  refine ⟨h.slot, fun b hhand => ?_, List.forall_mem_append.2 ⟨h.deeds,
    List.forall_mem_singleton.2 ⟨hb, hattempt, hafter⟩⟩⟩
  cases hhand
  exact hafter

theorem published (h : x.Fits n) (hhand : x.hand = .returning t) :
    { x with request := .finished t, hand := .free }.Fits n :=
  ⟨fun b hslot => (by cases hslot; exact h.hand t.buffer (by rw [hhand]; rfl)),
    fun b hfree => (by cases hfree), h.deeds⟩

end Fits

end Exchange

/-- A ring that is given a buffer of its length does not complain of it. -/
theorem Ring.serve_ne_wrongLength {role : Role} {g : Geometry} {buffer : Bytes} {o : Object}
    (hb : buffer.length = g.elementSize.toNat) : (serve role g buffer o).1 ≠ .wrongLength := by
  cases role with
  | writer =>
    simp only [serve, enqueue]
    rw [if_neg (not_not.2 hb)]
    split
    · exact Attempt.noConfusion
    · split <;> exact Attempt.noConfusion
  | reader =>
    simp only [serve, dequeue]
    rw [if_neg (not_not.2 hb)]
    split
    · exact Attempt.noConfusion
    · split <;> exact Attempt.noConfusion

/-! ## Every turn -/

namespace Course

variable {c : Course} {n : Nat}

/-- No turn changes how long an element is. -/
theorem elementSize_turn (c : Course) (t : Turn) :
    (c.turn t).direction.elementSize = c.direction.elementSize := by
  cases t with
  | spawn =>
    rcases c.turn_spawn with ⟨-, hturn⟩ | ⟨-, hturn⟩ <;> rw [hturn]
    rfl
  | submit buffer =>
    have hdirection : (c.turn (.submit buffer)).direction = (c.direction.submit buffer).2 := by
      simp only [turn, moved, direction, Lane.direction, Lane.onHandshake, Handshake.submit]
      split
      · rename_i hsubmit
        rw [hsubmit]
        rfl
      · rename_i hsubmit
        rw [hsubmit]
    rw [hdirection]
    rcases c.direction.submit_cases buffer with ⟨e, he⟩ | ⟨-, -, -, -, hok⟩
    · rw [he]
    · rw [hok]
  | collect =>
    have hdirection : (c.turn .collect).direction = c.direction.takeFinished.2 := rfl
    rw [hdirection]
    rcases c.direction.takeFinished_cases with ⟨t, -, htake⟩ | hnone
    · rw [htake]
    · rw [hnone]
  | call ticket =>
    cases hk : c.call? ticket with
    | none => simp only [turn, hk]
    | some k =>
      rw [turn_call hk]
      exact (congrArg Direction.elementSize (callStep_of_call? hk).1).trans
        (k.elementSize_step c.direction)
  | worker =>
    have hlane : (c.lane.workerStep c.store).1.direction.elementSize =
        c.direction.elementSize := by
      unfold Lane.workerStep
      split
      · rfl
      · exact c.lane.handshake.elementSize_workerStep
      · exact c.lane.handshake.elementSize_workerStep
    exact hlane
  | shutDown => rfl
  | begin element policy => rfl
  | rouse ticket => rfl
  | rouseWorker => rfl
  | others s => rfl

/-- A request of the wrong length changes nothing. -/
theorem exchange_submit_of_length_ne {buffer : Bytes}
    (h : buffer.length ≠ c.direction.elementSize.toNat) :
    (c.turn (.submit buffer)).exchange = c.exchange := by
  have hsubmit : c.lane.handshake.direction.submit buffer =
      (.error (.elementSize c.direction.elementSize.toNat buffer.length), c.direction) := if_pos h
  have hdeeds : submitDeeds c.direction c.requester none buffer = (c.requester, []) := by
    simp only [submitDeeds, show c.direction.submit buffer = _ from hsubmit]
  simp only [turn, moved, hdeeds, Lane.onHandshake, Handshake.submit, hsubmit, List.append_nil]
  exact exchange_of_eq rfl rfl rfl rfl rfl

section Turns

variable (h : c.exchange.Fits n) (hsize : c.direction.elementSize.toNat = n)
variable (hgeometry : c.lane.view.geometry.elementSize.toNat = n)

include h hsize in
theorem fits_call {ticket : Nat} {k : Call} (hk : c.call? ticket = some k) :
    (c.turn (.call ticket)).exchange.Fits n := by
  rw [exchange_call hk]
  have haccepted : ∀ caller buffer,
      .accepted caller buffer ∈ (callDeeds c.direction c.requester k).2 → buffer.length = n :=
    fun caller buffer hd => (k.length_of_accepted hd).trans hsize
  have hmove := k.moves c.direction c.requester
  generalize (k.step c.direction).1 = d at hmove ⊢
  generalize (k.step c.direction).2.standing = s at hmove
  generalize callDeeds c.direction c.requester k = done at hmove haccepted ⊢
  cases hmove with
  | accepted buffer owes free kept =>
    exact h.accepting (haccepted _ buffer (List.mem_append_right _ (List.mem_singleton_self _)))
  | collected t waits ht => exact h.collecting ht
  | failed e running =>
    exact h.noted (List.forall_mem_singleton.2 fun element hok => nomatch hok)
  | still => exact h.noted fun d hd => absurd hd List.not_mem_nil

include h hgeometry in
theorem fits_worker : (c.turn .worker).exchange.Fits n := by
  by_cases hserving : ∃ buffer, c.worker = some (.serving buffer)
  · obtain ⟨buffer, hw⟩ := hserving
    have hb : buffer.length = n := h.hand buffer (by rw [exchange, hw]; rfl)
    rw [exchange_worker_of_serving hw]
    refine h.serving hb (Ring.serve_ne_wrongLength (hb.trans hgeometry.symm)) ?_
    rw [Vigil.length_serve, hb]
  · rcases c.exchange_worker_cases fun buffer hw => hserving ⟨buffer, hw⟩ with
      ⟨buffer, hpending, -, hnext⟩ | ⟨t, hreturning, hnext⟩ | hsame
    · rw [hnext]
      exact h.pickedUp hpending
    · rw [hnext]
      exact h.published hreturning
    · rw [hsame]
      exact h

include h hsize hgeometry in
/-- **Every turn keeps every buffer at the length of an element.** -/
theorem fits_turn (t : Turn) : (c.turn t).exchange.Fits n := by
  cases t with
  | spawn => rw [exchange_spawn]; exact h
  | submit buffer =>
    by_cases hlength : buffer.length = n
    · rcases c.exchange_submit_cases buffer with hsame | ⟨-, -, haccepted⟩
      · rw [hsame]; exact h
      · rw [haccepted]; exact h.accepting hlength
    · rw [exchange_submit_of_length_ne (hsize ▸ hlength)]
      exact h
  | collect =>
    rcases c.exchange_collect_cases with hsame | ⟨t, ht, hcollected⟩
    · rw [hsame]; exact h
    · rw [hcollected]
      exact h.collecting ht
  | call ticket =>
    cases hk : c.call? ticket with
    | none =>
      have hturn : c.turn (.call ticket) = c := by simp only [turn, hk]
      rw [hturn]
      exact h
    | some k => exact fits_call h hsize hk
  | worker => exact fits_worker h hgeometry
  | begin element policy => exact h.noted (List.forall_mem_singleton.2 trivial)
  | shutDown =>
    have hsame : (c.turn .shutDown).exchange = c.exchange :=
      exchange_of_eq rfl rfl (handOf_map_noticed _) rfl rfl
    rw [hsame]
    exact h
  | rouse ticket => exact h
  | rouseWorker =>
    have hsame : (c.turn .rouseWorker).exchange = c.exchange :=
      exchange_of_eq rfl rfl (handOf_map_noticed _) rfl rfl
    rw [hsame]
    exact h
  | others s => exact h

end Turns

/-! ## What becomes of a call -/

/-- The deeds of a turn that have a call return with an error are those of
a call's step. -/
theorem mem_of_returned_error {t : Turn} {ticket : Nat} {e : ChannelError}
    (h : .returned ticket (.error e) ∈ (c.turn t).record) :
    .returned ticket (.error e) ∈ c.record ∨
      ∃ k, c.call? ticket = some k ∧ k.standing.isRunning = true ∧
        (k.step c.direction).2.standing = .ended (.error e) := by
  cases t with
  | call acting =>
    cases hk : c.call? acting with
    | none =>
      simp only [turn, hk] at h
      exact .inl h
    | some k =>
      rw [turn_call hk] at h
      refine (List.mem_append.1 h).imp_right fun hdone => ?_
      have hmove := k.moves c.direction c.requester
      generalize hs : (k.step c.direction).2.standing = s at hmove
      generalize hd : (k.step c.direction).1 = d at hmove
      generalize callDeeds c.direction c.requester k = done at hmove hdone
      cases hmove with
      | accepted buffer owes free kept =>
        rcases List.mem_append.1 hdone with hdone | hdone
        · exact absurd (caller_replacedDeeds hdone) (Option.some_ne_none _)
        · cases List.mem_singleton.1 hdone
      | collected t waits ht =>
        rcases List.mem_cons.1 hdone with hdone | hdone
        · cases hdone
        · obtain ⟨taker, -, -, hreturn⟩ := Call.mem_outcome_iff.1 hdone
          cases hreturn
      | failed e' running =>
        cases List.mem_singleton.1 hdone
        have hticket := ticket_of_call? hk
        exact ⟨k, hticket ▸ hk, Standing.isRunning_iff.2 running, hs⟩
      | still => cases hdone
  | submit buffer =>
    refine .inl ((List.mem_append.1 h).resolve_right fun hdone => ?_)
    exact absurd (caller_submitDeeds hdone) (Option.some_ne_none _)
  | collect =>
    refine .inl ((List.mem_append.1 h).resolve_right fun hdone => ?_)
    exact absurd (caller_collectDeeds hdone) (Option.some_ne_none _)
  | worker =>
    refine .inl ((List.mem_append.1 h).resolve_right fun hdone => ?_)
    exact absurd (caller_workerDeeds hdone) (Option.some_ne_none _)
  | begin element policy =>
    refine .inl ((List.mem_append.1 h).resolve_right fun hdone => ?_)
    cases List.mem_singleton.1 hdone
  | spawn =>
    have hrecord : (c.turn .spawn).record = c.record :=
      congrArg Exchange.record c.exchange_spawn
    exact .inl (hrecord ▸ h)
  | shutDown => exact .inl h
  | rouse ticket => exact .inl h
  | rouseWorker => exact .inl h
  | others s => exact .inl h

end Course

namespace Account

variable {role : Role} {ticket n : Nat} {element : Bytes} {deeds : List Deed} {s : Standing}

/-- Every account starts where its call does. -/
theorem began_mem (h : Account role ticket element deeds s) : .began ticket element ∈ deeds := by
  induction h with
  | began => exact List.mem_singleton_self _
  | accepted h ih => exact List.mem_append_left _ ih
  | collected owner t h own ih => exact List.mem_append_left _ ih
  | failed e h running ih => exact List.mem_append_left _ ih

/-- **A call of the wrong length gets nowhere.** It has only begun, or it
has failed at once. -/
theorem fate (h : Account role ticket element deeds s) (hfits : ∀ d ∈ deeds, d.Fits n) :
    element.length = n ∨ (deeds = [.began ticket element] ∧ s = .owing element) ∨
      ∃ e, deeds = [.began ticket element, .returned ticket (.error e)] ∧
        s = .ended (.error e) := by
  induction h with
  | began => exact .inr (.inl ⟨rfl, rfl⟩)
  | @accepted deeds buffer h ih =>
    rcases ih (List.forall_mem_append.1 hfits).1 with ih | ⟨-, hs⟩ | ⟨e, -, hs⟩
    · exact .inl ih
    · cases hs
      exact .inl ((List.forall_mem_append.1 hfits).2 _ (List.mem_singleton_self _))
    · cases hs
  | collected owner t h own ih =>
    rcases ih (List.forall_mem_append.1 hfits).1 with ih | ⟨-, hs⟩ | ⟨e, -, hs⟩
    · exact .inl ih
    · cases hs
    · cases hs
  | failed e h running ih =>
    rcases ih (List.forall_mem_append.1 hfits).1 with ih | ⟨hdeeds, -⟩ | ⟨e', -, hs⟩
    · exact .inl ih
    · exact .inr (.inr ⟨e, by rw [hdeeds]; rfl, rfl⟩)
    · exact absurd hs (running _)

/-- What a call is to issue is what it began with, or what it collected. -/
theorem owing_cases {buffer : Bytes} (h : Account role ticket element deeds s)
    (hfits : ∀ d ∈ deeds, d.Fits n) (hs : s = .owing buffer) :
    buffer = element ∨ buffer.length = n := by
  cases h with
  | began => cases hs; exact .inl rfl
  | accepted h => cases hs
  | collected owner t h own =>
    unfold Call.standingAfter at hs
    split at hs
    · cases hs
    · cases hs
      have hcollected := (List.forall_mem_append.1 hfits).2
      exact .inr (hcollected _ List.mem_cons_self)
  | failed e h running => cases hs

end Account

namespace Course

variable {c : Course} {n : Nat}

/-- **A lane whose ring has elements of its own length**, with all that is
known of its buffers. -/
structure Measured (n : Nat) (c : Course) : Prop where
  size : c.direction.elementSize.toNat = n
  geometry : c.lane.view.geometry.elementSize.toNat = n
  accounted : c.Accounted
  fits : c.exchange.Fits n
  /-- A call that failed for a length began with that length. -/
  refusals : ∀ ticket expected actual,
    .returned ticket (.error (.elementSize expected actual)) ∈ c.record →
      ∃ element, .began ticket element ∈ c.record ∧ expected = n ∧ actual = element.length ∧
        actual ≠ n

namespace Measured

theorem start {view : View} {role : Role} {elementSize : UInt64} {s : Store}
    (hsize : elementSize.toNat = n) (hgeometry : view.geometry.elementSize.toNat = n) :
    (Course.start view role elementSize s).Measured n where
  size := hsize
  geometry := hgeometry
  accounted := accounted_run view role elementSize s []
  fits := ⟨fun b hb => (by cases hb), fun b hb => (by cases hb), fun d hd => (by cases hd)⟩
  refusals _ _ _ hd := by cases hd

variable (h : c.Measured n)
include h

theorem fits_deedsOf (ticket : Nat) : ∀ d ∈ deedsOf ticket c.record, d.Fits n :=
  fun d hd => h.fits.deeds d (mem_deedsOf.1 hd).1

theorem turn (t : Turn) : (c.turn t).Measured n where
  size := (congrArg UInt64.toNat (elementSize_turn c t)).trans h.size
  geometry := by rw [view_turn]; exact h.geometry
  accounted := h.accounted.turn t
  fits := fits_turn h.fits h.size h.geometry t
  refusals ticket expected actual hd := by
    have hgrows := (c.step_turn t).record_grows
    obtain ⟨more, hmore⟩ := hgrows
    have hmore : (c.turn t).record = c.record ++ more := hmore
    rcases mem_of_returned_error hd with hold | ⟨k, hk, running, hended⟩
    · obtain ⟨element, hbegan, hrest⟩ := h.refusals ticket expected actual hold
      exact ⟨element, by rw [hmore]; exact List.mem_append_left _ hbegan, hrest⟩
    · obtain ⟨buffer, howes, hexpected, hactual, hne⟩ := k.owing_of_elementSize hended running
      have hexpected : expected = n := hexpected.trans h.size
      obtain ⟨element, haccount⟩ := h.accounted.account ticket _ (by rw [standing?, hk]; rfl)
      -- a buffer that it had collected would have had the right length
      have hsame : buffer = element :=
        (haccount.owing_cases (h.fits_deedsOf ticket) howes).resolve_right
          fun hlength => hne (by rw [hactual, hlength, hexpected])
      refine ⟨element, ?_, hexpected, hsame ▸ hactual, hexpected ▸ hne⟩
      rw [hmore]
      exact List.mem_append_left _ (mem_deedsOf.1 haccount.began_mem).1

omit h in
theorem run (h : c.Measured n) (turns : List Turn) : (c.run turns).Measured n :=
  run_induction turns h fun _ t h => h.turn t

/-- The account of a call that is known to have begun. -/
theorem account_of_mem {ticket : Nat} {element : Bytes}
    (hbegan : .began ticket element ∈ c.record) :
    ∃ s, Account c.direction.role ticket element (deedsOf ticket c.record) s := by
  have hmem : .began ticket element ∈ deedsOf ticket c.record := mem_deedsOf.2 ⟨hbegan, rfl⟩
  cases hs : c.standing? ticket with
  | none => rw [h.accounted.absent ticket hs] at hmem; cases hmem
  | some s =>
    obtain ⟨element', haccount⟩ := h.accounted.account ticket s hs
    rw [haccount.element_eq hmem]
    exact ⟨s, haccount⟩

/-- **A call began with the right length** if it did more than to begin, or
to begin and to fail. -/
theorem length_of_mem {ticket : Nat} {element : Bytes} {deed : Deed}
    (hbegan : .began ticket element ∈ c.record) (hdeed : deed ∈ c.record)
    (hcaller : deed.caller = some ticket) (hmore : ¬ Exchange.Aside deed) :
    element.length = n := by
  obtain ⟨s, haccount⟩ := h.account_of_mem hbegan
  have hmem : deed ∈ deedsOf ticket c.record := mem_deedsOf.2 ⟨hdeed, hcaller⟩
  rcases haccount.fate (h.fits_deedsOf ticket) with hlength | ⟨hdeeds, -⟩ | ⟨e, hdeeds, -⟩
  · exact hlength
  · rw [hdeeds] at hmem
    exact absurd (List.mem_singleton.1 hmem ▸ trivial) hmore
  · rw [hdeeds] at hmem
    rcases List.mem_cons.1 hmem with rfl | hmem
    · exact absurd trivial hmore
    · exact absurd (List.mem_singleton.1 hmem ▸ trivial) hmore

/-- **A call that had anything accepted began with the right length.** -/
theorem length_of_accepted {ticket : Nat} {element buffer : Bytes}
    (hbegan : .began ticket element ∈ c.record)
    (haccepted : .accepted (some ticket) buffer ∈ c.record) : element.length = n :=
  h.length_of_mem hbegan haccepted rfl id

/-- **A call that returned an element began with the right length.** -/
theorem length_of_returned_ok {ticket : Nat} {element result : Bytes}
    (hbegan : .began ticket element ∈ c.record)
    (hreturned : .returned ticket (.ok result) ∈ c.record) : element.length = n :=
  h.length_of_mem hbegan hreturned rfl id

/-- **A retry is never refused for its length**: a call that fails so has
had nothing accepted before. -/
theorem not_accepted_of_elementSize {ticket expected actual : Nat}
    (hreturned : .returned ticket (.error (.elementSize expected actual)) ∈ c.record)
    (buffer : Bytes) : .accepted (some ticket) buffer ∉ c.record := fun haccepted => by
  obtain ⟨element, hbegan, -, hactual, hne⟩ := h.refusals ticket expected actual hreturned
  exact hne (hactual.trans (h.length_of_accepted hbegan haccepted))

end Measured

end Course

end TwinRing
