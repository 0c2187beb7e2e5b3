import TwinRing.Proofs.Direction.Floor
/-!
# Lanes under way — what a caller can rely on that is alone

A caller that is alone on a writer's lane finds there nothing but its own.
While a call of its waits for a result, the request on its way is the
call's; when a call is to issue a buffer again, the slot is empty and the
worker's hand is free; and all that a call issues is the element it was
started with. None of this holds with several callers.
-/

namespace TwinRing

/-! ## Deeds that are new -/

section NewDeeds

variable {d : Deed}

/-- Of a call that did nothing there is no deed. -/
theorem caller_ne_of_silent {ticket : Nat} {record : List Deed}
    (silent : deedsOf ticket record = []) (hd : d ∈ record) : d.caller ≠ some ticket := fun h => by
  have hmine : d ∈ deedsOf ticket record := mem_deedsOf.2 ⟨hd, h⟩
  rw [silent] at hmine
  exact absurd hmine List.not_mem_nil

theorem not_mem_replacedDeeds {requester : Option Nat} {request : Request}
    (h : ∀ owner result, d ≠ .replaced owner result) :
    d ∉ Course.replacedDeeds requester request := fun hd =>
  have ⟨result, _, hreplaced⟩ := Course.mem_replacedDeeds_iff.1 hd
  h requester result hreplaced

theorem not_mem_outcome {caller : Option Nat} {t : Transfer}
    (h : ∀ ticket r, d ≠ .returned ticket r) : d ∉ Call.outcome caller t := fun hd =>
  have ⟨ticket, _, _, hreturn⟩ := Call.mem_outcome_iff.1 hd
  h ticket _ hreturn

end NewDeeds

namespace Exchange

variable {x : Exchange} {caller other : Option Nat} {buffer b e : Bytes} {t : Transfer}
variable {ticket : Nat}

theorem accepted_mem_accepting :
    .accepted other b ∈ (x.accepting caller buffer).record ↔
      .accepted other b ∈ x.record ∨ other = caller ∧ b = buffer := by
  have hreplaced : Deed.accepted other b ∉ Course.replacedDeeds x.requester x.request :=
    not_mem_replacedDeeds fun _ _ => Deed.noConfusion
  simp [accepting, hreplaced]

theorem accepted_mem_collecting :
    .accepted other b ∈ (x.collecting caller t).record ↔ .accepted other b ∈ x.record := by
  have houtcome : Deed.accepted other b ∉ Call.outcome caller t :=
    not_mem_outcome fun _ _ => Deed.noConfusion
  simp [collecting, houtcome]

theorem began_mem_accepting :
    .began ticket e ∈ (x.accepting caller buffer).record ↔ .began ticket e ∈ x.record := by
  have hreplaced : Deed.began ticket e ∉ Course.replacedDeeds x.requester x.request :=
    not_mem_replacedDeeds fun _ _ => Deed.noConfusion
  simp [accepting, hreplaced]

theorem began_mem_collecting :
    .began ticket e ∈ (x.collecting caller t).record ↔ .began ticket e ∈ x.record := by
  have houtcome : Deed.began ticket e ∉ Call.outcome caller t :=
    not_mem_outcome fun _ _ => Deed.noConfusion
  simp [collecting, houtcome]

theorem mem_noting {d d' : Deed} : d ∈ (x.noting d').record ↔ d ∈ x.record ∨ d = d' := by
  simp [noting]

end Exchange

namespace Floor

variable {g : Geometry} {x y : Floor} {ticket : Nat}

/-- The call with a ticket is under way. -/
def Runs (x : Floor) (ticket : Nat) : Prop :=
  ∃ s, x.standing? ticket = some s ∧ s.isRunning = true

/-- A request of the call with a ticket was accepted. -/
def Issued (x : Floor) (ticket : Nat) : Prop :=
  ∃ buffer, .accepted (some ticket) buffer ∈ x.exchange.record

theorem runs_of_owing {buffer : Bytes} (h : x.standing? ticket = some (.owing buffer)) :
    x.Runs ticket := ⟨_, h, rfl⟩

theorem runs_of_waiting (h : x.standing? ticket = some .waiting) : x.Runs ticket := ⟨_, h, rfl⟩

theorem Idle.not_runs (h : x.Idle) : ¬ x.Runs ticket := fun ⟨s, hs, hrunning⟩ =>
  Bool.false_ne_true ((h ticket s hs).symm.trans hrunning)

/-- **The lane of a writer with one caller.** -/
structure Alone (x : Floor) : Prop where
  role : x.exchange.role = .writer
  serviced : x.exchange.Serviced
  traced : x.exchange.Traced
  /-- One call is under way at most. -/
  single : ∀ ticket other, x.Runs ticket → x.Runs other → ticket = other
  /-- What a call waits for is its own. -/
  own : ∀ ticket, x.standing? ticket = some .waiting → x.exchange.requester = some ticket
  /-- Between two attempts of a call nothing is on its way. -/
  between : ∀ ticket buffer, x.standing? ticket = some (.owing buffer) → x.Issued ticket →
    x.exchange.request = .empty ∧ x.exchange.hand = .free
  /-- A call issues its element. -/
  element : ∀ ticket e, .began ticket e ∈ x.exchange.record →
    (∀ buffer, x.standing? ticket = some (.owing buffer) → buffer = e) ∧
      ∀ buffer, .accepted (some ticket) buffer ∈ x.exchange.record → buffer = e

namespace Alone

/-- A call that has moved may be under way, and else only who was. -/
theorem runs_stood {s : Standing} {exchange : Exchange} {ring : Object} {other : Nat}
    (h : Runs ⟨exchange, x.stood ticket s, ring⟩ other) : other = ticket ∨ x.Runs other := by
  obtain ⟨s', hs', hrunning⟩ := h
  by_cases hsame : other = ticket
  · exact .inl hsame
  · exact .inr ⟨s', (stood_of_ne hsame).symm.trans hs', hrunning⟩

/-- **No second call gets under way.** -/
theorem single_step (hstep : x.Step g y) (h : x.Alone) :
    ∀ ticket other, y.Runs ticket → y.Runs other → ticket = other := by
  -- a call that was under way and moves takes no other's place
  have moved : ∀ {acting s exchange ring}, x.Runs acting → ∀ ticket other,
      Runs ⟨exchange, x.stood acting s, ring⟩ ticket →
        Runs ⟨exchange, x.stood acting s, ring⟩ other → ticket = other := by
    intro acting s exchange ring hacting ticket other hticket hother
    have back : ∀ t, Runs ⟨exchange, x.stood acting s, ring⟩ t → t = acting := fun t ht => by
      rcases runs_stood ht with heq | hruns
      · exact heq
      · exact h.single t acting hruns hacting
    rw [back ticket hticket, back other hother]
  cases hstep with
  | still => exact h.single
  | issue buffer idle free kept => exact h.single
  | take result idle hfinished => exact h.single
  | start acting element idle new silent =>
    intro ticket other hticket hother
    have back : ∀ t, Runs ⟨x.exchange.noting (.began acting element),
        x.stood acting (.owing element), x.ring⟩ t → t = acting := fun t ht => by
      rcases runs_stood ht with heq | hruns
      · exact heq
      · exact absurd hruns idle.not_runs
    rw [back ticket hticket, back other hother]
  | issueFor acting buffer owes free kept => exact moved (runs_of_owing owes)
  | takeFor acting result waits hfinished => exact moved (runs_of_waiting waits)
  | fail acting e s stands running => exact moved ⟨s, stands, running⟩
  | pickUp buffer hpending free => exact h.single
  | serve buffer hcarrying attempt after ring served => exact h.single
  | publish result hreturning => exact h.single

/-- **What a call waits for stays its own.** -/
theorem own_step (hstep : x.Step g y) (h : x.Alone) :
    ∀ ticket, y.standing? ticket = some .waiting → y.exchange.requester = some ticket := by
  intro ticket hwaits
  cases hstep with
  | still => exact h.own ticket hwaits
  | issue buffer idle free kept => exact absurd (runs_of_waiting hwaits) idle.not_runs
  | take result idle hfinished => exact h.own ticket hwaits
  | start acting element idle new silent =>
    rcases stood_cases hwaits with ⟨hsame, hs⟩ | ⟨hsame, hwaits⟩
    · cases hs
    · exact h.own ticket hwaits
  | issueFor acting buffer owes free kept =>
    rcases stood_cases hwaits with ⟨hsame, hs⟩ | ⟨hsame, hwaits⟩
    · rw [hsame]
      rfl
    · exact absurd (h.single _ _ (runs_of_waiting hwaits) (runs_of_owing owes)) hsame
  | takeFor acting result waits hfinished =>
    rcases stood_cases hwaits with ⟨hsame, hs⟩ | ⟨hsame, hwaits⟩
    · unfold Call.standingAfter at hs
      split at hs <;> cases hs
    · exact h.own ticket hwaits
  | fail acting e s stands running =>
    rcases stood_cases hwaits with ⟨hsame, hs⟩ | ⟨hsame, hwaits⟩
    · cases hs
    · exact h.own ticket hwaits
  | pickUp buffer hpending free => exact h.own ticket hwaits
  | serve buffer hcarrying attempt after ring served => exact h.own ticket hwaits
  | publish result hreturning => exact h.own ticket hwaits

/-- **A call that is to issue its buffer again finds nothing on its way.** -/
theorem between_step (hstep : x.Step g y) (h : x.Alone) :
    ∀ ticket buffer, y.standing? ticket = some (.owing buffer) → y.Issued ticket →
      y.exchange.request = .empty ∧ y.exchange.hand = .free := by
  rintro ticket b howes ⟨a, hissued⟩
  cases hstep with
  | still => exact h.between ticket b howes ⟨a, hissued⟩
  | issue buffer idle free kept => exact absurd (runs_of_owing howes) idle.not_runs
  | take result idle hfinished => exact absurd (runs_of_owing howes) idle.not_runs
  | start acting element idle new silent =>
    rcases stood_cases howes with ⟨hsame, hs⟩ | ⟨hsame, howes⟩
    · -- a new call has issued nothing
      rcases Exchange.mem_noting.1 hissued with hissued | hnone
      · exact absurd (congrArg some hsame) (caller_ne_of_silent silent hissued)
      · cases hnone
    · exact absurd (runs_of_owing howes) idle.not_runs
  | issueFor acting buffer owes free kept =>
    rcases stood_cases howes with ⟨hsame, hs⟩ | ⟨hsame, howes⟩
    · cases hs
    · exact absurd (h.single _ _ (runs_of_owing howes) (runs_of_owing owes)) hsame
  | takeFor acting result waits hfinished =>
    exact ⟨rfl, h.serviced.hand_eq_free (by simp [hfinished])⟩
  | fail acting e s stands running =>
    rcases stood_cases howes with ⟨hsame, hs⟩ | ⟨hsame, howes⟩
    · cases hs
    · exact absurd (h.single _ _ (runs_of_owing howes) ⟨s, stands, running⟩) hsame
  | pickUp buffer hpending free =>
    have hnone := (h.between ticket b howes ⟨a, hissued⟩).1
    rw [hpending] at hnone
    cases hnone
  | serve buffer hcarrying attempt after ring served =>
    have hissued : x.Issued ticket := ⟨a, by simpa [Exchange.serving] using hissued⟩
    have hnone := (h.between ticket b howes hissued).2
    rw [hcarrying] at hnone
    cases hnone
  | publish result hreturning =>
    have hnone := (h.between ticket b howes ⟨a, hissued⟩).2
    rw [hreturning] at hnone
    cases hnone

/-- A call that starts owes its element, and has issued nothing. -/
theorem element_start {acting : Nat} {element : Bytes} (h : x.Alone)
    (silent : deedsOf acting x.exchange.record = []) (ticket : Nat) (e : Bytes)
    (hbegan : .began ticket e ∈ (x.exchange.noting (.began acting element)).record) :
    (∀ buffer, x.stood acting (.owing element) ticket = some (.owing buffer) → buffer = e) ∧
      ∀ buffer, .accepted (some ticket) buffer ∈
        (x.exchange.noting (.began acting element)).record → buffer = e := by
  -- of a new call nothing is on record but its start
  by_cases hsame : ticket = acting
  · subst hsame
    have he : e = element := by
      rcases Exchange.mem_noting.1 hbegan with hbegan | hnew
      · exact absurd rfl (caller_ne_of_silent silent hbegan)
      · exact (Deed.began.inj hnew).2
    refine ⟨fun b hb => ?_, fun b hb => ?_⟩
    · rw [he]
      exact (Standing.owing.inj (Option.some.inj (stood_self.symm.trans hb))).symm
    · rcases Exchange.mem_noting.1 hb with hb | hb
      · exact absurd rfl (caller_ne_of_silent silent hb)
      · cases hb
  · have hbegan : .began ticket e ∈ x.exchange.record := by
      rcases Exchange.mem_noting.1 hbegan with hbegan | hnew
      · exact hbegan
      · exact absurd (Deed.began.inj hnew).1 hsame
    obtain ⟨howing, hissued⟩ := h.element ticket e hbegan
    refine ⟨fun b hb => howing b ((stood_of_ne hsame).symm.trans hb), fun b hb => ?_⟩
    rcases Exchange.mem_noting.1 hb with hb | hb
    · exact hissued b hb
    · cases hb

/-- **A call issues its element, and nothing else.** -/
theorem element_step (hstep : x.Step g y) (h : x.Alone) :
    ∀ ticket e, .began ticket e ∈ y.exchange.record →
      (∀ buffer, y.standing? ticket = some (.owing buffer) → buffer = e) ∧
        ∀ buffer, .accepted (some ticket) buffer ∈ y.exchange.record → buffer = e := by
  intro ticket e hbegan
  cases hstep with
  | still => exact h.element ticket e hbegan
  | issue buffer idle free kept =>
    obtain ⟨howing, hissued⟩ := h.element ticket e (Exchange.began_mem_accepting.1 hbegan)
    refine ⟨howing, fun b hb => ?_⟩
    rcases Exchange.accepted_mem_accepting.1 hb with hb | ⟨hnone, -⟩
    · exact hissued b hb
    · cases hnone
  | take result idle hfinished =>
    obtain ⟨howing, hissued⟩ := h.element ticket e (Exchange.began_mem_collecting.1 hbegan)
    exact ⟨howing, fun b hb => hissued b (Exchange.accepted_mem_collecting.1 hb)⟩
  | start acting element idle new silent => exact h.element_start silent ticket e hbegan
  | issueFor acting buffer owes free kept =>
    obtain ⟨howing, hissued⟩ := h.element ticket e (Exchange.began_mem_accepting.1 hbegan)
    refine ⟨fun b hb => ?_, fun b hb => ?_⟩
    · rcases stood_cases hb with ⟨hsame, hs⟩ | ⟨hsame, hb⟩
      · cases hs
      · exact howing b hb
    · rcases Exchange.accepted_mem_accepting.1 hb with hb | ⟨hsame, rfl⟩
      · exact hissued b hb
      · rw [Option.some.inj hsame] at howing
        exact howing b owes
  | takeFor acting result waits hfinished =>
    obtain ⟨howing, hissued⟩ := h.element ticket e (Exchange.began_mem_collecting.1 hbegan)
    refine ⟨fun b hb => ?_, fun b hb => hissued b (Exchange.accepted_mem_collecting.1 hb)⟩
    rcases stood_cases hb with ⟨hsame, hs⟩ | ⟨hsame, hb⟩
    · subst hsame
      have hback : b = result.buffer := by
        unfold Call.standingAfter at hs
        split at hs <;> cases hs
        rfl
      -- what comes back to the call is what it issued
      have htraced := h.traced.slot result.buffer (by rw [hfinished]; rfl)
      rw [h.own ticket waits] at htraced
      rw [hback]
      exact hissued _ htraced
    · exact howing b hb
  | fail acting error s stands running =>
    have hbegan : .began ticket e ∈ x.exchange.record := by
      rcases Exchange.mem_noting.1 hbegan with hbegan | hnew
      · exact hbegan
      · cases hnew
    obtain ⟨howing, hissued⟩ := h.element ticket e hbegan
    refine ⟨fun b hb => ?_, fun b hb => ?_⟩
    · rcases stood_cases hb with ⟨hsame, hs⟩ | ⟨hsame, hb⟩
      · cases hs
      · exact howing b hb
    · rcases Exchange.mem_noting.1 hb with hb | hb
      · exact hissued b hb
      · cases hb
  | pickUp buffer hpending free => exact h.element ticket e hbegan
  | serve buffer hcarrying attempt after ring served =>
    obtain ⟨howing, hissued⟩ := h.element ticket e (by simpa [Exchange.serving] using hbegan)
    exact ⟨howing, fun b hb => hissued b (by simpa [Exchange.serving] using hb)⟩
  | publish result hreturning => exact h.element ticket e hbegan

/-- **Every step leaves the caller alone.** -/
theorem step (hstep : x.Step g y) (h : x.Alone) : y.Alone where
  role := hstep.exchange.role_eq.trans h.role
  serviced := h.serviced.step hstep.exchange
  traced := h.traced.step hstep.exchange h.role h.serviced
  single := h.single_step hstep
  own := h.own_step hstep
  between := h.between_step hstep
  element := h.element_step hstep

end Alone

end Floor

end TwinRing
