import TwinRing.Proofs.Channel.Pairing
import TwinRing.Proofs.Echo.Ends
/-!
# Echo programs — both on one store

The sender and the responder are started at any time, each in one step,
and from then on their threads and their main loops take steps in any
order. A `Dialogue` is the store, the two programs, and a record of what
the responder has looked at.

While only the responder is there it waits at two empty rings (`Waiting`).
Once the sender is there the message of its round is somewhere on its way,
and nothing else is (`UnderWay`). Each of the two programs clears rings
when it is started, and each time there is nothing in them that counts: the
sender comes before its own first message, and the responder clears only
the ring that it has not answered in yet.
-/

namespace TwinRing

namespace Echo

/-! ## Both programs -/

/-- One of the two programs. -/
inductive Party
  | sender
  | responder
  deriving DecidableEq

/-- **One step of a dialogue.** -/
inductive Move
  /-- A program is started, if it is not there. -/
  | start (who : Party)
  /-- The main loop of a program goes on, if what it waits for is there. -/
  | react (who : Party)
  /-- A thread of a program takes a step on one of its lanes. -/
  | turn (who : Party) (role : Role) (t : Turn)

/-- **Both programs on one store.** -/
structure Dialogue where
  store : Store
  sender : Option Sender := none
  responder : Option Responder := none
  /-- What the responder has looked at, oldest first. -/
  heard : List Bytes := []

namespace Dialogue

variable (h : Nat → Bytes) (n : Nat)

/-- **A dialogue after one step**, where the sender sends the first `n` of
some messages and has printed nothing before. There is no dialogue with a
program that cannot build its channel, for it ends at once. -/
def move (y : Dialogue) : Move → Option Dialogue
  | .start .sender =>
    match y.sender with
    | some _ => some y
    | none =>
      match Sender.startWith h n {} y.store with
      | (.error _, _) => none
      | (.ok p, store) => some { y with store, sender := some p }
  | .start .responder =>
    match y.responder with
    | some _ => some y
    | none =>
      match Responder.start y.store with
      | (.error _, _) => none
      | (.ok q, store) => some { y with store, responder := some q }
  | .react .sender =>
    match y.sender with
    | none => some y
    | some p =>
      match p.react with
      | none => some y
      | some p' => some { y with sender := some p' }
  | .react .responder =>
    match y.responder with
    | none => some y
    | some q =>
      match q.react with
      | none => some y
      | some q' =>
        some { y with responder := some q', heard := y.heard ++ q.received?.toList }
  | .turn who role t =>
    if t.isThread then
      match who with
      | .sender =>
        match y.sender with
        | none => some y
        | some p =>
          let (channel, store) := p.channel.turn role t y.store
          some { y with store, sender := some { p with channel } }
      | .responder =>
        match y.responder with
        | none => some y
        | some q =>
          let (channel, store) := q.channel.turn role t y.store
          some { y with store, responder := some { q with channel } }
    else some y

/-- **A dialogue after any steps**, one after another. -/
def run (moves : List Move) (y : Dialogue) : Option Dialogue := moves.foldlM (move h n) y

/-- **What a step can come to.** -/
inductive Step (y : Dialogue) : Dialogue → Prop
  /-- Nothing: the program is there already, or not yet, or what it waits for
  is not, or no thread acts. -/
  | still : Step y y
  | startSender {p : Sender} {s : Store} (absent : y.sender = none)
      (start : Sender.startWith h n {} y.store = (.ok p, s)) :
      Step y { y with store := s, sender := some p }
  | startResponder {q : Responder} {s : Store} (absent : y.responder = none)
      (start : Responder.start y.store = (.ok q, s)) :
      Step y { y with store := s, responder := some q }
  | reactSender {p p' : Sender} (there : y.sender = some p) (react : p.react = some p') :
      Step y { y with sender := some p' }
  | reactResponder {q q' : Responder} (there : y.responder = some q) (react : q.react = some q') :
      Step y { y with responder := some q', heard := y.heard ++ q.received?.toList }
  | turnSender {p : Sender} (there : y.sender = some p) (role : Role) {t : Turn}
      (thread : t.isThread = true) :
      Step y { y with
        store := (p.channel.turn role t y.store).2
        sender := some { p with channel := (p.channel.turn role t y.store).1 } }
  | turnResponder {q : Responder} (there : y.responder = some q) (role : Role) {t : Turn}
      (thread : t.isThread = true) :
      Step y { y with
        store := (q.channel.turn role t y.store).2
        responder := some { q with channel := (q.channel.turn role t y.store).1 } }

variable {h n}

/-- **Every step is one of these.** -/
theorem step_of_move {y y' : Dialogue} {m : Move} (hmove : y.move h n m = some y') :
    Step h n y y' := by
  cases m with
  | start who =>
    cases who with
    | sender =>
      simp only [move] at hmove
      split at hmove
      · cases hmove; exact .still
      · rename_i absent
        split at hmove
        · cases hmove
        · rename_i start
          cases hmove; exact .startSender absent start
    | responder =>
      simp only [move] at hmove
      split at hmove
      · cases hmove; exact .still
      · rename_i absent
        split at hmove
        · cases hmove
        · rename_i start
          cases hmove; exact .startResponder absent start
  | react who =>
    cases who with
    | sender =>
      simp only [move] at hmove
      split at hmove
      · cases hmove; exact .still
      · rename_i there
        split at hmove
        · cases hmove; exact .still
        · rename_i react
          cases hmove; exact .reactSender there react
    | responder =>
      simp only [move] at hmove
      split at hmove
      · cases hmove; exact .still
      · rename_i there
        split at hmove
        · cases hmove; exact .still
        · rename_i react
          cases hmove; exact .reactResponder there react
  | turn who role t =>
    simp only [move] at hmove
    split at hmove
    · rename_i thread
      cases who with
      | sender =>
        dsimp only at hmove
        split at hmove
        · cases hmove; exact .still
        · rename_i there
          cases hmove; exact .turnSender there role thread
      | responder =>
        dsimp only at hmove
        split at hmove
        · cases hmove; exact .still
        · rename_i there
          cases hmove; exact .turnResponder there role thread
    · cases hmove; exact .still

end Dialogue

/-- The two rings, as the responder sees them. -/
abbrev Rings (f b : Nat) (x z : Option Bytes) (s : Store) : Prop :=
  s.Paired geometry responderConfig.inName responderConfig.outName f b x z

theorem valid_geometry : geometry.Valid := (Geometry.segmentSize_eq_ok_iff.1 rfl).1

theorem names_differ :
    SegmentName.ofString senderConfig.inName ≠ SegmentName.ofString senderConfig.outName := by
  decide +kernel

/-! ## Starting -/

section Starting

variable {h : Nat → Bytes} {n f b : Nat} {x z : Option Bytes} {s s' : Store} {output : Output}
variable {p : Sender} {q : Responder}

/-- **A sender that was started** has its first message to put in, or has
ended. -/
theorem Sender.of_startWith (hlength : ∀ i < n, (h i).length = geometry.elementSize.toNat)
    (houtput : output.complaints = []) (hstart : startWith h n output s = (.ok p, s')) :
    ∃ c s₁ s₂, Channel.Opened senderConfig s s₁ s₂ s' c ∧ ∃ σ,
      Leg h n 0 σ none .waits none 0 ∧
        p.At c.outbound.view.handle.object c.inbound.view.handle.object h n 0 σ := by
  unfold startWith at hstart
  split at hstart
  · cases hstart
  · rename_i c s'' hbuild
    cases hstart
    obtain ⟨s₁, s₂, hopened⟩ := Channel.opened_of_build hbuild
    obtain ⟨hrests, hsteady⟩ := hopened.rests (g := geometry) fun role => by cases role <;> rfl
    exact ⟨c, s₁, s₂, hopened, Counts.nextRound ⟨rfl, rfl, rfl, rfl, houtput⟩ hsteady hrests
      (Nat.zero_le n) hlength⟩

/-- **A responder that was started** waits. -/
theorem Responder.of_start (hstart : start s = (.ok q, s')) :
    ∃ c s₁ s₂, Channel.Opened responderConfig s s₁ s₂ s' c ∧
      q.At c.inbound.view.handle.object c.outbound.view.handle.object .waits := by
  unfold start at hstart
  split at hstart
  · cases hstart
  · rename_i c s'' hbuild
    cases hstart
    obtain ⟨s₁, s₂, hopened⟩ := Channel.opened_of_build hbuild
    obtain ⟨hrests, hsteady⟩ := hopened.rests (g := geometry) fun role => by cases role <;> rfl
    exact ⟨c, s₁, s₂, hopened, at_beginGet hsteady hrests⟩

/-- **A sender that joins two rings** clears both. -/
theorem Sender.joins {c : Channel} {s₁ s₂ : Store}
    (hopened : Channel.Opened senderConfig s s₁ s₂ s' c)
    (boundIn : s.boundTo senderConfig.inName = some b)
    (boundOut : s.boundTo senderConfig.outName = some f) (apart : b ≠ f)
    (liveIn : b < s.objects.size) (liveOut : f < s.objects.size) :
    c.inbound.view.handle.object = b ∧ c.outbound.view.handle.object = f ∧
      Rings f b none none s' := by
  obtain ⟨hin, hout, hnames, hsize, hobject, hobject'⟩ :=
    hopened.joins boundIn boundOut apart liveIn liveOut
  refine ⟨hin, hout, ?_⟩
  exact {
    apart := apart.symm
    inLive := hsize.symm ▸ liveOut
    outLive := hsize.symm ▸ liveIn
    inbound := hobject'.symm ▸ Ring.carries_clear _
    outbound := hobject.symm ▸ Ring.carries_clear _
    boundIn := (Store.boundTo_congr hnames _).trans boundOut
    boundOut := (Store.boundTo_congr hnames _).trans boundIn }

/-- **A responder that joins two rings** clears its outbound one only. -/
theorem Responder.joins {c : Channel} {s₁ s₂ : Store}
    (hopened : Channel.Opened responderConfig s s₁ s₂ s' c) (rings : Rings f b x none s) :
    c.inbound.view.handle.object = f ∧ c.outbound.view.handle.object = b ∧
      Rings f b x none s' := by
  obtain ⟨hin, hout, hnames, hsize, hobject, hobject'⟩ :=
    hopened.joins rings.boundIn rings.boundOut rings.apart rings.inLive rings.outLive
  refine ⟨hin, hout, rings.of_pair ?_ hnames⟩
  exact {
    apart := rings.apart
    inLive := hsize.symm ▸ rings.inLive
    outLive := hsize.symm ▸ rings.outLive
    inbound := hobject.symm ▸ rings.inbound
    outbound := hobject'.symm ▸ Ring.carries_clear _ }

end Starting

/-! ## What every step keeps -/

namespace Dialogue

variable {h : Nat → Bytes} {n f b k count : Nat} {σ τ : Situation} {x z : Option Bytes}
variable {y y' : Dialogue}

/-- **Only the responder is there**, at two empty rings. -/
structure Waiting (f b : Nat) (y : Dialogue) : Prop where
  sender : y.sender = none
  responder : ∃ q, y.responder = some q ∧ q.At f b .waits
  heard : y.heard = []
  rings : Rings f b none none y.store

/-- **The message of round `k` is on its way**, or there is none left. -/
structure UnderWay (h : Nat → Bytes) (n f b k : Nat) (σ : Situation) (x : Option Bytes)
    (τ : Situation) (z : Option Bytes) (count : Nat) (y : Dialogue) : Prop where
  leg : Leg h n k σ x τ z count
  sender : ∃ p, y.sender = some p ∧ p.At f b h n k σ
  responder : ∀ q, y.responder = some q → q.At f b τ
  /-- Nobody has answered while the responder is not there. -/
  unheard : y.responder = none → τ = .waits ∧ z = none
  heard : y.heard = (List.range count).map h
  rings : Rings f b x z y.store

/-- A round is under way, somewhere. -/
def Going (h : Nat → Bytes) (n : Nat) (y : Dialogue) : Prop :=
  ∃ f b k σ x τ z count, UnderWay h n f b k σ x τ z count y

/-- A thread of a responder that waits at empty rings changes nothing that
anybody else could see. -/
theorem Waiting.turn (hy : Waiting f b y) {q : Responder} (hq : y.responder = some q) {role : Role}
    {t : Turn} (thread : t.isThread = true) :
    Waiting f b { y with
      store := (q.channel.turn role t y.store).2
      responder := some { q with channel := (q.channel.turn role t y.store).1 } } := by
  obtain ⟨q', hq', hat⟩ := hy.responder
  obtain rfl : q = q' := Option.some.inj (hq.symm.trans hq')
  obtain ⟨τ, x, z, hpass, hpair, hsteady, hstands, hwithin⟩ := hat.stands.turn hat.steady
    hy.rings.toPair valid_geometry thread (fun _ hsends => by cases hsends) role
  cases hpass
  exact ⟨hy.sender, ⟨_, rfl, hsteady, hstands⟩, hy.heard, hy.rings.of_pair hpair hwithin.names⟩

/-- A responder that waits at empty rings has nothing to react to but what
its own last push has returned. -/
theorem Waiting.react (hy : Waiting f b y) {q q' : Responder} (hq : y.responder = some q)
    (hr : q.react = some q') :
    Waiting f b { y with responder := some q', heard := y.heard ++ q.received?.toList } := by
  obtain ⟨q₀, hq₀, hat⟩ := hy.responder
  obtain rfl : q = q₀ := Option.some.inj (hq.symm.trans hq₀)
  rcases hat.react (fun _ hholds => by cases hholds) hr with ⟨-, hnone, hat'⟩ | ⟨e, hholds, -⟩
  · refine ⟨hy.sender, ⟨q', rfl, hat'⟩, ?_, hy.rings⟩
    rw [hnone, hy.heard]
    rfl
  · cases hholds

/-- **A sender that is started at empty rings** begins its first round. -/
theorem going_of_started {p : Sender} {s : Store} (hsender : ∃ σ,
      Leg h n 0 σ none .waits none 0 ∧ p.At f b h n 0 σ)
    (hresponder : ∀ q, y.responder = some q → q.At f b .waits) (hheard : y.heard = [])
    (hrings : Rings f b none none s) : Going h n { y with store := s, sender := some p } := by
  obtain ⟨σ, leg, hat⟩ := hsender
  exact ⟨f, b, 0, σ, none, .waits, none, 0, leg, ⟨p, rfl, hat⟩, hresponder,
    fun _ => ⟨rfl, rfl⟩, hheard, hrings⟩

/-- **What a step leads to from a responder that waits.** -/
theorem Waiting.step (hlength : ∀ i < n, (h i).length = geometry.elementSize.toNat)
    (hy : Waiting f b y) (hstep : Step h n y y') : Waiting f b y' ∨ Going h n y' := by
  obtain ⟨q, hq, hat⟩ := hy.responder
  cases hstep with
  | still => exact .inl hy
  | startSender absent start =>
    obtain ⟨c, s₁, s₂, hopened, hsender⟩ := Sender.of_startWith hlength rfl start
    obtain ⟨rfl, rfl, hrings⟩ := Sender.joins hopened hy.rings.boundOut hy.rings.boundIn
      hy.rings.apart.symm hy.rings.outLive hy.rings.inLive
    refine .inr (going_of_started hsender (fun q' hq' => ?_) hy.heard hrings)
    obtain rfl : q = q' := Option.some.inj (hq.symm.trans hq')
    exact hat
  | startResponder absent =>
    rw [hq] at absent
    cases absent
  | reactSender there =>
    rw [hy.sender] at there
    cases there
  | reactResponder there react => exact .inl (hy.react there react)
  | turnSender there =>
    rw [hy.sender] at there
    cases there
  | turnResponder there role thread => exact .inl (hy.turn there thread)

namespace UnderWay

variable (hy : UnderWay h n f b k σ x τ z count y)
include hy

/-- **A thread of the sender** leads from leg to leg. -/
theorem turn_sender {p : Sender} (hp : y.sender = some p) {role : Role} {t : Turn}
    (thread : t.isThread = true) :
    Going h n { y with
      store := (p.channel.turn role t y.store).2
      sender := some { p with channel := (p.channel.turn role t y.store).1 } } := by
  obtain ⟨p', hp', hat⟩ := hy.sender
  obtain rfl : p = p' := Option.some.inj (hp.symm.trans hp')
  obtain ⟨σ', z', x', hpass, hpair, hsteady, hstands, hwithin⟩ := hat.stands.turn hat.steady
    hy.rings.toPair.symm valid_geometry thread (fun _ => hy.leg.room_forward) role
  refine ⟨f, b, k, σ', x', τ, z', count, hy.leg.sender_pass hpass, ⟨_, rfl, ?_⟩, hy.responder,
    fun habsent => ?_, hy.heard, hy.rings.of_pair hpair.symm hwithin.names⟩
  · exact {
      messages := hat.messages
      total := hat.total
      finished := hat.finished
      matched := hat.matched
      complaints := hat.complaints
      steady := hsteady
      stands := hstands }
  · obtain ⟨hwaits, rfl⟩ := hy.unheard habsent
    cases hpass <;> exact ⟨hwaits, rfl⟩

/-- **A thread of the responder** leads from leg to leg. -/
theorem turn_responder {q : Responder} (hq : y.responder = some q) {role : Role} {t : Turn}
    (thread : t.isThread = true) :
    Going h n { y with
      store := (q.channel.turn role t y.store).2
      responder := some { q with channel := (q.channel.turn role t y.store).1 } } := by
  have hat := hy.responder q hq
  obtain ⟨τ', x', z', hpass, hpair, hsteady, hstands, hwithin⟩ := hat.stands.turn hat.steady
    hy.rings.toPair valid_geometry thread (fun _ => hy.leg.room_backward) role
  refine ⟨f, b, k, σ, x', τ', z', count, hy.leg.responder_pass hpass, hy.sender, fun q' hq' => ?_,
    fun habsent => (by cases habsent), hy.heard, hy.rings.of_pair hpair hwithin.names⟩
  cases hq'
  exact ⟨hsteady, hstands⟩

/-- **The sender's main loop** leads from leg to leg. -/
theorem react_sender (hlength : ∀ i < n, (h i).length = geometry.elementSize.toNat) {p p' : Sender}
    (hp : y.sender = some p) (hr : p.react = some p') :
    Going h n { y with sender := some p' } := by
  obtain ⟨p₀, hp₀, hat⟩ := hy.sender
  obtain rfl : p = p₀ := Option.some.inj (hp.symm.trans hp₀)
  obtain ⟨k', σ', leg, hat'⟩ := hat.react hy.leg hlength hr
  exact ⟨f, b, k', σ', x, τ, z, count, leg, ⟨p', rfl, hat'⟩, hy.responder, hy.unheard, hy.heard,
    hy.rings⟩

/-- **The responder's main loop** leads from leg to leg. What it looks at
is the message of the round. -/
theorem react_responder (hlength : ∀ i < n, (h i).length = geometry.elementSize.toNat)
    {q q' : Responder} (hq : y.responder = some q) (hr : q.react = some q') :
    Going h n { y with responder := some q', heard := y.heard ++ q.received?.toList } := by
  have hholds : ∀ e, τ = .holds e → e.length = geometry.elementSize.toNat := by
    rintro e rfl
    obtain ⟨rfl, hunder, -⟩ := hy.leg.of_received
    exact hlength k hunder
  rcases (hy.responder q hq).react hholds hr with ⟨rfl, hnone, hat⟩ | ⟨e, rfl, hreceived, hat⟩
  · refine ⟨f, b, k, σ, x, .waits, z, count, hy.leg, hy.sender, fun _ hq' => ?_,
      fun habsent => (by cases habsent), ?_, hy.rings⟩
    · cases hq'
      exact hat
    · rw [hnone, hy.heard]
      exact List.append_nil _
  · obtain ⟨rfl, -, rfl, leg⟩ := hy.leg.of_received
    refine ⟨f, b, _, σ, x, _, z, _, leg, hy.sender, fun _ hq' => ?_,
      fun habsent => (by cases habsent), ?_, hy.rings⟩
    · cases hq'
      exact hat
    · rw [hreceived, hy.heard, List.range_succ, List.map_append]
      rfl

/-- **A responder that comes late** finds the message on its way out, and
leaves it there. -/
theorem start_responder {q : Responder} {s : Store} (habsent : y.responder = none)
    (hstart : Responder.start y.store = (.ok q, s)) :
    Going h n { y with store := s, responder := some q } := by
  obtain ⟨rfl, rfl⟩ := hy.unheard habsent
  obtain ⟨c, s₁, s₂, hopened, hat⟩ := Responder.of_start hstart
  obtain ⟨rfl, rfl, hrings⟩ := Responder.joins hopened hy.rings
  refine ⟨_, _, k, σ, x, .waits, none, count, hy.leg, hy.sender, fun _ hq => ?_,
    fun habsent => (by cases habsent), hy.heard, hrings⟩
  cases hq
  exact hat

/-- **A round that is under way goes on**, whatever step is taken. -/
theorem step (hlength : ∀ i < n, (h i).length = geometry.elementSize.toNat)
    (hstep : Step h n y y') : Going h n y' := by
  cases hstep with
  | still => exact ⟨f, b, k, σ, x, τ, z, count, hy⟩
  | startSender absent =>
    obtain ⟨p, hp, -⟩ := hy.sender
    rw [hp] at absent
    cases absent
  | startResponder absent start => exact hy.start_responder absent start
  | reactSender there react => exact hy.react_sender hlength there react
  | reactResponder there react => exact hy.react_responder hlength there react
  | turnSender there role thread => exact hy.turn_sender there thread
  | turnResponder there role thread => exact hy.turn_responder there thread

end UnderWay

end Dialogue

end Echo

end TwinRing
