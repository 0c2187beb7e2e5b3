import TwinRing.Echo.Responder
import TwinRing.Echo.Sender
import TwinRing.Proofs.Channel.Caller
/-!
# Echo programs — the two ends of a round

In each round one message goes out, is taken out at the other end, put in
again, and taken out where it came from. `Leg` lists the places where it
can be, and with each of them what both programs and both rings are then.
A thread of either program leads from a leg to a leg (`Leg.sender_pass`,
`Leg.responder_pass`), and so does either program when a call of its own
has returned (`Sender.At.react`, `Responder.At.react`).
-/

namespace TwinRing

namespace Echo

open Situation (Pass)

/-! ## Where the message of a round is -/

/-- **Where the message of round `k` of `n` is**, with what the sender is,
what the forward ring carries, what the responder is, what the backward
ring carries, and how many elements the responder has looked at. -/
inductive Leg (h : Nat → Bytes) (n : Nat) :
    Nat → Situation → Option Bytes → Situation → Option Bytes → Nat → Prop
  | leaving {k : Nat} (under : k < n) : Leg h n k (.sends (h k)) none .waits none k
  | outward {k : Nat} (under : k < n) : Leg h n k .waits (some (h k)) .waits none k
  | received {k : Nat} (under : k < n) : Leg h n k .waits none (.holds (h k)) none k
  | returning {k : Nat} (under : k < n) : Leg h n k .waits none (.sends (h k)) none (k + 1)
  | homeward {k : Nat} (under : k < n) : Leg h n k .waits none .waits (some (h k)) (k + 1)
  | back {k : Nat} (under : k < n) : Leg h n k (.holds (h k)) none .waits none (k + 1)
  /-- There is no message left. -/
  | complete : Leg h n n .ended none .waits none n

namespace Leg

variable {h : Nat → Bytes} {n k count : Nat} {σ σ' τ τ' : Situation} {x x' y y' : Option Bytes}
variable {e : Bytes}

/-- **A step of a thread of the sender** leads from a leg to a leg. -/
theorem sender_pass (leg : Leg h n k σ x τ y count) (pass : Pass σ y x σ' y' x') :
    Leg h n k σ' x' τ y' count := by
  cases pass with
  | still => exact leg
  | put => cases leg with
    | leaving under => exact .outward under
  | take => cases leg with
    | homeward under => exact .back under

/-- **A step of a thread of the responder** leads from a leg to a leg. -/
theorem responder_pass (leg : Leg h n k σ x τ y count) (pass : Pass τ x y τ' x' y') :
    Leg h n k σ x' τ' y' count := by
  cases pass with
  | still => exact leg
  | put => cases leg with
    | returning under => exact .homeward under
  | take => cases leg with
    | outward under => exact .received under

/-- Where the sender is to put an element in, there is none. -/
theorem room_forward (leg : Leg h n k σ x τ y count) (hσ : σ = .sends e) : x = none := by
  subst hσ
  cases leg
  rfl

/-- Where the responder is to put an element in, there is none. -/
theorem room_backward (leg : Leg h n k σ x τ y count) (hτ : τ = .sends e) : y = none := by
  subst hτ
  cases leg
  rfl

/-- **What the sender has taken out is the message of the round**, and
nothing else is on its way. -/
theorem of_back (leg : Leg h n k (.holds e) x τ y count) :
    e = h k ∧ k < n ∧ x = none ∧ τ = .waits ∧ y = none ∧ count = k + 1 := by
  cases leg with
  | back under => exact ⟨rfl, under, rfl, rfl, rfl, rfl⟩

/-- **What the responder has taken out is the message of the round**, and
it is to be put in again. -/
theorem of_received (leg : Leg h n k σ x (.holds e) y count) :
    e = h k ∧ k < n ∧ count = k ∧ Leg h n k σ x (.sends e) y (k + 1) := by
  cases leg with
  | received under => exact ⟨rfl, under, rfl, .returning under⟩

/-- **At most one element is in the rings.** -/
theorem carried_le (leg : Leg h n k σ x τ y count) :
    x.toList.length + y.toList.length ≤ 1 := by
  cases leg <;> exact Nat.le_of_ble_eq_true rfl

theorem count_le (leg : Leg h n k σ x τ y count) : count ≤ n := by
  cases leg with
  | leaving under => exact under.le
  | outward under => exact under.le
  | received under => exact under.le
  | returning under => exact under
  | homeward under => exact under
  | back under => exact under
  | complete => exact Nat.le_refl n

/-- The responder has looked at the message of every round that is over,
and at that of this round perhaps. -/
theorem count_mem (leg : Leg h n k σ x τ y count) : k ≤ count ∧ count ≤ k + 1 := by
  cases leg <;> exact ⟨by omega, by omega⟩

end Leg

/-! ## The sender -/

/-- What the sender is at on its channel. -/
def SenderPhase.desk : SenderPhase → Desk
  | .pushing ticket => .pushing ticket
  | .getting ticket => .getting ticket
  | .ended _ => .ended

namespace Sender

variable {h : Nat → Bytes} {n k f b : Nat} {σ : Situation} {p p' : Sender}

/-- **The books of a sender** that has finished so many rounds, each with
its own message come back. -/
structure Counts (h : Nat → Bytes) (n k : Nat) (p : Sender) : Prop where
  messages : p.messages = h
  total : p.total = n
  finished : p.finished = k
  matched : p.matched = k
  complaints : p.output.complaints = []

/-- **A sender in a round**, between the backward ring and the forward
one. -/
structure At (f b : Nat) (h : Nat → Bytes) (n k : Nat) (σ : Situation) (p : Sender) : Prop
    extends Counts h n k p where
  steady : p.channel.Steady geometry b f
  stands : p.channel.Stands geometry p.phase.desk σ

/-- To look at what came back is to finish the round. -/
theorem Counts.noteEcho (hp : p.Counts h n k) : (p.noteEcho (h k)).Counts h n (k + 1) := by
  have hechoed : h k = p.messages p.finished := by rw [hp.messages, hp.finished]
  simp only [Sender.noteEcho, if_pos hechoed]
  split <;> exact {
    messages := hp.messages
    total := hp.total
    finished := congrArg (· + 1) hp.finished
    matched := congrArg (· + 1) hp.matched
    complaints := hp.complaints }

theorem channel_noteEcho (p : Sender) (echo : Bytes) : (p.noteEcho echo).channel = p.channel := by
  simp only [noteEcho]
  split <;> split <;> rfl

/-- **At the beginning of a round** the sender has the message of that
round to put in, or has ended. -/
theorem Counts.nextRound (hp : p.Counts h n k) (steady : p.channel.Steady geometry b f)
    (rests : p.channel.Rests) (hk : k ≤ n)
    (hlength : ∀ i < n, (h i).length = geometry.elementSize.toNat) :
    ∃ σ, Leg h n k σ none .waits none k ∧ p.nextRound.At f b h n k σ := by
  have hmore : p.finished < p.total ↔ k < n := by rw [hp.finished, hp.total]
  by_cases hunder : k < n
  · rw [Sender.nextRound, if_pos (hmore.2 hunder), hp.messages, hp.finished]
    obtain ⟨hstands, hsteady⟩ := rests.push steady (hlength k hunder)
    exact ⟨_, .leaving hunder, {
      messages := hp.messages
      total := hp.total
      finished := hp.finished
      matched := hp.matched
      complaints := hp.complaints
      steady := hsteady
      stands := hstands }⟩
  · obtain rfl : k = n := Nat.le_antisymm hk (Nat.not_lt.1 hunder)
    rw [Sender.nextRound, if_neg (mt hmore.1 hunder)]
    exact ⟨_, .complete, {
      messages := hp.messages
      total := hp.total
      finished := hp.finished
      matched := hp.matched
      complaints := hp.complaints
      steady := steady
      stands := .ended rests.inbound rests.outbound }⟩

/-- **What the sender does when a call of its own has returned** leads from
a leg to a leg. -/
theorem At.react {x y : Option Bytes} {τ : Situation} {count : Nat} (hp : p.At f b h n k σ)
    (leg : Leg h n k σ x τ y count)
    (hlength : ∀ i < n, (h i).length = geometry.elementSize.toNat) (hr : p.react = some p') :
    ∃ k' σ', Leg h n k' σ' x τ y count ∧ p'.At f b h n k' σ' := by
  have hstands := hp.stands
  unfold Sender.react at hr
  split at hr
  · cases hr
  · rename_i ticket hphase
    rw [hphase] at hstands
    split at hr
    · cases hr
    · rename_i hresult
      obtain ⟨-, ⟨_, hok⟩, -⟩ := hstands.pushed hresult
      cases hok
    · rename_i hresult
      obtain ⟨rfl, -, hrests⟩ := hstands.pushed hresult
      cases hr
      obtain ⟨hstands', hsteady⟩ := hrests.get (hp.steady.forget ticket .writer)
      exact ⟨k, .waits, leg, {
        messages := hp.messages
        total := hp.total
        finished := hp.finished
        matched := hp.matched
        complaints := hp.complaints
        steady := hsteady
        stands := hstands' }⟩
  · rename_i ticket hphase
    rw [hphase] at hstands
    split at hr
    · cases hr
    · rename_i hresult
      obtain ⟨_, -, hok, -⟩ := hstands.got hresult
      cases hok
    · rename_i echo hresult
      obtain ⟨e, rfl, hok, hrests⟩ := hstands.got hresult
      cases hok
      cases hr
      obtain ⟨rfl, hunder, rfl, rfl, rfl, rfl⟩ := leg.of_back
      let done : Sender := { p with channel := p.channel.forget ticket .reader }
      have hcounts : done.Counts h n k :=
        ⟨hp.messages, hp.total, hp.finished, hp.matched, hp.complaints⟩
      have hchannel : (done.noteEcho (h k)).channel = p.channel.forget ticket .reader :=
        done.channel_noteEcho (h k)
      obtain ⟨σ', leg', hat⟩ := hcounts.noteEcho.nextRound
        (hchannel.symm ▸ hp.steady.forget ticket .reader) (hchannel.symm ▸ hrests) hunder hlength
      exact ⟨k + 1, σ', leg', hat⟩

end Sender

/-! ## The responder -/

/-- What the responder is at on its channel. -/
def ResponderPhase.desk : ResponderPhase → Desk
  | .getting ticket => .getting ticket
  | .pushing ticket => .pushing ticket
  | .ended _ => .ended

namespace Responder

variable {f b : Nat} {τ : Situation} {q q' : Responder}

/-- What a get has handed to the responder that it has not looked at. -/
def received? (q : Responder) : Option Bytes :=
  match q.phase with
  | .getting ticket =>
    match q.channel.result? .reader ticket with
    | some (.ok element) => some element
    | _ => none
  | _ => none

/-- **A responder under way**, between the forward ring and the backward
one. -/
structure At (f b : Nat) (τ : Situation) (q : Responder) : Prop where
  steady : q.channel.Steady geometry f b
  stands : q.channel.Stands geometry q.phase.desk τ

theorem channel_noteElement (q : Responder) (element : Bytes) :
    (q.noteElement element).channel = q.channel := by
  simp only [noteElement]
  split <;> rfl

theorem channel_noteEcho (q : Responder) : q.noteEcho.channel = q.channel := by
  simp only [noteEcho]
  split <;> rfl

/-- **A responder that gets next** waits. -/
theorem at_beginGet (steady : q.channel.Steady geometry f b) (rests : q.channel.Rests) :
    q.beginGet.At f b .waits := by
  obtain ⟨hstands, hsteady⟩ := rests.get steady
  exact ⟨hsteady, hstands⟩

/-- **What the responder does when a call of its own has returned**: it
gets the next element, or has looked at one and is to put it in again. -/
theorem At.react (hq : q.At f b τ)
    (hlength : ∀ e, τ = .holds e → e.length = geometry.elementSize.toNat)
    (hr : q.react = some q') :
    (τ = .waits ∧ q.received? = none ∧ q'.At f b .waits) ∨
      ∃ e, τ = .holds e ∧ q.received? = some e ∧ q'.At f b (.sends e) := by
  have hstands := hq.stands
  unfold Responder.react at hr
  unfold received?
  split at hr
  · cases hr
  · rename_i ticket hphase
    rw [hphase] at hstands ⊢
    split at hr
    · cases hr
    · rename_i hresult
      obtain ⟨_, -, hok, -⟩ := hstands.got hresult
      cases hok
    · rename_i element hresult
      obtain ⟨e, rfl, hok, hrests⟩ := hstands.got hresult
      cases hok
      cases hr
      let done : Responder := { q with channel := q.channel.forget ticket .reader }
      have hchannel : (done.noteElement element).channel = q.channel.forget ticket .reader :=
        done.channel_noteElement element
      have hrests' : (done.noteElement element).channel.Rests := hchannel.symm ▸ hrests
      obtain ⟨hstands', hsteady⟩ := hrests'.push
        (hchannel.symm ▸ hq.steady.forget ticket .reader) (hlength _ rfl)
      refine .inr ⟨_, rfl, ?_, hsteady, hstands'⟩
      simp only [hresult]
  · rename_i ticket hphase
    rw [hphase] at hstands ⊢
    split at hr
    · cases hr
    · rename_i hresult
      obtain ⟨-, ⟨_, hok⟩, -⟩ := hstands.pushed hresult
      cases hok
    · rename_i hresult
      obtain ⟨rfl, -, hrests⟩ := hstands.pushed hresult
      cases hr
      let done : Responder := { q with channel := q.channel.forget ticket .writer }
      have hchannel : done.noteEcho.channel = q.channel.forget ticket .writer :=
        done.channel_noteEcho
      exact .inl ⟨rfl, rfl, at_beginGet
        (hchannel.symm ▸ hq.steady.forget ticket .writer) (hchannel.symm ▸ hrests)⟩

end Responder

end Echo

end TwinRing
