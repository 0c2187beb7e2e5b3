import TwinRing.Echo.Trial
import TwinRing.Proofs.Echo.Dialogue
/-!
# Echo programs — every message comes back

Two programs that nobody interrupts echo faithfully, however their steps
fall: where there were no rings, whichever of them is started first, and
where earlier runs have left rings behind, with whatever is unread in them,
if the sender is. Nothing is assumed of the messages but their length, and
nothing of the indices in the rings.
-/

namespace TwinRing

namespace Echo

/-! ## Where a dialogue begins -/

/-- **No ring is there.** -/
structure Vacant (s : Store) : Prop where
  forward : s.boundTo senderConfig.outName = none
  backward : s.boundTo senderConfig.inName = none

/-- **Both rings are there** from earlier runs, and whatever was left in
them. -/
structure Inherited (f b : Nat) (s : Store) : Prop where
  forward : s.boundTo senderConfig.outName = some f
  backward : s.boundTo senderConfig.inName = some b
  apart : f ≠ b
  liveForward : f < s.objects.size
  liveBackward : b < s.objects.size

/-- Whether the first program to be started is the sender. -/
def senderFirst : List Move → Bool
  | [] => true
  | .start .sender :: _ => true
  | .start .responder :: _ => false
  | .react _ :: rest => senderFirst rest
  | .turn _ _ _ :: rest => senderFirst rest

/-- **What a dialogue can begin with**, for these steps to follow. -/
def Ready (s : Store) (moves : List Move) : Prop :=
  Vacant s ∨ (∃ f b, Inherited f b s) ∧ senderFirst moves = true

namespace Dialogue

variable {h : Nat → Bytes} {n : Nat} {s : Store} {y y' : Dialogue} {m : Move} {moves : List Move}

/-- **The steps that are left and the dialogue fit**: nobody has been
started and they may follow, or only the responder is there, or a round is
under way. -/
def Fits (h : Nat → Bytes) (n : Nat) (s : Store) (moves : List Move) (y : Dialogue) : Prop :=
  (y = { store := s } ∧ Ready s moves) ∨ (∃ f b, Waiting f b y) ∨ Going h n y

/-- **The sender is the first to be started.** -/
theorem going_of_first {rest : List Move}
    (hlength : ∀ i < n, (h i).length = geometry.elementSize.toNat)
    (ready : Ready s (.start .sender :: rest))
    (hmove : move h n { store := s } (.start .sender) = some y') : Going h n y' := by
  simp only [move] at hmove
  split at hmove
  · cases hmove
  · rename_i p s' hstart
    cases hmove
    obtain ⟨c, s₁, s₂, hopened, hsender⟩ := Sender.of_startWith hlength rfl hstart
    rcases ready with hvacant | ⟨⟨f, b, hold⟩, -⟩
    · exact going_of_started (y := { store := s }) hsender (fun _ hq => by cases hq) rfl
        (hopened.founds names_differ hvacant.backward hvacant.forward).symm
    · obtain ⟨rfl, rfl, hrings⟩ := Sender.joins hopened hold.backward hold.forward
        hold.apart.symm hold.liveBackward hold.liveForward
      exact going_of_started (y := { store := s }) hsender (fun _ hq => by cases hq) rfl hrings

/-- **The responder is the first to be started**, and makes the rings. -/
theorem waiting_of_first (hvacant : Vacant s)
    (hmove : move h n { store := s } (.start .responder) = some y') : ∃ f b, Waiting f b y' := by
  simp only [move] at hmove
  split at hmove
  · cases hmove
  · rename_i q s' hstart
    cases hmove
    obtain ⟨c, s₁, s₂, hopened, hat⟩ := Responder.of_start hstart
    exact ⟨_, _, rfl, ⟨q, rfl, hat⟩, rfl,
      hopened.founds names_differ.symm hvacant.forward hvacant.backward⟩

/-- **A step leaves what fits the steps that are left.** -/
theorem Fits.move (hlength : ∀ i < n, (h i).length = geometry.elementSize.toNat)
    (hy : Fits h n s (m :: moves) y) (hmove : y.move h n m = some y') : Fits h n s moves y' := by
  rcases hy with ⟨rfl, ready⟩ | ⟨f, b, hwaiting⟩ | ⟨f, b, k, σ, x, τ, z, count, hunder⟩
  · cases m with
    | start who =>
      cases who with
      | sender => exact .inr (.inr (going_of_first hlength ready hmove))
      | responder =>
        rcases ready with hvacant | ⟨-, hfirst⟩
        · exact .inr (.inl (waiting_of_first hvacant hmove))
        · cases hfirst
    | react who =>
      cases who <;> cases hmove <;> exact .inl ⟨rfl, ready⟩
    | turn who role t =>
      simp only [Dialogue.move] at hmove
      split at hmove
      · cases who <;> cases hmove <;> exact .inl ⟨rfl, ready⟩
      · cases hmove
        exact .inl ⟨rfl, ready⟩
  · rcases hwaiting.step hlength (step_of_move hmove) with hstill | hgoing
    · exact .inr (.inl ⟨f, b, hstill⟩)
    · exact .inr (.inr hgoing)
  · exact .inr (.inr (hunder.step hlength (step_of_move hmove)))

theorem Fits.run (hlength : ∀ i < n, (h i).length = geometry.elementSize.toNat)
    (hy : Fits h n s moves y) (hrun : Dialogue.run h n moves y = some y') : Fits h n s [] y' := by
  induction moves generalizing y with
  | nil => cases hrun; exact hy
  | cons m rest ih =>
    obtain ⟨after, hmove, hrest⟩ := Option.bind_eq_some_iff.1 hrun
    exact ih (hy.move hlength hmove) hrest

/-- **What is so in a dialogue all the time.** -/
structure Faithful (h : Nat → Bytes) (n : Nat) (y : Dialogue) : Prop where
  /-- Every round that the sender has finished has matched, and the sender
  has not complained. -/
  matched : ∀ p, y.sender = some p → p.matched = p.finished ∧ p.output.complaints = []
  /-- What the responder has looked at are the messages, in order. -/
  heard : y.heard = (List.range y.heard.length).map h ∧ y.heard.length ≤ n
  /-- It has looked at those of all rounds that are finished, and is ahead
  by one at most. -/
  ahead : ∀ p, y.sender = some p →
    p.finished ≤ y.heard.length ∧ y.heard.length ≤ p.finished + 1
  /-- Once the sender is there the two rings hold one element at most. -/
  carried : ∀ p, y.sender = some p →
    (p.channel.inbound.view.length y.store).1.toNat +
      (p.channel.outbound.view.length y.store).1.toNat ≤ 1

theorem faithful_of_absent (hsender : y.sender = none) (hheard : y.heard = []) :
    y.Faithful h n where
  matched p hp := by rw [hsender] at hp; cases hp
  heard := by rw [hheard]; exact ⟨rfl, Nat.zero_le n⟩
  ahead p hp := by rw [hsender] at hp; cases hp
  carried p hp := by rw [hsender] at hp; cases hp

theorem Fits.faithful (hy : Fits h n s moves y) : y.Faithful h n := by
  rcases hy with ⟨rfl, -⟩ | ⟨f, b, hwaiting⟩ | ⟨f, b, k, σ, x, τ, z, count, hunder⟩
  · exact faithful_of_absent rfl rfl
  · exact faithful_of_absent hwaiting.sender hwaiting.heard
  · obtain ⟨p, hp, hat⟩ := hunder.sender
    have hcount : y.heard.length = count := by rw [hunder.heard]; simp
    refine ⟨fun p' hp' => ?_, ⟨by rw [hcount]; exact hunder.heard, hcount ▸ hunder.leg.count_le⟩,
      fun p' hp' => ?_, fun p' hp' => ?_⟩
    · obtain rfl : p = p' := Option.some.inj (hp.symm.trans hp')
      exact ⟨hat.matched.trans hat.finished.symm, hat.complaints⟩
    · obtain rfl : p = p' := Option.some.inj (hp.symm.trans hp')
      rw [hcount, hat.finished]
      exact hunder.leg.count_mem
    · obtain rfl : p = p' := Option.some.inj (hp.symm.trans hp')
      have hin : (p.channel.inbound.view.length y.store).1.toNat = z.toList.length := by
        rw [← hunder.rings.outbound.toNat_length valid_geometry, ← hat.steady.inbound.object,
          ← hat.steady.inbound.geometry]
        rfl
      have hout : (p.channel.outbound.view.length y.store).1.toNat = x.toList.length := by
        rw [← hunder.rings.inbound.toNat_length valid_geometry, ← hat.steady.outbound.object,
          ← hat.steady.outbound.geometry]
        rfl
      rw [hin, hout, Nat.add_comm]
      exact hunder.leg.carried_le

/-- **The programs echo every message.** Let them be started where neither
name is bound, in any order and as far apart as one likes, or else where
both rings are left from earlier runs, whatever is unread in them, the
sender first; and let their threads and their main loops take any steps.
Then at any time every round that the sender has finished has matched, what
the responder has looked at are the messages in their order, at most one
ahead of the rounds, and the two rings never hold more than one element
once the sender is there. -/
theorem echoes_every_message (h : Nat → Bytes) (n : Nat)
    (hlength : ∀ k < n, (h k).length = Digest.length) (s : Store) (moves : List Move)
    (ready : Ready s moves) (y : Dialogue) (hrun : run h n moves { store := s } = some y) :
    y.Faithful h n :=
  (Fits.run hlength (.inl ⟨rfl, ready⟩) hrun).faithful

/-! ## Two dialogues -/

/-- Messages that are told apart by a number. -/
def numbered (k : Nat) : Bytes := List.replicate Digest.length (UInt8.ofNat (k + 1))

/-- A program gets one element across on one of its lanes. -/
def crossing (who : Party) (role : Role) (ticket : Nat) : List Move :=
  [.turn who role (.call ticket), .turn who role (.call ticket), .turn who role .worker,
    .turn who role .worker, .turn who role .worker, .turn who role .worker,
    .turn who role (.call ticket), .react who]

/-- One round, from the sender's push on. -/
def round (k : Nat) : List Move :=
  crossing .sender .writer k ++ crossing .responder .reader k ++
    crossing .responder .writer k ++ crossing .sender .reader k

/-- A store with both rings, and elements in them that nobody took out. -/
def usedStore : Store :=
  match openPeer {} with
  | (none, s) => s
  | (some peer, s) =>
    putAll peer.backward [numbered 6] (putAll peer.forward [numbered 7, numbered 8] s)

theorem inherited_usedStore : Inherited 0 1 usedStore := by
  have hfacts : (usedStore.boundTo senderConfig.outName, usedStore.boundTo senderConfig.inName,
      usedStore.objects.size) = (some 0, some 1, 2) := by decide +kernel
  simp only [Prod.mk.injEq] at hfacts
  obtain ⟨hforward, hbackward, hsize⟩ := hfacts
  exact ⟨hforward, hbackward, Nat.zero_ne_one, by rw [hsize]; decide, by rw [hsize]; decide⟩

theorem vacant_empty : Vacant {} := ⟨rfl, rfl⟩

/-- Two rounds over used rings. -/
def inheriting : List Move := .start .sender :: .start .responder :: (round 0 ++ round 1)

/-- The responder is started when the message is on its way already. -/
def late : List Move :=
  .start .sender :: (crossing .sender .writer 0 ++ .start .responder :: round 0)

/-- What the responder has heard, and how many messages came back. -/
def gist (y : Dialogue) : List Bytes × Option Nat := (y.heard, y.sender.map Sender.matched)

theorem echoes_every_message_both :
    (∃ y, run numbered 2 inheriting { store := usedStore } = some y ∧
      y.gist = ([numbered 0, numbered 1], some 2) ∧ y.Faithful numbered 2) ∧
      ∃ y, run numbered 1 late { store := {} } = some y ∧
        y.gist = ([numbered 0], some 1) ∧ y.Faithful numbered 1 := by
  have hlength : ∀ n, ∀ k < n, (numbered k).length = Digest.length := fun _ _ _ =>
    List.length_replicate
  have hinheriting : (run numbered 2 inheriting { store := usedStore }).map gist =
      some ([numbered 0, numbered 1], some 2) := by decide +kernel
  have hlate : (run numbered 1 late { store := {} }).map gist = some ([numbered 0], some 1) := by
    decide +kernel
  obtain ⟨y, hrun, hgist⟩ := Option.map_eq_some_iff.1 hinheriting
  obtain ⟨z, hrun', hgist'⟩ := Option.map_eq_some_iff.1 hlate
  exact ⟨⟨y, hrun, hgist, echoes_every_message numbered 2 (hlength 2) usedStore inheriting
      (.inr ⟨⟨0, 1, inherited_usedStore⟩, rfl⟩) y hrun⟩,
    ⟨z, hrun', hgist', echoes_every_message numbered 1 (hlength 1) {} late (.inl vacant_empty) z
      hrun'⟩⟩

end Dialogue

end Echo

end TwinRing
