import TwinRing.Proofs.Duplex.Building
/-!
# Both ends — what is sent arrives

The elements that one end's worker puts in are those that the other end's
caller gets, in order, none lost and none twice, but for those that are
still in between: in the ring, and at most one in the hands of the other
end's worker or in its slot. And they are a part of what was pushed, in
order. So it is in both directions at once, in every order of steps of all
threads (`Duplex.stream`).

Each of the three equations comes from another place: what is put in is
part of what is pushed on the sending lane, what is in the ring is what was
put in and not taken out, and what is taken out is handed out on the
receiving lane.
-/

namespace TwinRing

namespace Duplex

variable {wire : End → Wire} {d : Duplex} {side : End} {role : Role} {c : Course}

/-! ## Both ends as they are wired -/

/-- What is put in is part of what is pushed, in order. -/
theorem Wired.sent_sublist (h : d.Wired wire) (side : End) :
    (d.sent side).Sublist (d.pushed side) := by
  rw [sent, pushed]
  cases hc : d.lane? side .writer with
  | none =>
    rw [record, hc]
    exact List.nil_sublist _
  | some c =>
    rw [record_of_some hc]
    exact ((h.lanes _ _ _ hc).sender rfl).ordered.sublist

/-- **What is put in is handed out, under way, or unread.** -/
theorem Wired.sent_eq (h : d.Wired wire) (hc : d.lane? side.other .reader = some c)
    (hbound : (d.sent side).flatten.length < UInt64.size) :
    d.sent side = d.delivered side.other ++ d.underWay side.other ++ d.unread side.other ∧
      (d.underWay side.other).length ≤ 1 := by
  have hon := h.lanes _ _ _ hc
  rw [show Role.sender .reader side.other = side from side.other_other] at hon
  have hreceiver := hon.receiver rfl
  have htaken : d.taken side.other = c.exchange.dequeued :=
    congrArg (List.flatMap Deed.dequeued) (record_of_some hc)
  have hdelivered : d.delivered side.other = c.exchange.handedOut :=
    congrArg (List.flatMap Deed.handedOut) (record_of_some hc)
  have hunderWay : d.underWay side.other = c.exchange.onItsWay := by rw [underWay, hc]; rfl
  have hunread : d.unread side.other =
      Ring.contents (wire side).geometry (d.store.object (wire side).number) := by
    rw [unread, hc, ← hon.geometry, ← hon.object]
    rfl
  rw [(h.conduit side hbound).sequence, htaken, hreceiver.sequence, hdelivered, hunderWay, hunread]
  exact ⟨rfl, hreceiver.serviced.length_onItsWay_le⟩

/-- A move builds no end and takes none down. -/
theorem isSome_lane?_move (d : Duplex) (m : Move) (side : End) (role : Role) :
    ((d.move m).lane? side role).isSome = (d.lane? side role).isSome := by
  cases hc : d.lane? m.side m.role with
  | none => rw [move_of_none hc]
  | some c =>
    by_cases hsame : side = m.side ∧ role = m.role
    · obtain ⟨rfl, rfl⟩ := hsame
      rw [lane?_move_self hc, hc]
      rfl
    · rw [lane?_move_of_ne hc hsame]

theorem isSome_lane?_run (moves : List Move) (side : End) (role : Role) :
    ((d.run moves).lane? side role).isSome = (d.lane? side role).isSome :=
  run_induction (P := fun d' => (d'.lane? side role).isSome = (d.lane? side role).isSome) moves
    rfl fun d' m h => (isSome_lane?_move d' m side role).trans h

theorem Wired.run (h : d.Wired wire) (moves : List Move) : (d.run moves).Wired wire :=
  run_induction moves h fun _ m hd => hd.move m

/-- An end has lanes from its building on, and the other is as it was. -/
theorem isSome_lane?_build {config : Config} {d' : Duplex} (h : d.build side config = some d')
    (side' : End) (role : Role) :
    (d'.lane? side' role).isSome = (decide (side' = side) || (d.lane? side' role).isSome) := by
  obtain ⟨channel, s₁, s₂, s', -, rfl⟩ := built_of_build h
  by_cases hsame : side' = side
  · rw [show (d.withChannel side channel s').lane? side' role =
      some { lane := channel.lane role, store := s' } from if_pos hsame, decide_eq_true hsame]
    rfl
  · rw [show (d.withChannel side channel s').lane? side' role = d.lane? side' role from
      if_neg hsame, decide_eq_false hsame, Bool.false_or]

/-! ## From the building of both ends on -/

section Stream

variable {b : Builder} {s : Store} {d₁ d₂ : Duplex} {early : List Move}

/-- **Two ends that were built from a builder and its opposite are wired**,
and stay so. -/
theorem wired_of_builds
    (different : SegmentName.ofString b.inName ≠ SegmentName.ofString b.outName)
    (free : ∀ given ∈ [b.inName, b.outName], ∀ name,
      SegmentName.ofString given = .ok name → s.lookup name = none)
    (first : (unbuilt s).build .near b.config = some d₁)
    (unpushed : (d₁.run early).pushed .near = [])
    (second : (d₁.run early).build .far b.opposite.config = some d₂) :
    ∃ wire, d₂.Wired wire := by
  obtain ⟨wire, hfirst, hnamed⟩ := wired_of_first different free first
  have hearly := hfirst.run early
  have hunsent : (d₁.run early).sent .near = [] := by
    have hsublist := hearly.sent_sublist .near
    rw [unpushed] at hsublist
    exact List.eq_nil_of_sublist_nil hsublist
  have habsent : ∀ role, (d₁.run early).lane? .far role = none := fun role => by
    rw [← Option.not_isSome_iff_eq_none, isSome_lane?_run, isSome_lane?_build first]
    simp [unbuilt]
  exact ⟨wire, hearly.of_second hnamed.opposite habsent hunsent second⟩

/-- **What is sent arrives.** One end is built from a builder and the other
from its opposite, in a store in which the names of the two rings are free
and different, and nothing is pushed before both are built. After that the
threads of both ends take their steps in any order: one caller for each
lane, the four workers, and whoever shuts a direction down.

Then at every moment, and in both directions, as long as fewer than 2⁶⁴
bytes were put in: what the receiving caller was handed is a prefix of what
the sending worker put in, and the rest is what is unread in the ring and
at most one element before it, in the receiving worker's hand or in the
slot. What was put in is part of what was pushed, in order. And of a
blocking push nothing is put in but its element, once at most, and once if
it has returned with success. As the builder's opposite has the first as
its own, it does not matter which of the two ends is built first. -/
theorem stream
    (different : SegmentName.ofString b.inName ≠ SegmentName.ofString b.outName)
    (free : ∀ given ∈ [b.inName, b.outName], ∀ name,
      SegmentName.ofString given = .ok name → s.lookup name = none)
    (first : (unbuilt s).build .near b.config = some d₁)
    (unpushed : (d₁.run early).pushed .near = [])
    (second : (d₁.run early).build .far b.opposite.config = some d₂)
    (moves : List Move) (side : End) :
    let d := d₂.run moves
    ((d.sent side).flatten.length < UInt64.size →
      d.delivered side.other <+: d.sent side ∧
        d.sent side = d.delivered side.other ++ d.underWay side.other ++ d.unread side.other ∧
        (d.underWay side.other).length ≤ 1) ∧
      (d.sent side).Sublist (d.pushed side) ∧
      ∃ c, d.lane? side .writer = some c ∧
        ∀ ticket element, .began ticket element ∈ c.record →
          (c.successes ticket).Sublist (d.sent side) ∧ (c.successes ticket).Sublist [element] ∧
            ∀ r, c.result? ticket = some (.ok r) → c.successes ticket = [element] := by
  intro d
  obtain ⟨wire, hwired⟩ := wired_of_builds different free first unpushed second
  have h : d.Wired wire := hwired.run moves
  have hlanes : ∀ side role, ∃ c, d.lane? side role = some c := fun side role => by
    refine Option.isSome_iff_exists.1 ?_
    rw [isSome_lane?_run, isSome_lane?_build second, isSome_lane?_run, isSome_lane?_build first]
    cases side <;> rfl
  refine ⟨fun hbound => ?_, h.sent_sublist side, ?_⟩
  · obtain ⟨c, hc⟩ := hlanes side.other .reader
    obtain ⟨hsent, hone⟩ := h.sent_eq hc hbound
    exact ⟨⟨_, (hsent.trans (List.append_assoc ..)).symm⟩, hsent, hone⟩
  · obtain ⟨c, hc⟩ := hlanes side .writer
    refine ⟨c, hc, fun ticket element hbegan => ?_⟩
    obtain ⟨hpart, hreturned⟩ := ((h.lanes _ _ _ hc).sender rfl).successes_eq hbegan
    have hsent : d.sent side = puts c.record := congrArg puts (record_of_some hc)
    refine ⟨?_, hpart, fun r hr => hreturned r (Course.result?_eq_some_iff.1 hr)⟩
    rw [hsent]
    exact successes_sublist_puts ticket c.record

end Stream

/-! ### An example of such a stream -/

/-- A ring of one element from the near end to the far. -/
def narrowBuilder : Builder :=
  { inName := "back", outName := "out", outCapacity := 1, inElementSize := 1, outElementSize := 1 }

theorem isSome_narrow : ((unbuilt {}).build .near narrowBuilder.config).isSome = true := by
  decide +kernel

def narrowNear : Duplex := Option.get _ isSome_narrow

/-- The near end has already asked for an element. -/
def narrowEarly : List Move := [⟨.near, .reader, .submit [0]⟩, ⟨.near, .reader, .worker⟩]

theorem isSome_narrowBoth :
    ((narrowNear.run narrowEarly).build .far narrowBuilder.opposite.config).isSome = true := by
  decide +kernel

def narrowBoth : Duplex := Option.get _ isSome_narrowBoth

/-- A blocking call's way to the ring and back, as far as its result. -/
def attempted (side : End) (role : Role) (ticket : Nat) : List Move :=
  [⟨side, role, .call ticket⟩, ⟨side, role, .call ticket⟩] ++
    List.replicate 4 ⟨side, role, .worker⟩ ++ [⟨side, role, .call ticket⟩]

/-- Two pushes, of which the second finds the ring full until the first
element was taken out. -/
def narrowMoves : List Move :=
  ⟨.near, .writer, .begin [7] (.backoff ⟨0, 0⟩)⟩ :: attempted .near .writer 0 ++
    ⟨.near, .writer, .begin [8] (.backoff ⟨0, 0⟩)⟩ :: attempted .near .writer 1 ++
    ⟨.far, .reader, .begin [0] (.fixed ⟨0, 0⟩)⟩ :: attempted .far .reader 0 ++
    attempted .near .writer 1

theorem stream_narrow :
    let d := narrowBoth.run narrowMoves
    (d.pushed .near, d.delivered .far, d.unread .far) = ([[7], [8]], [[7]], [[8]]) ∧
      d.sent .near = d.delivered .far ++ d.underWay .far ++ d.unread .far ∧
      (d.sent .near).Sublist (d.pushed .near) := by
  intro d
  have different : SegmentName.ofString narrowBuilder.inName ≠
      SegmentName.ofString narrowBuilder.outName := by decide +kernel
  obtain ⟨hstream, hpart, -⟩ := stream different (fun _ _ _ _ => rfl)
    (Option.some_get isSome_narrow).symm (by decide +kernel)
    (Option.some_get isSome_narrowBoth).symm narrowMoves .near
  exact ⟨by decide +kernel, (hstream (by decide +kernel)).2.1, hpart⟩

end Duplex

end TwinRing
