import TwinRing.Proofs.Channel.Opened
import TwinRing.Proofs.Duplex.Wired
/-!
# Both ends — how they come to be wired

To build a channel is to open two rings, to clear them if that is asked
for, and to start two workers, which find nothing to do and go to sleep
(`Channel.Built`). The end that is built first finds both names free and
makes the rings. The other finds both bound to these very rings, and as
long as nothing was put into them, clearing them is of no consequence.
-/

namespace TwinRing

/-- The ring of a view. -/
def View.wire (v : View) : Wire := ⟨v.name, v.geometry, v.handle.object⟩

namespace Store

variable {s s' : Store} {given : String} {g : Geometry} {v : View}

/-- **What an open of a ring that succeeds has done.** -/
structure RingTaken (s s' : Store) (given : String) (g : Geometry) (v : View) : Prop where
  name : SegmentName.ofString given = .ok v.name
  valid : g.Valid
  geometry : v.geometry = g
  /-- The objects that were there are as they were. -/
  objects : ∀ n < s.objects.size, s'.object n = s.object n
  /-- A name that was free stands for a fresh ring now. -/
  created : s.lookup v.name = none →
    Created s v.name v.handle.object s' ∧ Ring.Fresh (s'.object v.handle.object)
  /-- One that was bound was bound to this ring. -/
  joined : ∀ n, s.lookup v.name = some n → Joined s v.name v.handle.object s'

theorem ringTaken_of_openRing (h : s.openRing given g = (.ok v, s')) :
    RingTaken s s' given g v := by
  have hgranted := ringGranted_of_openRing h
  have hheld := hgranted.granted.held
  have hfresh := hgranted.fresh
  have hvalid := (Geometry.segmentSize_eq_ok_iff.1 hgranted.segmentSize).1
  refine ⟨hgranted.name, hvalid, hgranted.geometry, hheld.holding.objects, fun hfree => ?_,
    fun n hbound => ?_⟩
  · cases hcreator : v.handle.creator with
    | true => exact ⟨hheld.holding.created hcreator, hfresh hcreator⟩
    | false =>
      rw [(hheld.holding.joined hcreator).bound] at hfree
      cases hfree
  · cases hcreator : v.handle.creator with
    | true =>
      rw [(hheld.holding.created hcreator).free] at hbound
      cases hbound
    | false => exact hheld.holding.joined hcreator

/-- **Two rings that were made one after the other**, each under a name of
its own. -/
structure RingsFounded (s : Store) (v w : View) : Prop where
  apart : v.handle.object ≠ w.handle.object
  live : v.handle.object < s.objects.size
  live' : w.handle.object < s.objects.size
  bound : s.lookup v.name = some v.handle.object
  bound' : s.lookup w.name = some w.handle.object
  fresh : Ring.Fresh (s.object v.handle.object)
  fresh' : Ring.Fresh (s.object w.handle.object)

/-- Neither name is bound when its ring is opened, so both rings are
new. -/
theorem ringsFounded_of_taken {s₁ s₂ : Store} {given' : String} {g' : Geometry} {w : View}
    (hv : RingTaken s s₁ given g v) (hw : RingTaken s₁ s₂ given' g' w) (hne : v.name ≠ w.name)
    (hfree : s.lookup v.name = none) (hfree' : s.lookup w.name = none) :
    RingsFounded s₂ v w := by
  obtain ⟨hnew, hfresh⟩ := hv.created hfree
  have hstill : s₁.lookup w.name = none := by
    rw [lookup, hnew.names, List.lookup_cons, beq_false_of_ne hne.symm]
    exact hfree'
  obtain ⟨hnew', hfresh'⟩ := hw.created hstill
  have hnumber := hnew.number_eq
  have hnumber' := hnew'.number_eq.trans hnew.size
  have hsize := hnew'.size.trans (congrArg (· + 1) hnew.size)
  have hstays := hw.objects v.handle.object (by rw [hnumber, hnew.size]; exact Nat.lt_succ_self _)
  exact {
    apart := by rw [hnumber, hnumber']; exact (Nat.succ_ne_self _).symm
    live := by rw [hnumber, hsize]; exact Nat.lt_succ_of_lt (Nat.lt_succ_self _)
    live' := by rw [hnumber', hsize]; exact Nat.lt_succ_self _
    bound := by
      rw [lookup, hnew'.names, List.lookup_cons, beq_false_of_ne hne, hnew.names]
      exact List.lookup_cons_self
    bound' := by
      rw [lookup, hnew'.names]
      exact List.lookup_cons_self
    fresh := hstays.symm ▸ hfresh
    fresh' := hfresh' }

end Store

/-! ## A channel that was built -/

/-- To clear rings that nothing was put into is of no consequence. -/
theorem Ring.Conduit.clearIf {g : Geometry} {taken : List Bytes} {s : Store} {n : Nat}
    (h : Conduit g [] taken (s.object n)) (hv : g.Valid) (live : n < s.objects.size) (asked : Bool)
    (v : View) : Conduit g [] taken ((Channel.clearIf asked v s).object n) := by
  unfold Channel.clearIf
  split
  · by_cases hsame : v.handle.object = n
    · have hobject : (v.clear s).object n = Ring.clear (s.object n) := by
        subst hsame
        exact Store.object_setObject_self live
      rw [hobject]
      exact h.clear hv
    · have hobject : (v.clear s).object n = s.object n := Store.object_setObject_of_ne hsame
      rw [hobject]
      exact h
  · exact h

theorem Channel.size_clearIf (asked : Bool) (v : View) (s : Store) :
    (clearIf asked v s).objects.size = s.objects.size ∧
      (clearIf asked v s).names = s.names := by
  unfold clearIf
  split
  · exact ⟨Store.size_setObject, rfl⟩
  · exact ⟨rfl, rfl⟩

/-- A lane whose worker has found nothing to do. -/
def Course.ready (view : View) (role : Role) (elementSize : UInt64) (s : Store) : Course :=
  (Course.start view role elementSize s).run [.spawn, .worker]

theorem Course.onWire_ready (view : View) (role : Role) (elementSize : UInt64) (s : Store) :
    (ready view role elementSize s).OnWire view.wire role where
  geometry := rfl
  object := rfl
  role_eq := rfl
  accounted := accounted_run view role elementSize s _
  sender hrole := by
    subst hrole
    exact Floor.sender_of_new rfl fun _ => rfl
  receiver _ := by
    have hnew : (ready view role elementSize s).exchange = ⟨role, .empty, .free, none, []⟩ := rfl
    rw [hnew]
    exact ⟨⟨rfl, by simp⟩, rfl⟩

namespace Channel

/-- **What the building of a channel comes to**: it has opened its rings,
and its workers are ready. -/
structure Built (config : Config) (s s₁ s₂ s' : Store) (c : Channel) : Prop where
  inbound : s.openRing config.inName config.inGeometry = (.ok c.inbound.view, s₁)
  outbound : s₁.openRing config.outName config.outGeometry = (.ok c.outbound.view, s₂)
  names : s'.names = s₂.names
  objects : s'.objects =
    (clearIf config.clearOut c.outbound.view (clearIf config.clearIn c.inbound.view s₂)).objects
  ready : ∀ role, ∃ elementSize, ∀ t, ({ lane := c.lane role, store := t } : Course) =
    Course.ready (c.lane role).view role elementSize t

variable {config : Config} {s s₁ s₂ s' : Store} {c : Channel}

/-- **A channel that was built has been built so**: its lanes are dormant,
and so is a lane whose worker has found nothing to do. -/
theorem built_of_build (h : build config s = (.ok c, s')) : ∃ s₁ s₂, Built config s s₁ s₂ s' c := by
  obtain ⟨s₁, s₂, hopened⟩ := opened_of_build h
  obtain ⟨faults, journal, hstore⟩ := hopened.store
  refine ⟨s₁, s₂, hopened.inbound, hopened.outbound, ?_, ?_, fun role => ?_⟩
  · rw [hstore]
    exact (size_clearIf ..).2.trans (size_clearIf ..).2
  · rw [hstore]
  · refine ⟨(config.geometry role).elementSize, fun t => ?_⟩
    rw [hopened.lane_eq role]
    rfl

namespace Built

variable {g : Geometry} {taken : List Bytes} {n : Nat}
variable (h : Built config s s₁ s₂ s' c)
include h

theorem size_eq : s'.objects.size = s₂.objects.size := by
  rw [h.objects, (size_clearIf ..).1, (size_clearIf ..).1]

theorem onWire (role : Role) (t : Store) :
    ({ lane := c.lane role, store := t } : Course).OnWire (c.lane role).view.wire role := by
  obtain ⟨elementSize, hready⟩ := h.ready role
  rw [hready]
  exact Course.onWire_ready ..

/-- The clears at the start are of no consequence to a ring that nothing
was put into. -/
theorem conduit (hv : g.Valid) (live : n < s₂.objects.size)
    (hc : Ring.Conduit g [] taken (s₂.object n)) : Ring.Conduit g [] taken (s'.object n) := by
  have hobject : s'.object n = (clearIf config.clearOut c.outbound.view
      (clearIf config.clearIn c.inbound.view s₂)).object n :=
    congrArg (·.getD n {}) h.objects
  rw [hobject]
  refine (hc.clearIf hv live _ _).clearIf hv ?_ _ _
  rw [(size_clearIf ..).1]
  exact live

end Built

end Channel

/-! ## Both ends -/

namespace Duplex

variable {wire : End → Wire} {d d' : Duplex} {side : End} {config : Config}
variable {s s₁ s₂ s' : Store} {channel : Channel}

/-- **The rings that an end's configuration speaks of.** -/
structure Named (config : Config) (wire : End → Wire) (side : End) : Prop where
  outName : SegmentName.ofString config.outName = .ok (wire side).name
  outGeometry : config.outGeometry = (wire side).geometry
  inName : SegmentName.ofString config.inName = .ok (wire side.other).name
  inGeometry : config.inGeometry = (wire side.other).geometry

/-- What one end sends over is what the other receives from. -/
theorem Named.opposite {b : Builder} (h : Named b.config wire .near) :
    Named b.opposite.config wire .far :=
  ⟨h.inName, h.inGeometry, h.outName, h.outGeometry⟩

theorem built_of_build (h : d.build side config = some d') : ∃ channel s₁ s₂ s',
    Channel.Built config d.store s₁ s₂ s' channel ∧ d' = d.withChannel side channel s' := by
  unfold build at h
  rcases hbuild : Channel.build config d.store with ⟨e | channel, s'⟩
  · rw [hbuild] at h; cases h
  rw [hbuild] at h
  obtain ⟨s₁, s₂, hbuilt⟩ := Channel.built_of_build hbuild
  exact ⟨channel, s₁, s₂, s', hbuilt, (Option.some.inj h).symm⟩

/-- Nothing was done yet on the lanes of an end that was just built. -/
theorem record_withChannel_self (role : Role) :
    (d.withChannel side channel s').record side role = [] := by
  have hlane : (d.withChannel side channel s').lane? side role =
      some { lane := channel.lane role, store := s' } := if_pos rfl
  rw [record, hlane]
  rfl

theorem record_withChannel_other (role : Role) :
    (d.withChannel side channel s').record side.other role = d.record side.other role := by
  have hlane : (d.withChannel side channel s').lane? side.other role = d.lane? side.other role :=
    if_neg fun h => (End.eq_other_iff.1 h.symm) rfl
  rw [record, record, hlane]

/-- **An end that is built on rings that nothing was put into** is wired to
the other. -/
theorem wired_withChannel (hb : Channel.Built config d.store s₁ s₂ s' channel)
    (hwire : ∀ role, (channel.lane role).view.wire = wire (role.sender side))
    (valid : ∀ sender, (wire sender).geometry.Valid)
    (apart : ∀ sender sender', (wire sender).number = (wire sender').number → sender = sender')
    (live : ∀ sender, (wire sender).number < s₂.objects.size)
    (bound : ∀ sender, s₂.lookup (wire sender).name = some (wire sender).number)
    (lanes : ∀ role c, d.lane? side.other role = some c →
      c.OnWire (wire (role.sender side.other)) role)
    (hsent : d.sent side.other = [])
    (out : Ring.Conduit (wire side).geometry [] (d.taken side.other)
      (s₂.object (wire side).number))
    (back : Ring.Conduit (wire side.other).geometry [] [] (s₂.object (wire side.other).number)) :
    (d.withChannel side channel s').Wired wire := by
  have hsize : (d.withChannel side channel s').store.objects.size = s₂.objects.size := hb.size_eq
  have hnames : (d.withChannel side channel s').store.names = s₂.names := hb.names
  refine ⟨valid, apart, fun sender => by rw [hsize]; exact live sender,
    fun sender => by rw [Store.lookup, hnames]; exact bound sender,
    fun side' role c hc => ?_, fun sender _ => ?_⟩
  · by_cases hsame : side' = side
    · have hlane : (d.withChannel side channel s').lane? side' role =
          some { lane := channel.lane role, store := s' } := if_pos hsame
      rw [hsame, ← hwire, ← Option.some.inj (hlane.symm.trans hc)]
      exact hb.onWire role s'
    · have hlane : (d.withChannel side channel s').lane? side' role = d.lane? side' role :=
        if_neg hsame
      rw [hlane] at hc
      obtain rfl : side' = side.other := End.eq_other_iff.2 hsame
      exact lanes role c hc
  · by_cases hsame : sender = side
    · subst hsame
      rw [sent, taken, record_withChannel_self, record_withChannel_other]
      exact hb.conduit (valid sender) (live sender) out
    · obtain rfl : sender = side.other := End.eq_other_iff.2 hsame
      rw [End.other_other, sent, taken, record_withChannel_self, record_withChannel_other]
      rw [show puts (d.record side.other .writer) = [] from hsent]
      exact hb.conduit (valid _) (live _) back

/-- Two rings, by who sends over them. -/
def wires (near far : Wire) : End → Wire
  | .near => near
  | .far => far

/-- **The end that is built first makes both rings**, if their names are
different and free. -/
theorem wired_of_first (different : SegmentName.ofString config.inName ≠
      SegmentName.ofString config.outName)
    (free : ∀ given ∈ [config.inName, config.outName], ∀ name,
      SegmentName.ofString given = .ok name → s.lookup name = none)
    (h : (unbuilt s).build .near config = some d) :
    ∃ wire, d.Wired wire ∧ Named config wire .near := by
  obtain ⟨channel, s₁, s₂, s', hb, rfl⟩ := built_of_build h
  have hin := Store.ringTaken_of_openRing hb.inbound
  have hout := Store.ringTaken_of_openRing hb.outbound
  have hne : channel.inbound.view.name ≠ channel.outbound.view.name := fun heq =>
    different (by rw [hin.name, hout.name, heq])
  have hfounded := Store.ringsFounded_of_taken hin hout hne (free _ (by simp) _ hin.name)
    (free _ (by simp) _ hout.name)
  have hvalid : channel.inbound.view.geometry.Valid := by rw [hin.geometry]; exact hin.valid
  have hvalid' : channel.outbound.view.geometry.Valid := by rw [hout.geometry]; exact hout.valid
  refine ⟨wires channel.outbound.view.wire channel.inbound.view.wire,
    wired_withChannel hb (fun role => by cases role <;> rfl) ?_ ?_ ?_ ?_
      (fun role c hc => by cases hc) rfl (.of_fresh hvalid' hfounded.fresh')
      (.of_fresh hvalid hfounded.fresh),
    hout.name, hout.geometry.symm, hin.name, hin.geometry.symm⟩
  · rintro ⟨⟩
    · exact hvalid'
    · exact hvalid
  · rintro ⟨⟩ ⟨⟩ heq
    · rfl
    · exact absurd heq.symm hfounded.apart
    · exact absurd heq hfounded.apart
    · rfl
  · rintro ⟨⟩
    · exact hfounded.live'
    · exact hfounded.live
  · rintro ⟨⟩
    · exact hfounded.bound'
    · exact hfounded.bound

/-- A ring that was joined is the one that its name stands for. -/
theorem Wired.joins (h : d.Wired wire) {given : String} {g : Geometry} {v : View} {sender : End}
    (hnames : s.names = d.store.names) (htaken : Store.RingTaken s s' given g v)
    (hname : SegmentName.ofString given = .ok (wire sender).name)
    (hgeometry : g = (wire sender).geometry) :
    Store.Joined s v.name v.handle.object s' ∧ v.wire = wire sender := by
  have hsame : v.name = (wire sender).name := Except.ok.inj (htaken.name.symm.trans hname)
  have hbound : s.lookup v.name = some (wire sender).number := by
    rw [Store.lookup, hnames, hsame]
    exact h.bound sender
  have hjoined := htaken.joined _ hbound
  have hnumber : v.handle.object = (wire sender).number :=
    Option.some.inj (hjoined.bound.symm.trans hbound)
  refine ⟨hjoined, ?_⟩
  rw [View.wire, hsame, htaken.geometry, hgeometry, hnumber]

/-- **The end that is built second joins both rings**, whatever was done
at the first, as long as nothing was put in there. -/
theorem Wired.of_second (h : d.Wired wire) (named : Named config wire .far)
    (absent : ∀ role, d.lane? .far role = none) (hsent : d.sent .near = [])
    (hbuild : d.build .far config = some d') : d'.Wired wire := by
  obtain ⟨channel, s₁, s₂, s', hb, rfl⟩ := built_of_build hbuild
  have hin := Store.ringTaken_of_openRing hb.inbound
  have hout := Store.ringTaken_of_openRing hb.outbound
  obtain ⟨hjoined, hwire⟩ := h.joins rfl hin named.inName named.inGeometry
  obtain ⟨hjoined', hwire'⟩ := h.joins hjoined.names hout named.outName named.outGeometry
  have hnames : s₂.names = d.store.names := hjoined'.names.trans hjoined.names
  have hsize : s₂.objects.size = d.store.objects.size := hjoined'.size.trans hjoined.size
  have hobject : ∀ sender, s₂.object (wire sender).number = d.store.object (wire sender).number :=
    fun sender => (hout.objects _ (by rw [hjoined.size]; exact h.live sender)).trans
      (hin.objects _ (h.live sender))
  have hnone : d.sent .far = [] := by rw [sent, record, absent]; rfl
  have htaken : d.taken .far = [] := by rw [taken, record, absent]; rfl
  have hconduit : ∀ sender, d.sent sender = [] →
      Ring.Conduit (wire sender).geometry [] (d.taken sender.other)
        (s₂.object (wire sender).number) := fun sender hempty => by
    have hc := h.conduit sender (by rw [hempty]; decide)
    rwa [hempty, ← hobject] at hc
  have hback := hconduit .near hsent
  rw [show End.near.other = .far from rfl, htaken] at hback
  refine wired_withChannel hb (fun role => ?_) h.valid h.apart
    (fun sender => by rw [hsize]; exact h.live sender)
    (fun sender => by rw [Store.lookup, hnames]; exact h.bound sender)
    (fun role c hc => h.lanes _ role c hc) hsent (hconduit .far hnone) hback
  cases role with
  | writer => exact hwire'
  | reader => exact hwire

end Duplex

end TwinRing
