import TwinRing.Proofs.Commons.Restart
import TwinRing.Proofs.Config.Mirrored
import TwinRing.Proofs.Ring.Cramped
/-!
# Everything that is open — the other end of a channel

The configurations of the two ends of a channel speak of the same two
rings, of the same shapes, from opposite sides. So once one end is built,
both names lead to objects with room for the rings that the other end asks
for, and they do until they are removed, whatever is done meanwhile
(`Commons.houses_run`). The other end is never refused for a shape or for a
size.
-/

namespace TwinRing

namespace Config

variable (config : Config) (role : Role)

theorem ringName_opposite : config.opposite.ringName role = config.ringName role.other := by
  cases role <;> rfl

theorem geometry_opposite : config.opposite.geometry role = config.geometry role.other := by
  cases role <;> rfl

end Config

namespace Store

variable {s s' : Store} {name other : SegmentName} {size : UInt64} {n : Nat}

theorem Houses.steady (h : s.Houses name size n) (hs : Steady s s') : s'.Houses name size n :=
  ⟨Nat.lt_of_lt_of_le h.live hs.count_le, by rw [lookup, hs.names]; exact h.bound,
    (hs.sizes n h.live).symm ▸ h.fits⟩

theorem Houses.created (h : s.Houses name size n)
    (hobjects : ∀ n < s.objects.size, s'.object n = s.object n)
    (hcreated : Created s other s.objects.size s') : s'.Houses name size n :=
  h.kept ⟨hobjects, by rw [hcreated.size]; exact Nat.le_succ _, .inr hcreated⟩

theorem Houses.removed (h : s.Houses name size n) (hr : Removed s other s') (hne : name ≠ other) :
    s'.Houses name size n :=
  ⟨by rw [hr.objects]; exact h.live, (hr.lookup_of_ne hne).trans h.bound,
    (hr.object_eq n).symm ▸ h.fits⟩

/-- **A name that was free**, and was opened, can be opened once more. -/
theorem createRefusal?_of_free {given : String} {g : Geometry} {v : View}
    (hg : RingGranted s given g v s') (hfree : s.lookup v.name = none) :
    v.name.createRefusal? = none := by
  cases hcreator : v.handle.creator with
  | true =>
    exact SegmentName.removeRefusal?_eq_none_iff.1
      (hg.granted.held.holding.created hcreator).removable
  | false =>
    have hbound := (hg.granted.held.holding.joined hcreator).bound
    rw [hfree] at hbound
    cases hbound

end Store

open Store (Houses Stands)

namespace Commons

variable {name : SegmentName} {size : UInt64} {n : Nat}

/-- **A name leads where it did until it is removed.** -/
theorem houses_of_stride {x y : Store × List Mark} (h : Stride x y)
    (hx : Mark.removed name ∈ x.2 ∨ x.1.Houses name size n) :
    Mark.removed name ∈ y.2 ∨ y.1.Houses name size n := by
  rcases hx with hgone | hhouses
  · exact .inl ((prefix_of_strides (.single h)).subset hgone)
  cases h with
  | steady hs => exact .inr (hhouses.steady hs)
  | granted hg => exact .inr (hhouses.kept hg.held.kept)
  | left hobjects hcreated => exact .inr (hhouses.created hobjects hcreated)
  | @removed _ _ _ other hr =>
    by_cases hname : name = other
    · exact .inl (List.mem_append_right _ (hname ▸ List.mem_singleton_self _))
    · exact .inr (hhouses.removed hr hname)

theorem houses_of_strides {x y : Store × List Mark} (h : Strides x y)
    (hx : Mark.removed name ∈ x.2 ∨ x.1.Houses name size n) :
    Mark.removed name ∈ y.2 ∨ y.1.Houses name size n := by
  induction h with
  | refl => exact hx
  | tail _ hstride ih => exact houses_of_stride hstride ih

/-- **After any dealings** that do not remove it. -/
theorem houses_run {c : Commons} (dealings : List Dealing) (h : c.store.Houses name size n)
    (hkept : Mark.removed name ∉ (c.run dealings).record) :
    (c.run dealings).store.Houses name size n := by
  have hend := run_induction
    (P := fun c : Commons => Mark.removed name ∈ c.record ∨ c.store.Houses name size n) dealings
    (.inr h) fun c d hc => houses_of_strides (strides_after c d) hc
  exact hend.resolve_left hkept

end Commons

namespace Channel

variable {config : Config} {s s₁ s₂ s' t t' : Store} {c : Channel} {cause : SegmentError}

/-- **Both rings of a configuration are housed.** -/
def Accommodated (config : Config) (s : Store) : Prop :=
  ∀ role, ∃ name size n, SegmentName.ofString (config.ringName role) = .ok name ∧
    (config.geometry role).segmentSize = .ok size ∧ s.Houses name size n

/-- What accommodates the one end accommodates the other. -/
theorem Accommodated.opposite (h : Accommodated config s) : Accommodated config.opposite s := by
  intro role
  rw [config.ringName_opposite, config.geometry_opposite]
  exact h role.other

/-- **A ring that is housed is not refused** for its shape or for its size. -/
theorem misfit_of_openRing {name : SegmentName} {size : UInt64} {n : Nat} {given : String}
    {g : Geometry} (hname : SegmentName.ofString given = .ok name)
    (hsize : g.segmentSize = .ok size) (hhouses : s.Houses name size n)
    (h : s.openRing given g = (.error cause, s')) :
    (∀ reason, cause ≠ .invalidGeometry reason) ∧
      ∀ text expected actual, cause ≠ .sizeMismatch text expected actual := by
  have hrefusal := Store.isRefusal_of_openRing hname hsize h
  refine ⟨fun reason heq => ?_, fun text expected actual heq => ?_⟩
  · rw [heq] at hrefusal
    cases hrefusal
  · rw [heq] at h
    exact hhouses.not_cramped (Store.cramped_of_sizeMismatch hname hsize h)

/-- **Nor is a channel whose rings are housed**, whatever else may fail. -/
theorem misfit_of_build (haccommodated : Accommodated config t)
    (h : build config t = (.error (.segment cause), t')) :
    (∀ reason, cause ≠ .invalidGeometry reason) ∧
      ∀ text expected actual, cause ≠ .sizeMismatch text expected actual := by
  obtain ⟨name, size, n, hname, hsize, hhouses⟩ := haccommodated .reader
  obtain ⟨name', size', n', hname', hsize', hhouses'⟩ := haccommodated .writer
  obtain ⟨workers, haborted⟩ := build_eq_error_iff.1 h
  cases haborted with
  | inbound hin => exact misfit_of_openRing hname hsize hhouses hin
  | outbound hin hout =>
    -- the first open leaves the second ring where it is
    have hkept := (Store.ringGranted_of_openRing hin).granted.held.kept
    exact misfit_of_openRing hname' hsize' (hhouses'.kept hkept) hout

namespace Opened

variable (h : Opened config s s₁ s₂ s' c)
include h

theorem steady : Store.Steady s₂ s' := by
  obtain ⟨faults, journal, hs'⟩ := h.store
  have hcleared := within_clears config c.inbound.view c.outbound.view s₂
  rw [hs']
  exact (Store.Steady.of_within hcleared).trans (.of_eq rfl rfl)

/-- **A build that succeeds leaves both rings housed.** -/
theorem houses (role : Role) :
    s'.Houses (c.lane role).view.name (c.lane role).view.handle.size
      (c.lane role).view.handle.object := by
  cases role with
  | reader =>
    have hkept := (Store.ringGranted_of_openRing h.outbound).granted.held.kept
    exact ((Store.houses_of_openRing h.inbound).kept hkept).steady h.steady
  | writer => exact (Store.houses_of_openRing h.outbound).steady h.steady

theorem createRefusal?_of_free (hfree : ∀ role, s.lookup (c.lane role).view.name = none)
    (different : (c.lane .reader).view.name ≠ (c.lane .writer).view.name) (role : Role) :
    (c.lane role).view.name.createRefusal? = none := by
  have hin := Store.ringGranted_of_openRing h.inbound
  cases role with
  | reader => exact Store.createRefusal?_of_free hin (hfree .reader)
  | writer =>
    refine Store.createRefusal?_of_free (Store.ringGranted_of_openRing h.outbound) ?_
    exact (hin.granted.held.kept.lookup_of_ne different.symm).trans (hfree .writer)

/-- **Where both rings are housed still**, the other end has all it needs. -/
theorem accommodated (ht : ∀ role, t.Houses (c.lane role).view.name
    (c.lane role).view.handle.size (c.lane role).view.handle.object) : Accommodated config t :=
  fun role => ⟨_, _, _, h.name_eq role, h.segmentSize_eq role, ht role⟩

end Opened

end Channel

open Channel (Accommodated)

/-- **The two ends of a channel fit together.** To exchange the directions
of a builder twice is to leave it, and commutes with every list of
settings that does not start anew; what a configuration says of one direction, that of the other end
says of the other. So both ends ask for the same two segments, of the same
sizes. Once the one end is built, the other is not refused for a shape or
for a size, after any dealings in which neither name was removed; and if
both names were free, and no call is to fail, it is built, on the same two
rings. -/
theorem counterparts_fit :
    (∀ b : Builder, b.opposite.opposite = b) ∧
    (∀ cs : List Setting, .reset ∉ cs →
      (({} : Builder).applyAll cs).opposite =
        ({} : Builder).opposite.applyAll (cs.map Setting.exchanged)) ∧
    (∀ b : Builder,
      b.opposite.config.inName = b.config.outName ∧
        b.opposite.config.outName = b.config.inName ∧
        b.opposite.config.inCapacity = b.config.outCapacity ∧
        b.opposite.config.outCapacity = b.config.inCapacity ∧
        b.opposite.config.inElementSize = b.config.outElementSize ∧
        b.opposite.config.outElementSize = b.config.inElementSize ∧
        b.opposite.config.clearIn = b.config.clearOut ∧
        b.opposite.config.clearOut = b.config.clearIn ∧
        b.opposite.config.pollDelay = b.config.pollDelay ∧
        b.opposite.config.pushRetry = b.config.pushRetry ∧
        b.opposite.config.getRetry = b.config.getRetry) ∧
    (∀ (b : Builder) (role : Role),
      SegmentName.ofString (b.opposite.config.ringName role) =
          SegmentName.ofString (b.config.ringName role.other) ∧
        (b.opposite.config.geometry role).segmentSize =
          (b.config.geometry role.other).segmentSize) ∧
    ∀ (b : Builder) (s s' : Store) (c : Channel), Channel.build b.config s = (.ok c, s') →
      ∀ (tenants : List Tenant) (dealings : List Dealing) (later : Commons),
        later = ({ store := s', tenants } : Commons).run dealings →
        (∀ role, Mark.removed (c.lane role).view.name ∉ later.record) →
        (∀ cause t, Channel.build b.opposite.config later.store = (.error (.segment cause), t) →
          (∀ reason, cause ≠ .invalidGeometry reason) ∧
            ∀ text expected actual, cause ≠ .sizeMismatch text expected actual) ∧
        ((∀ role, s.lookup (c.lane role).view.name = none) →
          (c.lane .reader).view.name ≠ (c.lane .writer).view.name → later.store.faults = [] →
          ∃ c' t, Channel.build b.opposite.config later.store = (.ok c', t) ∧
            ∀ role, (c'.lane role).view.handle.object =
              (c.lane role.other).view.handle.object) := by
  refine ⟨Builder.opposite_opposite, fun cs h => Builder.opposite_applyAll {} h,
    fun b => ⟨rfl, rfl, rfl, rfl, rfl, rfl, rfl, rfl, rfl, rfl, rfl⟩, fun b role => ?_, ?_⟩
  · rw [b.config_opposite, b.config.ringName_opposite, b.config.geometry_opposite]
    exact ⟨rfl, rfl⟩
  · rintro b s s' c hbuild tenants dealings later rfl hkept
    obtain ⟨s₁, s₂, hopened⟩ := Channel.opened_of_build hbuild
    have hhouses := fun role => Commons.houses_run (c := { store := s', tenants }) dealings
      (hopened.houses role) (hkept role)
    refine ⟨fun cause t hfails => ?_, fun hfree different faultless => ?_⟩
    · exact Channel.misfit_of_build (hopened.accommodated hhouses).opposite hfails
    · -- on each side the other end asks for the ring that is across at the one end
      have hstands : ∀ role, Stands _ (b.opposite.config.ringName role)
          (b.opposite.config.geometry role) (c.lane role.other).view.handle.object := fun role => by
        rw [b.config_opposite, b.config.ringName_opposite, b.config.geometry_opposite]
        exact ⟨⟨_, hopened.name_eq role.other, (hhouses role.other).bound,
            hopened.createRefusal?_of_free hfree different role.other⟩,
          _, hopened.segmentSize_eq role.other, (hhouses role.other).fits,
          hopened.mapped role.other⟩
      obtain ⟨c', t, hbuilt, hobject, -⟩ := Channel.build_of_stands hstands faultless
      exact ⟨c', t, hbuilt, hobject⟩

/-- A builder whose two rings are of different shapes. -/
def lopsidedBuilder : Builder :=
  ({} : Builder).applyAll [.inName "/a", .outName "b", .capacity 2, .inElementSize 3]

/-- Dealings that leave both names, with a call that is to fail or without. -/
def lopsidedDealings (faults : List Fault) : List Dealing :=
  [.openRing "/a" ⟨1, 1⟩, .unlink "/c", .drop 0] ++ faults.map .fault

theorem counterparts_fit_lopsided :
    (({} : Builder).applyAll [.inName "/a", .opposite, .outCapacity 2]).opposite =
      ({} : Builder).opposite.applyAll [.outName "/a", .opposite, .inCapacity 2] ∧
    ∃ c s', Channel.build lopsidedBuilder.config {} = (.ok c, s') ∧
      (∃ c' t, Channel.build lopsidedBuilder.opposite.config
          (({ store := s' } : Commons).run (lopsidedDealings [])).store = (.ok c', t) ∧
        ∀ role, (c'.lane role).view.handle.object = (c.lane role.other).view.handle.object) ∧
      ∃ cause t, Channel.build lopsidedBuilder.opposite.config
          (({ store := s' } : Commons).run (lopsidedDealings [⟨.map, 1, ⟨12⟩⟩])).store =
            (.error (.segment cause), t) ∧
        ∀ text expected actual, cause ≠ .sizeMismatch text expected actual := by
  obtain ⟨-, exchanged, -, -, fits⟩ := counterparts_fit
  have hbuilds : (Channel.build lopsidedBuilder.config {}).1.isOk = true := by decide +kernel
  have hrecord : ∀ faults ∈ [[], [(⟨.map, 1, ⟨12⟩⟩ : Fault)]],
      ((({ store := (Channel.build lopsidedBuilder.config {}).2 } : Commons).run
        (lopsidedDealings faults)).record.all fun m => !m.isRemoval) = true := by decide +kernel
  have hfaults : (({ store := (Channel.build lopsidedBuilder.config {}).2 } : Commons).run
      (lopsidedDealings [])).store.faults = [] := by decide +kernel
  have hfails : (Channel.build lopsidedBuilder.opposite.config
      (({ store := (Channel.build lopsidedBuilder.config {}).2 } : Commons).run
        (lopsidedDealings [⟨.map, 1, ⟨12⟩⟩])).store).1.map (fun _ => ()) =
      .error (.segment (.mapFailed "/b" ⟨12⟩)) := by decide +kernel
  refine ⟨exchanged _ (by decide), ?_⟩
  rcases hbuild : Channel.build lopsidedBuilder.config {} with ⟨e | c, s'⟩
  · rw [hbuild] at hbuilds
    cases hbuilds
  rw [hbuild] at hrecord hfaults hfails
  have hkept : ∀ faults ∈ [[], [(⟨.map, 1, ⟨12⟩⟩ : Fault)]], ∀ role,
      Mark.removed (c.lane role).view.name ∉
        (({ store := s' } : Commons).run (lopsidedDealings faults)).record :=
    fun faults hmem role hremoved =>
      Bool.noConfusion (List.all_eq_true.1 (hrecord faults hmem) _ hremoved)
  obtain ⟨s₁, s₂, hopened⟩ := Channel.opened_of_build hbuild
  have different : (c.lane .reader).view.name ≠ (c.lane .writer).view.name := fun heq => by
    have hin := hopened.name_eq .reader
    have hout := hopened.name_eq .writer
    rw [heq, ← hout] at hin
    exact absurd hin (by decide)
  refine ⟨c, s', rfl, ?_, ?_⟩
  · exact (fits _ _ _ _ hbuild [] _ _ rfl (hkept [] (by decide))).2 (fun _ => rfl) different
      hfaults
  · rcases hbuild' : Channel.build lopsidedBuilder.opposite.config (({ store := s' } :
        Commons).run (lopsidedDealings [⟨.map, 1, ⟨12⟩⟩])).store with ⟨e | c', t⟩
    · rw [hbuild'] at hfails
      cases hfails
      exact ⟨_, t, rfl, ((fits _ _ _ _ hbuild [] _ _ rfl (hkept _ (by decide))).1 _ t hbuild').2⟩
    · rw [hbuild'] at hfails
      cases hfails

end TwinRing
