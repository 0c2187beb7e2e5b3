import TwinRing.Proofs.Channel.Opened
import TwinRing.Proofs.Commons.Ledger
import TwinRing.Proofs.Direction.Lengths
/-!
# Commons — what is known of every channel

A channel that is built is as its configuration has it, and stays so: no
turn of one of its threads gives a lane another ring, another side or
another element size, brings the flags out of step with the slot, or gives
out a ticket twice. So of every channel that there is after any dealings
one knows all this without knowing what was done on it. That two names are
two objects is known from the ledger.
-/

namespace TwinRing

/-! ## What is mapped -/

/-- What is mapped on the way of an open has addresses enough. -/
def RingOpening.Mapped : RingOpening → Prop
  | .segment o => ∀ k, o ≠ .opened k
  | .zeroing k => k.size.toNat < Store.addressSpan
  | .locking k => k.size.toNat < Store.addressSpan
  | .opened v => v.handle.size.toNat < Store.addressSpan
  | .failed _ => True

/-- **No step maps more than that**: only one comes to an open segment, and
by then the system has let it map so much. -/
theorem RingOpening.Mapped.step {name : SegmentName} {g : Geometry} {size : UInt64}
    (r : RingOpening) (t : Store) (h : r.Mapped) : (r.step name g size t).1.Mapped := by
  cases r with
  | zeroing k => exact h
  | opened v => exact h
  | failed cause => trivial
  | locking k =>
    simp only [RingOpening.step]
    rcases k.initLock t with ⟨e | _, t'⟩
    · trivial
    · exact h
  | segment o =>
    cases o with
    | opened k => exact absurd rfl (h k)
    | mapping d creator =>
      obtain ⟨faults, ⟨e, hfails⟩ | ⟨-, hspan, hmaps⟩⟩ := t.map_cases d size
      · simp only [RingOpening.step, Opening.step, hfails, RingOpening.afterSegment]
        trivial
      · simp only [RingOpening.step, Opening.step, hmaps, RingOpening.afterSegment]
        split <;> exact hspan
    | creating =>
      simp only [RingOpening.step, Opening.step]
      rcases t.createName name with ⟨e | d, t'⟩
      · dsimp only
        split
        · exact fun k => Opening.noConfusion
        · trivial
      · exact fun k => Opening.noConfusion
    | joining =>
      simp only [RingOpening.step, Opening.step]
      rcases t.openName name with ⟨e | d, t'⟩
      · trivial
      · exact fun k => Opening.noConfusion
    | sizing d =>
      simp only [RingOpening.step, Opening.step]
      rcases t.truncate d size with ⟨e | _, t'⟩
      · trivial
      · exact fun k => Opening.noConfusion
    | measuring d =>
      simp only [RingOpening.step, Opening.step]
      rcases t.measure d with ⟨e | actual, t'⟩
      · trivial
      · dsimp only
        split
        · trivial
        · exact fun k => Opening.noConfusion
    | failed cause => trivial

/-- **No ring that was opened is larger than the addresses there are.** -/
theorem Store.size_lt_addressSpan_of_openRing {s s' : Store} {given : String} {g : Geometry}
    {v : View} (h : s.openRing given g = (.ok v, s')) : v.handle.size.toNat < addressSpan := by
  rcases s.openRing_cases given g with ⟨cause, hrefused⟩ | ⟨size, name, -, -, hrun⟩
  · rw [hrefused] at h
    cases h
  have init : (RingOpening.segment .creating).Mapped := fun k => Opening.noConfusion
  have hend : (RingOpening.ended ((RingOpening.segment .creating).run name g size s).1).Mapped :=
    RingOpening.run_induction (P := fun r _ => r.Mapped) init fun r t ih => ih.step r t
  rwa [hrun.symm.trans h] at hend

/-! ## What every turn keeps -/

/-- A turn that leaves the store to the threads of the lane is a turn, or
none. -/
theorem Course.ownTurn_cases (c : Course) (t : Turn) :
    c.ownTurn t = c ∨ c.ownTurn t = c.turn t := by
  cases t with
  | others s => exact .inl rfl
  | _ => exact .inr rfl

/-! ## Lanes of channels -/

/-- **A lane as the configuration has it**, on its side of a channel. -/
structure Lane.Furnished (config : Config) (role : Role) (l : Lane) : Prop where
  name : SegmentName.ofString (config.ringName role) = .ok l.view.name
  geometry : l.view.geometry = config.geometry role
  /-- So much of its object is mapped as its shape takes. -/
  segmentSize : (config.geometry role).segmentSize = .ok l.view.handle.size
  mapped : l.view.handle.size.toNat < Store.addressSpan
  role_eq : l.role = role
  elementSize : l.direction.elementSize = (config.geometry role).elementSize
  /-- Flags and slot agree with the place of the worker. -/
  agreed : Agreed l.direction l.handshake.worker
  /-- Every ticket that was given out is below the next one. -/
  numbered : ∀ k ∈ l.handshake.calls, k.ticket < l.handshake.nextTicket

namespace Lane.Furnished

variable {config : Config} {role : Role} {l : Lane}

theorem ownTurn (h : l.Furnished config role) (t : Turn) (s : Store) :
    (({ lane := l, store := s } : Course).ownTurn t).lane.Furnished config role := by
  rcases Course.ownTurn_cases { lane := l, store := s } t with hturn | hturn
  · rw [hturn]
    exact h
  rw [hturn]
  have hview := Course.view_turn { lane := l, store := s } t
  exact {
    name := hview.symm ▸ h.name
    geometry := hview.symm ▸ h.geometry
    segmentSize := hview.symm ▸ h.segmentSize
    mapped := hview.symm ▸ h.mapped
    role_eq := (Course.step_turn { lane := l, store := s } t).role_eq.trans h.role_eq
    elementSize := (Course.elementSize_turn { lane := l, store := s } t).trans h.elementSize
    agreed := Course.agreed_turn (c := { lane := l, store := s }) h.agreed t
    numbered := Course.Numbered.turn (c := { lane := l, store := s }) h.numbered t }

end Lane.Furnished

namespace Channel

variable {config : Config} {s s₁ s₂ s' : Store} {c : Channel} {role other : Role}

/-- **A channel as its configuration has it.** -/
def Furnished (c : Channel) : Prop := ∀ role, (c.lane role).Furnished c.config role

@[simp] theorem lane_withLane_self (c : Channel) (l : Lane) (role : Role) :
    (c.withLane l role).lane role = l := by
  cases role <;> rfl

theorem lane_withLane_of_ne (c : Channel) (l : Lane) (h : other ≠ role) :
    (c.withLane l role).lane other = c.lane other := by
  cases role <;> cases other <;> first | rfl | exact absurd rfl h

@[simp] theorem config_withLane (c : Channel) (l : Lane) (role : Role) :
    (c.withLane l role).config = c.config := by
  cases role <;> rfl

theorem Opened.mapped (h : Opened config s s₁ s₂ s' c) (role : Role) :
    (c.lane role).view.handle.size.toNat < Store.addressSpan := by
  cases role with
  | reader => exact Store.size_lt_addressSpan_of_openRing h.inbound
  | writer => exact Store.size_lt_addressSpan_of_openRing h.outbound

theorem Opened.config_eq (h : Opened config s s₁ s₂ s' c) : c.config = config := by
  rw [h.eq_unused]
  rfl

theorem agreed_dormant (v : View) (role : Role) (elementSize : UInt64) :
    Agreed (dormant v role elementSize).direction (dormant v role elementSize).handshake.worker :=
  (Agreed.new role elementSize).moved (w := .asleep) rfl rfl Bool.noConfusion

theorem Opened.furnished (h : Opened config s s₁ s₂ s' c) : c.Furnished := fun role => by
  have hlane := h.lane_eq role
  rw [h.config_eq]
  exact {
    name := h.name_eq role
    geometry := h.geometry_eq role
    segmentSize := h.segmentSize_eq role
    mapped := h.mapped role
    role_eq := by rw [hlane]; rfl
    elementSize := by rw [hlane]; rfl
    agreed := by rw [hlane]; exact agreed_dormant _ _ _
    numbered := by rw [hlane]; exact fun k hk => absurd hk List.not_mem_nil }

theorem furnished_of_build (h : build config s = (.ok c, s')) : c.Furnished := by
  obtain ⟨s₁, s₂, hopened⟩ := opened_of_build h
  exact hopened.furnished

theorem Furnished.turn (h : c.Furnished) (role : Role) (t : Turn) (s : Store) :
    (c.turn role t s).1.Furnished := fun other => by
  simp only [Channel.turn, config_withLane]
  by_cases hsame : other = role
  · subst hsame
    rw [lane_withLane_self]
    exact (h other).ownTurn t s
  · rw [lane_withLane_of_ne c _ hsame]
    exact h other

end Channel

/-! ## Channels of the commons -/

namespace Commons

/-- Every channel is as its configuration has it. -/
def Equipped (c : Commons) : Prop :=
  ∀ channel, Tenant.channel channel ∈ c.tenants → channel.Furnished

theorem Equipped.after {c : Commons} (h : c.Equipped) (d : Dealing) : (c.after d).Equipped := by
  intro channel hmem
  cases d with
  | openSegment given size =>
    refine h channel ((List.mem_append.1 hmem).resolve_right fun hnew => ?_)
    obtain ⟨k, -, hk⟩ := granted_of_newcomer hnew
    cases hk
  | openRing given g =>
    refine h channel ((List.mem_append.1 hmem).resolve_right fun hnew => ?_)
    obtain ⟨v, -, hv⟩ := granted_of_newcomer hnew
    cases hv
  | build config =>
    rcases List.mem_append.1 hmem with hold | hnew
    · exact h channel hold
    · obtain ⟨built, hbuilt, hsame⟩ := granted_of_newcomer hnew
      cases hsame
      exact Channel.furnished_of_build (Prod.ext hbuilt rfl)
  | drop i =>
    simp only [Commons.after] at hmem
    split at hmem
    · exact h channel hmem
    · exact h channel (List.mem_of_mem_eraseIdx hmem)
  | destroy i unlink =>
    simp only [Commons.after] at hmem
    split at hmem
    · exact h channel (List.mem_of_mem_eraseIdx hmem)
    · exact h channel hmem
  | unlink given => exact h channel hmem
  | write i offset bytes =>
    simp only [Commons.after] at hmem
    split at hmem
    · exact h channel hmem
    · split at hmem <;> exact h channel hmem
  | call i call =>
    simp only [Commons.after] at hmem
    split at hmem <;> exact h channel hmem
  | turn i role turn =>
    simp only [Commons.after] at hmem
    split at hmem
    · rename_i before hi
      rcases List.mem_or_eq_of_mem_set hmem with hold | hsame
      · exact h channel hold
      · cases hsame
        exact (h before (List.mem_of_getElem? hi)).turn role turn c.store
    · exact h channel hmem
  | fault f => exact h channel hmem

/-- **After any dealings every channel is as its configuration has it.** -/
theorem equipped_run (dealings : List Dealing) : (({} : Commons).run dealings).Equipped :=
  run_induction dealings (fun _ h => (by cases h)) fun _ d h => h.after d

/-- **Two names are two objects**, however the handles on them came about. -/
theorem object_ne_of_name_ne {s : Store} {record : List Mark} (hl : Ledger s record)
    {h k : Handle} (hh : Mark.granted h ∈ record) (hk : Mark.granted k ∈ record)
    (hne : h.name ≠ k.name) : h.object ≠ k.object := by
  intro hobject
  obtain ⟨earlier, later, hsplit⟩ := List.mem_iff_append.1 hh
  rw [hsplit] at hk
  rcases List.mem_append.1 hk with hearlier | hrest
  · obtain ⟨first, between, rfl⟩ := List.mem_iff_append.1 hearlier
    exact hne (((hl.entries _ h later hsplit).1.shared first k between rfl).1 hobject.symm).1.symm
  · rcases List.mem_cons.1 hrest with hsame | hlater
    · cases hsame
      exact hne rfl
    · obtain ⟨between, last, rfl⟩ := List.mem_iff_append.1 hlater
      have hsplit' : record = (earlier ++ Mark.granted h :: between) ++ Mark.granted k :: last := by
        rw [hsplit, List.append_assoc, List.cons_append]
      exact hne (((hl.entries _ k last hsplit').1.shared earlier h between rfl).1 hobject).1

/-- The channel at a place among the tenants, if there is one. -/
def channel? (c : Commons) (i : Nat) : Option Channel :=
  match c.tenants[i]? with
  | some (.channel channel) => some channel
  | _ => none

theorem tenant_of_channel? {c : Commons} {i : Nat} {channel : Channel}
    (h : c.channel? i = some channel) : c.tenants[i]? = some (.channel channel) := by
  unfold channel? at h
  split at h
  · rename_i hi
    rw [hi, Option.some.inj h]
  · cases h

section Channels

variable {dealings : List Dealing} {i : Nat} {channel : Channel}

theorem furnished_of_tenant
    (h : (({} : Commons).run dealings).tenants[i]? = some (.channel channel)) :
    channel.Furnished :=
  equipped_run dealings channel (List.mem_of_getElem? h)

theorem granted_of_tenant
    (h : (({} : Commons).run dealings).tenants[i]? = some (.channel channel)) (role : Role) :
    Mark.granted (channel.lane role).view.handle ∈ (({} : Commons).run dealings).record := by
  refine recorded_run dealings _ (mem_handles.2 ⟨_, List.mem_of_getElem? h, ?_⟩)
  cases role with
  | reader => exact List.mem_cons_self ..
  | writer => exact List.mem_cons_of_mem _ (List.mem_singleton_self _)

/-- **The two sides of a channel with two names are on two objects.** -/
theorem objects_apart
    (h : (({} : Commons).run dealings).tenants[i]? = some (.channel channel))
    (apart : SegmentName.ofString channel.config.inName ≠
      SegmentName.ofString channel.config.outName) :
    channel.inbound.view.handle.object ≠ channel.outbound.view.handle.object := by
  refine object_ne_of_name_ne (ledger_run dealings) (granted_of_tenant h .reader)
    (granted_of_tenant h .writer) fun hname => apart ?_
  have hfurnished := furnished_of_tenant h
  have hin : SegmentName.ofString channel.config.inName = .ok (channel.lane .reader).view.name :=
    (hfurnished .reader).name
  have hout : SegmentName.ofString channel.config.outName = .ok (channel.lane .writer).view.name :=
    (hfurnished .writer).name
  have hviews : (channel.lane .reader).view.name = (channel.lane .writer).view.name := hname
  rw [hin, hout, hviews]

end Channels

end Commons

end TwinRing
