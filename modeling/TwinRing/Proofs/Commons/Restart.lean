import TwinRing.Proofs.Channel.Reopening
import TwinRing.Proofs.Commons.Twins
/-!
# Commons — a channel taken down and built again

A channel keeps nothing that matters beyond its two objects: when it rests,
with both slots empty, both workers asleep and no shutdown, then dropping
it and building it again from its configuration ends in a channel that
nobody can tell from the old one. The new one joins the objects of the old
one, for their names were not removed; and the old one, resting, was where
a new one starts. That holds whatever others do to the rings meanwhile and
later. If the build is asked to clear a ring, the new channel is what the
old one would have been after that clear.
-/

namespace TwinRing

namespace Ring

variable {p q : Prop} {g : Geometry} {o o' : Object}

theorem Cleared.of_iff (h : Cleared p o o') (hpq : p ↔ q) : Cleared q o o' :=
  ⟨h.size_eq, h.apart, fun hq => h.readIndex_eq (hpq.2 hq), fun hq => h.untouched fun hp =>
    hq (hpq.1 hp)⟩

/-- **After a clear nothing is unread.** -/
theorem Cleared.contents_eq (h : Cleared p o o') (hp : p) (hlock : o.lock = .sound) :
    contents g o' = [] := by
  have hsame : readIndex o' = writeIndex o' := (h.readIndex_eq hp hlock).trans h.writeIndex_eq.symm
  rw [contents, unreadCount, hsame, Nat.sub_self, Nat.zero_div]
  rfl

end Ring

namespace Channel

variable {c : Channel} {s : Store} {n : Nat}

/-- **A channel at rest**: no request in its slots, workers that sleep, and
no shutdown. -/
def Resting (c : Channel) : Prop :=
  ∀ role, (c.lane role).handshake.worker = some .asleep ∧
    (c.lane role).direction.request = .empty ∧ (c.lane role).direction.exit = false

theorem Resting.idle (h : c.Resting) (role : Role) : (c.lane role).Idle := fun buffer hserving => by
  rw [(h role).1] at hserving
  cases hserving

/-- **A lane that rests is where a new lane starts.** -/
theorem Resting.direction_eq (h : c.Resting) {config : Config} {role : Role}
    (hl : (c.lane role).Furnished config role) : (c.lane role).direction =
      { role := role, elementSize := (config.geometry role).elementSize } := by
  obtain ⟨-, hrequest, hexit⟩ := h role
  have hready := hl.agreed.ready_iff hexit
  have hcomplete := hl.agreed.complete_iff
  have hrole : (c.lane role).direction.role = role := hl.role_eq
  have helement := hl.elementSize
  rw [hrequest] at hready hcomplete
  simp only [reduceCtorEq, exists_false, iff_false, Bool.not_eq_true] at hready hcomplete
  generalize (c.lane role).direction = d at *
  obtain ⟨_, _, _, _, _, _⟩ := d
  simp only at hrole helement hready hcomplete hexit hrequest
  rw [hrole, helement, hready, hcomplete, hexit, hrequest]

/-- **The clears of a channel's own rings**, by what they do to each. -/
theorem cleared_clears (config : Config) (hlive : ∀ role, (c.lane role).view.handle.object <
      s.objects.size) (apart : c.Apart) (role : Role) :
    Ring.Cleared (config.clears role = true) (s.object (c.lane role).view.handle.object)
      ((clearIf config.clearOut c.outbound.view (clearIf config.clearIn c.inbound.view s)).object
        (c.lane role).view.handle.object) := by
  have hlive' := (within_clearIf config.clearIn c.inbound.view s).count.symm ▸ hlive role
  refine ((cleared_clearIf config.clearIn c.inbound.view (hlive role)).trans
    (cleared_clearIf config.clearOut c.outbound.view hlive')).of_iff ?_
  cases role with
  | reader => simp [Config.clears, lane, Ne.symm (show _ ≠ _ from apart)]
  | writer => simp [Config.clears, lane, show _ ≠ _ from apart]

/-- **A channel that rests and a new one on its rings are twins.** -/
theorem twins_of_resting {config : Config} {c' : Channel} {s₀ s₁ s₂ s' t : Store} (h : c.Resting)
    (hc : c.Furnished) (hopened : Opened config s₀ s₁ s₂ s' c')
    (hgeometry : ∀ role, config.geometry role = c.config.geometry role)
    (hretry : ∀ role, c.retry role = c'.retry role)
    (hobject : ∀ role, (c'.lane role).view.handle.object = (c.lane role).view.handle.object)
    (hobjects : t.objects = s'.objects) : Twins c.tickets c c' t s' where
  objects := hobjects
  retry := hretry
  lanes role := by
    have hlane := hopened.lane_eq role
    have hnumbered : ({ lane := c.lane role, store := t } : Course).Numbered := (hc role).numbered
    have hcalls : (c'.lane role).handshake.calls = [] := by rw [hlane]; rfl
    exact {
      geometry :=
        (hc role).geometry.trans ((hgeometry role).symm.trans (hopened.geometry_eq role).symm)
      object := (hobject role).symm
      direction := by
        rw [Course.direction, Course.direction, h.direction_eq (hc role), hlane, hgeometry role]
        rfl
      worker := by
        rw [Course.worker, Course.worker, hlane]
        exact (h role).1
      next := by
        rw [Course.nextTicket, Course.nextTicket, hlane]
        rfl
      calls := fun k => by
        have hnone : ({ lane := c'.lane role, store := s' } : Course).call? k = none := by
          rw [Course.call?, hcalls]
          rfl
        have hnone' : ({ lane := c.lane role, store := t } : Course).call? (c.tickets role + k) =
            none := by
          refine List.find?_eq_none.2 fun called hcalled heq => ?_
          have hlt := hnumbered called hcalled
          rw [beq_iff_eq.1 heq] at hlt
          exact absurd hlt (Nat.not_lt.2 (Nat.le_add_right ..))
        rw [hnone, hnone']
      numbered := hnumbered
      numbered' := hopened.furnished role |>.numbered
      ring := .of_objects hobjects }

end Channel

/-- Whether the event is the removal of a name. -/
def Mark.isRemoval : Mark → Bool
  | .removed _ => true
  | .granted _ => false
  | .left _ _ => false

namespace Commons

variable {dealings : List Dealing} {i : Nat} {c : Channel} {h : Handle} {record : List Mark}

/-- **A handle whose name was not removed** since it was returned. -/
def Unremoved (record : List Mark) (h : Handle) : Prop :=
  ∃ earlier later, record = earlier ++ Mark.granted h :: later ∧ Mark.removed h.name ∉ later

/-- Where nothing was removed, nothing was removed since. -/
theorem unremoved_of_all (hall : (record.all fun m => !m.isRemoval) = true)
    (hgranted : Mark.granted h ∈ record) : Unremoved record h := by
  obtain ⟨earlier, later, hrecord⟩ := List.mem_iff_append.1 hgranted
  refine ⟨earlier, later, hrecord, fun hremoved => ?_⟩
  have hmem : Mark.removed h.name ∈ record := by
    rw [hrecord]
    exact List.mem_append_right _ (List.mem_cons_of_mem _ hremoved)
  exact Bool.noConfusion (List.all_eq_true.1 hall _ hmem)

/-- **The ring of a lane is there** under its name, as long as this was not
removed. -/
theorem stands_of_unremoved {config : Config} {role : Role} {l : Lane} {s : Store}
    (hl : Ledger s record) (hlane : l.Furnished config role)
    (hkept : Unremoved record l.view.handle) :
    s.Stands (config.ringName role) (config.geometry role) l.view.handle.object ∧
      l.view.handle.object < s.objects.size := by
  obtain ⟨earlier, later, hrecord, hnot⟩ := hkept
  have hstanding := (hl.entries earlier l.view.handle later hrecord).2
  have hbound := hstanding.bound_iff.2 hnot
  exact ⟨⟨⟨l.view.name, hlane.name, hbound,
      SegmentName.removeRefusal?_eq_none_iff.1 (hl.registered.removable _ _ hbound)⟩,
    _, hlane.segmentSize, hstanding.fits, hlane.mapped⟩, hstanding.live⟩

/-- **Restart is transparent**: a channel that rests, with two names that
were not removed, can be dropped and built again from its configuration.
Every byte is then as it would have been, clears that were asked for apart,
and so is every answer from then on. -/
theorem restart_transparent
    (held : (({} : Commons).run dealings).tenants[i]? = some (.channel c)) (resting : c.Resting)
    (different : SegmentName.ofString c.config.inName ≠ SegmentName.ofString c.config.outName)
    (unremoved : ∀ role, Unremoved (({} : Commons).run dealings).record (c.lane role).view.handle)
    (faultless : (({} : Commons).run dealings).store.faults = []) (meanwhile : List PeerAct)
    (clearIn clearOut : Bool) :
    let s := (({} : Commons).run dealings).store
    let config : Config := { c.config with clearIn, clearOut }
    -- the store as it would be, had the channel not been dropped
    let kept := PeerAct.performAll meanwhile s
    (c.drop s).objects = s.objects ∧
      ∃ c' s', Channel.build config (PeerAct.performAll meanwhile (c.drop s)) = (.ok c', s') ∧
        (clearIn = false → clearOut = false → s'.objects = kept.objects) ∧
        (∀ role,
          let o := kept.object (c.lane role).view.handle.object
          let o' := s'.object (c.lane role).view.handle.object
          Ring.Cleared (config.clears role = true) o o' ∧
            (config.clears role = true → o.lock = .sound →
              Ring.contents (config.geometry role) o' = [])) ∧
        (∀ n, (∀ role, n ≠ (c.lane role).view.handle.object) → s'.object n = kept.object n) ∧
        ∀ plays, c'.playAll (fun _ => 0) plays s' =
          c.playAll c.tickets plays (Channel.clearIf clearOut c.outbound.view
            (Channel.clearIf clearIn c.inbound.view kept)) := by
  intro s config kept
  have hfurnished := furnished_of_tenant held
  have hstands := fun role =>
    stands_of_unremoved (ledger_run dealings) (hfurnished role) (unremoved role)
  -- what the drop and the others leave is no different to an open
  have hdropped : (c.drop s).Matches s :=
    Channel.matches_drop (resting.idle .reader) (resting.idle .writer) faultless
  obtain ⟨_, hothers⟩ := PeerAct.within_performAll meanwhile (c.drop s)
  obtain ⟨_, hothers'⟩ := PeerAct.within_performAll meanwhile s
  have hkept : (PeerAct.performAll meanwhile (c.drop s)).objects = kept.objects :=
    PeerAct.performAll_congr meanwhile hdropped.objects
  have hthere : ∀ role, (PeerAct.performAll meanwhile (c.drop s)).Stands (config.ringName role)
      (config.geometry role) (c.lane role).view.handle.object := fun role => by
    have hrole := ((hstands role).1.of_matches hdropped).of_within hothers
    cases role with
    | reader => exact hrole
    | writer => exact hrole
  obtain ⟨c', s', hbuild, hobject, hobjects⟩ :=
    Channel.build_of_stands hthere (hothers.faults.trans (hdropped.faults.trans faultless))
  obtain ⟨s₁, s₂, hopened⟩ := Channel.opened_of_build hbuild
  have hend : s'.objects = (Channel.clearIf clearOut c.outbound.view
      (Channel.clearIf clearIn c.inbound.view kept)).objects :=
    hobjects.trans (Channel.objects_clearIf_congr clearOut (hobject .writer)
      (Channel.objects_clearIf_congr clearIn (hobject .reader) hkept))
  have hend' : ∀ n, s'.object n = _ := fun n => congrArg (·.getD n {}) hend
  refine ⟨hdropped.objects, c', s', hbuild, fun hin hout => ?_, fun role => ?_, fun n hn => ?_,
    fun plays => ?_⟩
  · rw [hend, hin, hout]
    rfl
  · have hcleared := Channel.cleared_clears config (s := kept)
      (fun role => hothers'.count.symm ▸ (hstands role).2) (objects_apart held different) role
    dsimp only
    rw [hend']
    exact ⟨hcleared, fun hasked hlock => hcleared.contents_eq hasked hlock⟩
  · rw [hend']
    exact (Channel.within_clears config c.inbound.view c.outbound.view kept).others n
      (by simpa using ⟨hn .reader, hn .writer⟩)
  · refine (Channel.Twins.playAll (Channel.twins_of_resting resting hfurnished hopened
      (fun role => ?_) (fun role => ?_) hobject hend.symm) plays).symm
    · cases role <;> rfl
    · simp only [Channel.retry, hopened.config_eq]
      cases role <;> rfl

/-- A channel that has pushed one element, which nobody has read. -/
def loadedDealings : List Dealing :=
  duplexDealings ++ .turn 0 .writer (.submit [7]) :: List.replicate 5 (.turn 0 .writer .worker) ++
    [.turn 0 .writer .collect]

theorem isSome_loaded : ((({} : Commons).run loadedDealings).channel? 0).isSome = true := by
  decide +kernel

def loadedChannel : Channel := Option.get _ isSome_loaded

theorem restart_transparent_loaded :
    ∃ c' s', Channel.build { loadedChannel.config with clearIn := false, clearOut := false }
        (loadedChannel.drop (({} : Commons).run loadedDealings).store) = (.ok c', s') ∧
      Ring.contents ⟨1, 1⟩ (s'.object 1) = [[7]] ∧
      c'.playAll (fun _ => 0) [.queue .writer .isFull] s' = [.ring (.flag true)] := by
  have held := tenant_of_channel? (Option.some_get isSome_loaded).symm
  have resting : loadedChannel.Resting := fun role => by
    cases role <;> decide +kernel
  have different : SegmentName.ofString loadedChannel.config.inName ≠
      SegmentName.ofString loadedChannel.config.outName := by decide +kernel
  have unremoved := fun role => unremoved_of_all (by decide +kernel) (granted_of_tenant held role)
  have faultless : (({} : Commons).run loadedDealings).store.faults = [] := by decide +kernel
  obtain ⟨-, c', s', hbuild, hobjects, -, -, hplays⟩ :=
    restart_transparent held resting different unremoved faultless [] false false
  have hring : s'.object 1 = (({} : Commons).run loadedDealings).store.object 1 :=
    congrArg (·.getD 1 {}) (hobjects rfl rfl)
  have hcontents : Ring.contents ⟨1, 1⟩
      ((({} : Commons).run loadedDealings).store.object 1) = [[7]] := by decide +kernel
  have hfull : ((loadedChannel.lane .writer).view.perform .isFull
      (({} : Commons).run loadedDealings).store).1 = .flag true := by decide +kernel
  refine ⟨c', s', hbuild, by rw [hring, hcontents], ?_⟩
  rw [hplays]
  exact congrArg (fun answer => [PlayAnswer.ring answer]) hfull

end Commons

end TwinRing
