import TwinRing.Proofs.Commons.Creators
/-!
# Everything that is open — who shares what, and how long

Two handles share their bytes if they were opened under one name that was
not removed in between, and in no other case; what is done through one is
seen through those that share with it, and through no other (`Shared`). A
name and an object have separate lives: to give up a handle is nothing to
the name, to remove the name is nothing to those who hold the object, and
who opens the name after that gets another object (`Lasting`).

Which objects a dealing can touch at all is its `reach`.
-/

namespace TwinRing

namespace Store

variable {s s' : Store} {name : SegmentName} {n : Nat}

/-- **What the removal of a name does to the names.** -/
structure Unbound (s : Store) (name : SegmentName) (s' : Store) : Prop where
  /-- One binding is gone, and it was of this name. -/
  one : ∃ n, s.names.Perm ((name, n) :: s'.names)
  gone : s'.lookup name = none
  others : ∀ other, other ≠ name → s'.lookup other = s.lookup other

/-- Where all names are different, a name has one binding. -/
theorem perm_filter_of_mem {names : List (SegmentName × Nat)}
    (hnodup : (names.map Prod.fst).Nodup) (hin : (name, n) ∈ names) :
    names.Perm ((name, n) :: names.filter fun b => b.1 ≠ name) := by
  induction names with
  | nil => cases hin
  | cons b rest ih =>
    obtain ⟨hb, hrest⟩ := List.nodup_cons.1 hnodup
    rcases List.mem_cons.1 hin with rfl | hin
    · have hnone : ∀ a ∈ rest, a.1 ≠ name := fun a ha heq =>
        hb (List.mem_map.2 ⟨a, ha, heq⟩)
      rw [List.filter_cons_of_neg (by simp), List.filter_eq_self.2 fun a ha => by
        simpa using hnone a ha]
    · have hne : b.1 ≠ name := fun heq => hb (List.mem_map.2 ⟨_, hin, heq.symm⟩)
      rw [List.filter_cons_of_pos (by simpa using hne)]
      exact ((ih hrest hin).cons b).trans (.swap ..)

theorem Removed.unbound (hr : Removed s name s') (hnodup : (s.names.map Prod.fst).Nodup) :
    Unbound s name s' := by
  obtain ⟨n, hbound⟩ := hr.bound
  refine ⟨⟨n, ?_⟩, hr.lookup_self, fun other => hr.lookup_of_ne⟩
  rw [hr.names]
  exact perm_filter_of_mem hnodup (mem_of_lookup hbound)

/-- Where a name can be removed, it is removed if it is bound. -/
theorem unlinkName_ok_iff (hstruck : (Fault.strike .unlink s.faults).1 = none)
    (hremovable : ∀ n, s.lookup name = some n → name.removeRefusal? = none) :
    (s.unlinkName name).1 = .ok () ↔ ∃ n, s.lookup name = some n := by
  constructor
  · intro hok
    obtain ⟨s', ⟨e, hunlink, -⟩ | ⟨-, hremoved⟩⟩ := s.unlinkName_cases name
    · rw [hunlink] at hok
      cases hok
    · exact hremoved.bound
  · rintro ⟨n, hbound⟩
    rw [unlinkName, removeName_eq hstruck (hremovable n hbound) hbound]

/-- The object that a text leads to. -/
def boundTo (s : Store) (given : String) : Option Nat :=
  match SegmentName.ofString given with
  | .error _ => none
  | .ok name => s.lookup name

/-- An open that leads to an object that was there was led there by its
name. -/
theorem Granted.lookup_of_lt {size : UInt64} {h : Handle} (hg : Granted s name size h s')
    (hn : h.object < s.objects.size) : s.lookup name = some h.object := by
  cases hcreator : h.creator with
  | true => exact absurd (hg.object_eq hcreator) (Nat.ne_of_lt hn)
  | false => exact (hg.joins hcreator).1

end Store

open Store

/-! ## Bytes -/

namespace Handle

variable {h k : Handle} {s s' : Store}

theorem read_congr (hobject : s'.object k.object = s.object k.object) (offset length : Nat) :
    k.read s' offset length = k.read s offset length :=
  congrArg (·.read offset length) hobject

theorem read_one (k : Handle) (s : Store) (i : Nat) :
    k.read s i 1 = [(s.object k.object).byteAt i] := rfl

/-- **What is written through one handle is read through another** where
both are on one object, and nowhere else is anything else read. -/
theorem read_write (live : h.object < s.objects.size) (offset : Nat) (bytes : Bytes) (i : Nat) :
    k.read (h.write s offset bytes) i 1 =
      if k.object = h.object ∧ offset ≤ i ∧ i < offset + bytes.length then
        [bytes.getD (i - offset) 0]
      else k.read s i 1 := by
  rw [read_one, read_one]
  by_cases hsame : k.object = h.object
  · have hobject : (h.write s offset bytes).object k.object =
        (s.object k.object).write offset bytes := by
      rw [hsame]
      exact object_modifyObject_self live
    rw [hobject]
    by_cases hin : offset ≤ i ∧ i < offset + bytes.length
    · obtain ⟨j, rfl⟩ := Nat.exists_eq_add_of_le hin.1
      rw [if_pos ⟨hsame, hin⟩, Object.byteAt_write_of_lt (by omega), Nat.add_sub_cancel_left]
    · rw [if_neg fun hall => hin hall.2, Object.byteAt_write_of_outside (by omega)]
  · have hobject : (h.write s offset bytes).object k.object = s.object k.object :=
      object_modifyObject_of_ne fun heq => hsame heq.symm
    rw [if_neg fun hall => hsame hall.1, hobject]

end Handle

namespace Commons

variable {c c' : Commons} {s s' : Store} {r earlier later : List Mark} {n : Nat}
variable {name : SegmentName} {h : Handle} {size : UInt64}

/-! ## How far a dealing reaches -/

/-- **The objects that a dealing works on.** The building of a channel works
on those that its names stand for, for it may clear them. -/
def reach (c : Commons) : Dealing → List Nat
  | .openSegment _ _ => []
  | .openRing _ _ => []
  | .build config => [config.inName, config.outName].filterMap c.store.boundTo
  | .drop i =>
    match c.tenants[i]? with
    | none => []
    | some t => t.handles.map Handle.object
  | .destroy _ _ => []
  | .unlink _ => []
  | .write i _ _ =>
    match c.handles[i]? with
    | none => []
    | some h => [h.object]
  | .call i _ =>
    match c.views[i]? with
    | none => []
    | some v => [v.handle.object]
  | .turn i role _ =>
    match c.tenants[i]? with
    | some (.channel channel) => [(channel.lane role).view.handle.object]
    | _ => []
  | .fault _ => []

theorem object_of_opens {given : String} {result : Except SegmentError Handle}
    (ho : Opens given s result s') (hn : n < s.objects.size) : s'.object n = s.object n := by
  cases hresult : result with
  | ok h =>
    obtain ⟨name, size, hg⟩ := ho.granted h hresult
    exact hg.held.holding.objects n hn
  | error e =>
    cases hname : SegmentName.ofString given with
    | ok name => exact (ho.kept e hresult name hname).objects n hn
    | error e' => rw [(ho.refused e' hname).2]

/-- **Both rings of a channel** are on objects that their names stood for,
or on new ones. -/
theorem object_ne_of_opened {config : Config} {inView outView : View} {s₁ s₂ : Store}
    (hin : s.openRing config.inName config.inGeometry = (.ok inView, s₁))
    (hout : s₁.openRing config.outName config.outGeometry = (.ok outView, s₂))
    (hn : n < s.objects.size) (hnot : n ∉ [config.inName, config.outName].filterMap s.boundTo) :
    s₂.object n = s.object n ∧ n ∉ [inView.handle.object, outView.handle.object] := by
  have hgranted := ringGranted_of_openRing hin
  have hgranted' := ringGranted_of_openRing hout
  have hkept := hgranted.granted.held.kept
  have hn₁ : n < s₁.objects.size := Nat.lt_of_lt_of_le hn hkept.size_le
  have hunbound : ∀ given ∈ [config.inName, config.outName], ∀ name,
      SegmentName.ofString given = .ok name → s.lookup name ≠ some n := by
    intro given hgiven name hname hbound
    refine hnot (List.mem_filterMap.2 ⟨given, hgiven, ?_⟩)
    rw [boundTo, hname]
    exact hbound
  refine ⟨(hgranted'.granted.held.kept.objects n hn₁).trans (hkept.objects n hn), fun hmem => ?_⟩
  rcases List.mem_cons.1 hmem with rfl | hmem
  · exact hunbound _ (by simp) _ hgranted.name (hgranted.granted.lookup_of_lt hn)
  · obtain rfl := List.mem_singleton.1 hmem
    have hbound := hgranted'.granted.lookup_of_lt hn₁
    rcases hkept.names with hsame | hcreated
    · rw [lookup, hsame] at hbound
      exact hunbound _ (by simp) _ hgranted'.name hbound
    · by_cases hname : outView.name = inView.name
      · rw [hname, hcreated.lookup_self] at hbound
        exact Nat.ne_of_gt hn (Option.some.inj hbound)
      · rw [hcreated.lookup_of_ne hname] at hbound
        exact hunbound _ (by simp) _ hgranted'.name hbound

/-- **The building of a channel** leaves all other objects as they are,
however it ends. -/
theorem object_build (config : Config) (hn : n < s.objects.size)
    (hnot : n ∉ [config.inName, config.outName].filterMap s.boundTo) :
    (Channel.build config s).2.object n = s.object n := by
  rcases hbuild : Channel.build config s with ⟨e | channel, s'⟩
  · obtain ⟨workers, haborted⟩ := Channel.build_eq_error_iff.1 hbuild
    cases haborted with
    | inbound hin =>
      have hopens := opens_openRing config.inName config.inGeometry s
      rw [hin] at hopens
      exact object_of_opens hopens hn
    | @outbound inView _ s₁ s₂ hin hout =>
      have hkept := (ringGranted_of_openRing hin).granted.held.kept
      have hopens := opens_openRing config.outName config.outGeometry s₁
      rw [hout] at hopens
      have hsame := object_of_opens hopens (Nat.lt_of_lt_of_le hn hkept.size_le)
      exact (inView.handle.object_drop s₂ n).trans (hsame.trans (hkept.objects n hn))
    | @reader inView outView _ s₁ s₂ s₃ hin hout hreader =>
      obtain ⟨hsame, hapart⟩ := object_ne_of_opened hin hout hn hnot
      have hstarted := (Channel.untouched_startWorker hreader).1.object n
      have hcleared := (Channel.within_clears config inView outView s₂).others n hapart
      rw [View.drop, Handle.object_drop, View.drop, Handle.object_drop, hstarted, hcleared, hsame]
    | @writer inView outView _ s₁ s₂ s₃ s₄ l hin hout hreader hwriter =>
      obtain ⟨hsame, hapart⟩ := object_ne_of_opened hin hout hn hnot
      obtain rfl := Channel.eq_dormant_of_startWorker hreader rfl
      have hstarted := ((Channel.untouched_startWorker hreader).1.trans
        (Channel.untouched_startWorker hwriter).1).object n
      have hcleared := (Channel.within_clears config inView outView s₂).others n hapart
      have hjoined := Channel.join_dormant inView .reader config.inElementSize s₄
      generalize ((Channel.dormant inView .reader config.inElementSize).join s₄).2 = s₅ at hjoined
      have hwaited : s₅.object n = s₄.object n := by rw [hjoined]; rfl
      rw [View.drop, Handle.object_drop, View.drop, Handle.object_drop, hwaited, hstarted, hcleared,
        hsame]
  · obtain ⟨s₁, s₂, hbuilt⟩ := Channel.built_of_build hbuild
    obtain ⟨hsame, hapart⟩ := object_ne_of_opened hbuilt.inbound hbuilt.outbound hn hnot
    have hcleared := (Channel.within_clears config channel.inbound.view channel.outbound.view
      s₂).others n hapart
    have hend : s'.object n = _ := congrArg (·.getD n {}) hbuilt.objects
    exact hend.trans (hcleared.trans hsame)

/-- To remove a name, or to try, is to leave all objects as they are. -/
theorem objects_unlinkName (s : Store) (name : SegmentName) :
    (s.unlinkName name).2.objects = s.objects := by
  obtain ⟨s', ⟨e, hunlink, -, hobjects⟩ | ⟨hunlink, hremoved⟩⟩ := s.unlinkName_cases name <;>
    rw [hunlink]
  · exact hobjects
  · exact hremoved.objects

theorem objects_unlink (s : Store) (given : String) : (s.unlink given).2.objects = s.objects := by
  rw [unlink]
  cases SegmentName.ofString given with
  | error e => rfl
  | ok name => exact objects_unlinkName s name

theorem objects_destroy (v : View) (unlink : Bool) (s : Store) :
    (v.destroy unlink s).2.objects = s.objects := by
  cases unlink with
  | false => exact v.handle.objects_drop s
  | true => exact (objects_unlink (v.drop s) v.name.full).trans (v.handle.objects_drop s)

/-- **A dealing leaves all objects as they are that it does not reach.** -/
theorem object_after (d : Dealing) (hn : n < c.store.objects.size) (hnot : n ∉ c.reach d) :
    (c.after d).store.object n = c.store.object n := by
  cases d with
  | openSegment given size => exact object_of_opens (opens_openNamed given size c.store) hn
  | openRing given g => exact object_of_opens (opens_openRing given g c.store) hn
  | build config => exact object_build config hn hnot
  | drop i =>
    simp only [reach] at hnot
    simp only [after]
    cases hi : c.tenants[i]? with
    | none => rfl
    | some t =>
      rw [hi] at hnot
      exact (t.object_drop c.store n).2 hnot
  | destroy i unlink =>
    simp only [after]
    split
    · rename_i v _
      exact congrArg (·.getD n {}) (objects_destroy v unlink c.store)
    · rfl
  | unlink given => exact congrArg (·.getD n {}) (objects_unlink c.store given)
  | write i offset bytes =>
    simp only [reach] at hnot
    simp only [after]
    cases hi : c.handles[i]? with
    | none => rfl
    | some h =>
      rw [hi] at hnot
      dsimp only
      split
      · exact (h.within_write c.store offset bytes).others n hnot
      · rfl
  | call i call =>
    simp only [reach] at hnot
    simp only [after]
    cases hi : c.views[i]? with
    | none => rfl
    | some v =>
      rw [hi] at hnot
      exact (v.within_perform call c.store).others n hnot
  | turn i role t =>
    simp only [reach] at hnot
    simp only [after]
    split
    · rename_i channel hi
      rw [hi] at hnot
      have hturn := Course.within_ownTurn { lane := channel.lane role, store := c.store } t
      exact hturn.2.others n hnot
    · rfl
  | fault f => rfl

/-! ## Names that are removed -/

/-- **What the removal of a name comes to**: all bytes are as they were. If
it succeeds, one binding is gone, and if it fails, none. It succeeds if the
name is bound, unless a fault strikes. -/
structure Removes (c : Commons) (name : SegmentName) (result : Except SegmentError Unit)
    (c' : Commons) : Prop where
  objects : c'.store.objects = c.store.objects
  ok : result = .ok () →
    Unbound c.store name c'.store ∧ c'.record = c.record ++ [Mark.removed name]
  error : ∀ e, result = .error e → c'.store.names = c.store.names ∧ c'.record = c.record
  ok_iff : (Fault.strike .unlink c.store.faults).1 = none →
    (result = .ok () ↔ ∃ n, c.store.lookup name = some n)

theorem removes_of_unlinkName (hregistered : Registered s) (hnames : c.store.names = s.names)
    (hobjects : c.store.objects = s.objects)
    (hfaults : (Fault.strike .unlink c.store.faults).1 = none →
      (Fault.strike .unlink s.faults).1 = none)
    (hstore : c'.store = (s.unlinkName name).2)
    (hrecord : c'.record = c.record ++ removeMarks name.full (s.unlinkName name).1) :
    Removes c name (s.unlinkName name).1 c' := by
  have hlookup : ∀ other, c.store.lookup other = s.lookup other := fun other =>
    congrArg (List.lookup other) hnames
  refine ⟨by rw [hstore, objects_unlinkName, hobjects], fun hok => ?_, fun e herror => ?_,
    fun hstruck => ?_⟩
  · obtain ⟨t, ⟨e, hunlink, -⟩ | ⟨hunlink, hremoved⟩⟩ := s.unlinkName_cases name
    · rw [hunlink] at hok
      cases hok
    · have hunbound := hremoved.unbound hregistered.nodup
      rw [hstore, hrecord, hunlink, removeMarks, name.ofString_full]
      refine ⟨⟨?_, hunbound.gone, fun other hother => ?_⟩, rfl⟩
      · rw [hnames]
        exact hunbound.one
      · rw [hlookup]
        exact hunbound.others other hother
  · obtain ⟨t, ⟨e', hunlink, hsame, -⟩ | ⟨hunlink, -⟩⟩ := s.unlinkName_cases name
    · rw [hstore, hrecord, hunlink, removeMarks, List.append_nil, hnames]
      exact ⟨hsame, rfl⟩
    · rw [hunlink] at herror
      cases herror
  · rw [hlookup]
    exact unlinkName_ok_iff (hfaults hstruck) (hregistered.removable name)

/-- **To unlink a name.** -/
theorem removes_unlink (hregistered : Registered c.store) {given : String}
    (hname : SegmentName.ofString given = .ok name) :
    Removes c name (c.store.unlink given).1 (c.after (.unlink given)) := by
  have hunlink : c.store.unlink given = c.store.unlinkName name := by rw [unlink, hname]
  rw [hunlink]
  refine removes_of_unlinkName hregistered rfl rfl id ?_ ?_
  · simp only [after, hunlink]
  · simp only [after, hunlink, removeMarks_full hname]

/-- **To destroy a ring and its name.** -/
theorem removes_destroy (hregistered : Registered c.store) {i : Nat} {v : View}
    (hi : c.tenants[i]? = some (.ring v)) :
    Removes c v.name (v.destroy true c.store).1 (c.after (.destroy i true)) := by
  have hdestroy : v.destroy true c.store = (v.drop c.store).unlinkName v.name := by
    rw [View.destroy, if_pos rfl, unlink, v.name.ofString_full]
  rw [hdestroy]
  refine removes_of_unlinkName (hregistered.steady (.drop v c.store))
    (v.handle.names_drop c.store).symm (v.handle.objects_drop c.store).symm (fun hstruck => ?_)
    ?_ ?_
  · rw [View.drop, Handle.faults_drop, Fault.strike_strike (by decide)]
    exact hstruck
  · simp only [after, hi, hdestroy]
  · simp only [after, hi, hdestroy, if_true]

/-- Of two entries of a record one is the later, or they are the same. -/
theorem later_of_splits {first last : List Mark} {a m : Mark}
    (h : earlier ++ a :: later = first ++ m :: last) :
    m ∈ later ∨ a ∈ last ∨ a = m ∧ later = last := by
  rcases List.append_eq_append_iff.1 h with ⟨between, -, hsplit⟩ | ⟨between, -, hsplit⟩
  · rcases List.cons_eq_append_iff.1 hsplit with ⟨-, hsame⟩ | ⟨between', -, hlater⟩
    · obtain ⟨hm, hlast⟩ := List.cons.inj hsame
      exact .inr (.inr ⟨hm.symm, hlast.symm⟩)
    · exact .inl (hlater ▸ List.mem_append_right _ (List.mem_cons_self ..))
  · rcases List.cons_eq_append_iff.1 hsplit with ⟨-, hsame⟩ | ⟨between', -, hlast⟩
    · obtain ⟨hm, hlast⟩ := List.cons.inj hsame
      exact .inr (.inr ⟨hm, hlast⟩)
    · exact .inr (.inl (hlast ▸ List.mem_append_right _ (List.mem_cons_self ..)))

/-- **A name is free from its removal on** until somebody opens it. -/
theorem Ledger.lookup_of_removed (hl : Ledger s r) (hr : r = earlier ++ Mark.removed name :: later)
    (hgranted : ∀ k, Mark.granted k ∈ later → k.name ≠ name)
    (hleft : ∀ n, Mark.left name n ∉ later) : s.lookup name = none := by
  cases hlookup : s.lookup name with
  | none => rfl
  | some n =>
    obtain ⟨first, m, last, hr', hbinds, hnot⟩ := hl.known name n hlookup
    rcases later_of_splits (hr.symm.trans hr') with hm | hgone | ⟨rfl, -⟩
    · cases m with
      | granted k => exact absurd hbinds.1 (hgranted k hm)
      | left other k =>
        obtain ⟨rfl, rfl⟩ := hbinds
        exact absurd hm (hleft k)
      | removed other => exact hbinds.elim
    · exact absurd hgone hnot
    · exact hbinds.elim

/-! ## After any dealings -/

/-- **Who shares what.** -/
structure Shared (c : Commons) : Prop where
  /-- Every handle that is held was returned by an open. -/
  recorded : c.Recorded
  /-- **Two handles are on one object** if and only if they were opened
  under one name, and this was not removed between the one open and the
  other. -/
  shared_iff : ∀ earlier h between k later,
    c.record = earlier ++ Mark.granted h :: between ++ Mark.granted k :: later →
      (h.object = k.object ↔ h.name = k.name ∧ Mark.removed h.name ∉ between)
  /-- What is written through a handle is read at its place through the
  handles on the same object, and nothing else that is read changes. -/
  written : ∀ h ∈ c.handles, ∀ k ∈ c.handles, ∀ offset bytes i,
    h.covers offset bytes.length = true → k.covers i 1 = true →
      k.read (h.write c.store offset bytes) i 1 =
        if k.object = h.object ∧ offset ≤ i ∧ i < offset + bytes.length then
          [bytes.getD (i - offset) 0]
        else k.read c.store i 1
  /-- What a call on a ring makes of it is read through the handles on the
  same object. -/
  called : ∀ v ∈ c.views, ∀ call, ∀ k ∈ c.handles, k.object = v.handle.object →
    ∀ offset length, k.read (v.perform call c.store).2 offset length =
      (Ring.perform v.geometry call (c.store.object v.handle.object)).2.read offset length
  /-- Whatever is done, what is read through a handle changes only if that
  reaches its object. -/
  apart : ∀ d, ∀ k ∈ c.handles, k.object ∉ c.reach d →
    ∀ offset length, k.read (c.after d).store offset length = k.read c.store offset length

/-- **How long names and bytes last.** -/
structure Lasting (c : Commons) : Prop where
  /-- To give up what is open removes no name. -/
  names_drop : ∀ i, (c.after (.drop i)).store.names = c.store.names
  /-- Nor does it change a byte, if no worker is on its way to a ring. -/
  objects_drop : ∀ i t, c.tenants[i]? = some t → t.Idle →
    (c.after (.drop i)).store.objects = c.store.objects
  /-- To destroy a ring and keep its name is to give it up. -/
  destroyed : ∀ i, (c.after (.destroy i false)).store.names = c.store.names ∧
    (c.after (.destroy i false)).store.objects = c.store.objects
  /-- To unlink a name leaves all that is open. -/
  unlinked : ∀ given name, SegmentName.ofString given = .ok name →
    Removes c name (c.store.unlink given).1 (c.after (.unlink given)) ∧
      (c.after (.unlink given)).tenants = c.tenants
  /-- To destroy a ring and its name leaves all else that is open. -/
  removed : ∀ i v, c.tenants[i]? = some (.ring v) →
    Removes c v.name (v.destroy true c.store).1 (c.after (.destroy i true)) ∧
      (c.after (.destroy i true)).tenants = c.tenants.eraseIdx i
  /-- A name is free from its removal on until somebody opens it. -/
  free : ∀ earlier name later, c.record = earlier ++ Mark.removed name :: later →
    (∀ k, Mark.granted k ∈ later → k.name ≠ name) → (∀ n, Mark.left name n ∉ later) →
      c.store.lookup name = none
  /-- **Who opens a name that is free** has an object that no handle of
  before is on, and nothing is in it but the lock of a ring. -/
  fresh : ∀ s name size h s', c.Attempt s name size (.ok h) s' → s.lookup name = none →
    h.creator = true ∧ (∀ k, Mark.granted k ∈ c.record → k.object ≠ h.object) ∧
      Ring.Blank (s'.object h.object)
  /-- Where it was not opened as a ring, not even that. -/
  zero : ∀ given size h s', c.store.openNamed given size = (.ok h, s') →
    c.store.lookup h.name = none → ∀ i, (s'.object h.object).byteAt i = 0

theorem Ledger.shared_iff (hl : Ledger s r) {between : List Mark} {k : Handle}
    (hr : r = earlier ++ Mark.granted h :: between ++ Mark.granted k :: later) :
    h.object = k.object ↔ h.name = k.name ∧ Mark.removed h.name ∉ between :=
  (hl.entries _ k later hr).1.shared earlier h between rfl

/-- **Who opens a name that is free gets a new object.** -/
theorem Ledger.fresh_of_absent (hl : Ledger c.store c.record)
    (ha : c.Attempt s name size (.ok h) s') (hfree : s.lookup name = none) :
    h.creator = true ∧ (∀ k, Mark.granted k ∈ c.record → k.object ≠ h.object) ∧
      Ring.Blank (s'.object h.object) := by
  obtain ⟨hg, hblank⟩ := ha.granted
  cases hcreator : h.creator with
  | false =>
    rw [(hg.joins hcreator).1] at hfree
    cases hfree
  | true =>
    refine ⟨rfl, fun k hk => ?_, hblank hcreator⟩
    obtain ⟨r, hstrides⟩ := ha.strides
    rw [hg.object_eq hcreator]
    exact Nat.ne_of_lt (Nat.lt_of_lt_of_le (hl.live hk) (grown_of_strides hstrides).count_le)

theorem shared_of_ledger (hl : Ledger c.store c.record) (hrecorded : c.Recorded) : c.Shared where
  recorded := hrecorded
  shared_iff := fun _ _ _ _ _ hr => hl.shared_iff hr
  written := fun h hh _ _ offset bytes i _ _ =>
    Handle.read_write (hl.live (hrecorded h hh)) offset bytes i
  called := fun v hv call k hk hsame offset length => by
    have live := hl.live (hrecorded k hk)
    rw [hsame] at live
    have hobject := (View.perform_eq_of_live live call).2.1
    rw [Handle.read, hsame, hobject]
  apart := fun d k hk hnot offset length =>
    Handle.read_congr (object_after d (hl.live (hrecorded k hk)) hnot) offset length

theorem lasting_of_ledger (hl : Ledger c.store c.record) : c.Lasting where
  names_drop := fun i => by
    simp only [after]
    split
    · rfl
    · rename_i t _
      exact t.names_drop c.store
  objects_drop := fun i t hi hidle => by
    simp only [after, hi]
    exact Tenant.objects_drop_of_idle hidle c.store
  destroyed := fun i => by
    simp only [after]
    split
    · rename_i v _
      exact ⟨v.handle.names_drop c.store, v.handle.objects_drop c.store⟩
    · exact ⟨rfl, rfl⟩
  unlinked := fun given name hname => ⟨removes_unlink hl.registered hname, rfl⟩
  removed := fun i v hi => ⟨removes_destroy hl.registered hi, by simp only [after, hi]⟩
  free := fun _ _ _ hr hgranted hleft => hl.lookup_of_removed hr hgranted hleft
  fresh := fun s name size h s' ha hfree => hl.fresh_of_absent ha hfree
  zero := fun given size h s' hopen hfree i => by
    unfold openNamed at hopen
    cases hname : SegmentName.ofString given with
    | error e =>
      rw [hname] at hopen
      cases hopen
    | ok name =>
      rw [hname] at hopen
      obtain ⟨hg, hcells⟩ := granted_of_openSegment hopen
      cases hcreator : h.creator with
      | true => rw [Object.byteAt, hcells hcreator]; rfl
      | false =>
        rw [hg.held.name_eq, (hg.joins hcreator).1] at hfree
        cases hfree

/-- **Sharing and lifetime**, after any dealings on any names, whatever has
failed of them: two handles share all that is written through either, or
nothing, by the names they were opened under and the removals in between;
and neither the end of a handle nor that of a name is the end of the
other. -/
theorem sharing_run (dealings : List Dealing) :
    (({} : Commons).run dealings).Shared ∧ (({} : Commons).run dealings).Lasting :=
  ⟨shared_of_ledger (ledger_run dealings) (recorded_run dealings),
    lasting_of_ledger (ledger_run dealings)⟩

/-- A name is opened twice, removed and opened again: the third handle is
on an object of its own. -/
example :
    (({} : Commons).run [.openSegment "/x" 8, .openSegment "x" 4, .unlink "/x",
      .openSegment "/x" 8]).handles.map (fun h => (h.object, h.creator)) =
      [(0, true), (0, false), (1, true)] := by
  decide +kernel

end Commons

end TwinRing
