import TwinRing.Proofs.Ring.Residue
import TwinRing.Proofs.Segment.Within
/-!
# Channels that could not be built

The building of a channel can fail at four places: at either ring, and at
either worker. `Aborted` is the account of these four, each with what had
been done by then and what is undone; `build_eq_error_iff` says that it is
a complete one. From it comes what a failure leaves: no worker, and
nothing taken. The rings are not cleared before both are open, so an error
about a ring leaves every ring as it was; one about a worker comes after
the clears, and these are not taken back.
-/

namespace TwinRing

open Fault (Spares)

/-! ## Rings that were cleared -/

namespace Ring

variable {p q : Prop} {o o' o'' : Object}

/-- **What a clear can change**, if there was one: the read index, which
then is the write index, and nothing else. -/
structure Cleared (asked : Prop) (o o' : Object) : Prop where
  size_eq : o'.size = o.size
  apart : ∀ i, i < Header.readIndex ∨ Header.readIndex + 8 ≤ i → o'.byteAt i = o.byteAt i
  /-- A clear that goes through has discarded all. -/
  readIndex_eq : asked → o.lock = .sound → readIndex o' = writeIndex o
  untouched : ¬ asked → o' = o

namespace Cleared

theorem refl (h : ¬ p) : Cleared p o o := ⟨rfl, fun _ _ => rfl, fun hp => absurd hp h, fun _ => rfl⟩

theorem writeIndex_eq (h : Cleared p o o') : writeIndex o' = writeIndex o := by
  rw [writeIndex, writeIndex, Object.wordAt, Object.wordAt]
  refine congrArg Word.ofBytes (Object.read_eq_read fun i _ => h.apart _ (.inr ?_))
  unfold Header.writeIndex Header.readIndex
  omega

theorem lock_eq (h : Cleared p o o') : o'.lock = o.lock := by
  rw [Object.lock, Object.lock, h.apart _ (.inl (by decide))]

/-- One clear after another is a clear. -/
theorem trans (h : Cleared p o o') (h' : Cleared q o' o'') : Cleared (p ∨ q) o o'' := by
  refine ⟨h'.size_eq.trans h.size_eq, fun i hi => (h'.apart i hi).trans (h.apart i hi),
    fun hasked hsound => ?_, fun hnone => ?_⟩
  · by_cases hq : q
    · rw [h'.readIndex_eq hq (h.lock_eq.trans hsound), h.writeIndex_eq]
    · rw [h'.untouched hq]
      exact h.readIndex_eq (hasked.resolve_right hq) hsound
  · rw [h'.untouched fun hq => hnone (.inr hq), h.untouched fun hp => hnone (.inl hp)]

/-- A fresh ring stays fresh. -/
theorem fresh (h : Cleared p o o') (hf : Fresh o) : Fresh o' := by
  refine ⟨⟨?_, h.writeIndex_eq.trans hf.zeroed.2⟩, h.lock_eq.trans hf.lock⟩
  by_cases hp : p
  · exact (h.readIndex_eq hp hf.lock).trans hf.zeroed.2
  · rw [h.untouched hp]
    exact hf.zeroed.1

end Cleared

theorem cleared_clear (o : Object) : Cleared True o (clear o) := by
  by_cases hlock : o.lock = .broken
  · rw [clear, if_pos hlock]
    exact ⟨rfl, fun _ _ => rfl, fun _ hsound => absurd (hlock.symm.trans hsound) (by decide),
      fun hnone => absurd trivial hnone⟩
  · refine ⟨?_, fun i hi => ?_, fun _ hsound => (readIndex_clear hsound).1,
      fun hnone => absurd trivial hnone⟩
    · rw [clear, if_neg hlock, Object.size_setWord]
    · rw [clear, if_neg hlock, Object.byteAt_setWord_of_outside hi]

end Ring

namespace Channel

variable {config : Config} {s s' t : Store} {e : ChannelError} {v inView outView : View}
variable {l : Lane} {workers : List Lane}

/-- **A clear that may have been asked for**, by what it does to each ring
that is there. -/
theorem cleared_clearIf (asked : Bool) (v : View) {n : Nat} (live : n < s.objects.size) :
    Ring.Cleared (asked = true ∧ v.handle.object = n) (s.object n)
      ((clearIf asked v s).object n) := by
  by_cases hasked : asked = true
  · rw [clearIf, if_pos hasked]
    by_cases hsame : v.handle.object = n
    · have hobject : (v.clear s).object n = Ring.clear (s.object n) := by
        subst hsame
        exact Store.object_setObject_self live
      rw [hobject]
      have hcleared := Ring.cleared_clear (s.object n)
      exact ⟨hcleared.size_eq, hcleared.apart, fun _ => hcleared.readIndex_eq trivial,
        fun hnone => absurd ⟨hasked, hsame⟩ hnone⟩
    · have hobject : (v.clear s).object n = s.object n := Store.object_setObject_of_ne hsame
      rw [hobject]
      exact .refl fun h => hsame h.2
  · rw [clearIf, if_neg hasked]
    exact .refl fun h => hasked h.1

/-- **The clears of a build** change bytes of its two rings, and nothing
else. -/
theorem within_clears (config : Config) (inView outView : View) (s : Store) :
    Store.Within [inView.handle.object, outView.handle.object] s
      (clearIf config.clearOut outView (clearIf config.clearIn inView s)) :=
  ((within_clearIf config.clearIn inView s).mono (by simp)).trans
    ((within_clearIf config.clearOut outView _).mono (by simp))

/-! ## The four failures -/

/-- The lane of a worker that has found nothing to do. -/
def dormant (v : View) (role : Role) (elementSize : UInt64) : Lane :=
  { view := v
    handshake := { direction := { role, elementSize }, worker := some .asleep }
    events := #[.workerStarted role v.name] }

/-- The lane of a worker that was shut down before it found anything. -/
def halted (v : View) (role : Role) (elementSize : UInt64) : Lane :=
  { view := v
    handshake :=
      { direction := { role, elementSize, exit := true }, worker := some .stopped }
    events := #[.workerStarted role v.name, .workerStopped role v.name] }

theorem startWorker_eq (v : View) (role : Role) (elementSize : UInt64) (s : Store) :
    startWorker (Lane.ofView v role elementSize) s =
      (match (Fault.strike .spawn s.faults).1 with
        | some e => .error e
        | none => .ok (dormant v role elementSize),
        { s with faults := (Fault.strike .spawn s.faults).2 }) := by
  rw [startWorker, Store.strike_eq]
  cases (Fault.strike .spawn s.faults).1 with
  | some e => rfl
  | none => rfl

theorem signalExit_dormant (v : View) (role : Role) (elementSize : UInt64) (s : Store) :
    (dormant v role elementSize).signalExit s = (halted v role elementSize, s) := rfl

/-- A worker that is waited for has reported its beginning and its end. -/
theorem join_dormant (v : View) (role : Role) (elementSize : UInt64) (s : Store) :
    ((dormant v role elementSize).join s).2 =
      s.reportWorker role [.workerStarted role v.name, .workerStopped role v.name] := rfl

section Start

variable {role : Role} {elementSize : UInt64} {result : Except OsError Lane}
variable (h : startWorker (Lane.ofView v role elementSize) s = (result, s'))
include h

/-- **A worker that is started lies dormant.** -/
theorem eq_dormant_of_startWorker (hok : result = .ok l) : l = dormant v role elementSize := by
  subst hok
  rw [startWorker_eq] at h
  cases hstruck : (Fault.strike .spawn s.faults).1 with
  | some e =>
    rw [hstruck] at h
    cases congrArg Prod.fst h
  | none =>
    rw [hstruck] at h
    exact (Except.ok.inj (congrArg Prod.fst h)).symm

/-- **To start a worker, or to try,** touches nothing and gives back no
mapping. -/
theorem untouched_startWorker : Store.Untouched s s' ∧
    ∀ n, Spares .unmap n s.faults → Spares .unmap n s'.faults := by
  rw [startWorker_eq] at h
  rw [← show { s with faults := (Fault.strike .spawn s.faults).2 } = s' from congrArg Prod.snd h]
  exact ⟨Store.untouched_of_struck rfl ⟨by decide, by decide⟩,
    fun n hn => (Fault.spares_strike_iff (by decide)).2 hn⟩

end Start

/-- **How the building of a channel can fail**: the error, the store that is
left, and the lanes whose workers were started, as these leave them. -/
inductive Aborted (config : Config) (s : Store) : ChannelError → Store → List Lane → Prop
  /-- The inbound ring cannot be opened. -/
  | inbound {cause : SegmentError} {s₁ : Store}
      (hin : s.openRing config.inName config.inGeometry = (.error cause, s₁)) :
      Aborted config s (.segment cause) s₁ []
  /-- The outbound ring cannot be opened: the inbound one is given up. -/
  | outbound {inView : View} {cause : SegmentError} {s₁ s₂ : Store}
      (hin : s.openRing config.inName config.inGeometry = (.ok inView, s₁))
      (hout : s₁.openRing config.outName config.outGeometry = (.error cause, s₂)) :
      Aborted config s (.segment cause) (inView.drop s₂) []
  /-- Both rings are open and have been cleared, and the reader cannot be
  started. -/
  | reader {inView outView : View} {cause : OsError} {s₁ s₂ s₃ : Store}
      (hin : s.openRing config.inName config.inGeometry = (.ok inView, s₁))
      (hout : s₁.openRing config.outName config.outGeometry = (.ok outView, s₂))
      (hreader : startWorker (.ofView inView .reader config.inElementSize)
        (clearIf config.clearOut outView (clearIf config.clearIn inView s₂)) = (.error cause, s₃)) :
      Aborted config s (.spawnFailed cause) (inView.drop (outView.drop s₃)) []
  /-- The reader was started, and the writer cannot be: the reader is shut
  down and waited for. -/
  | writer {inView outView : View} {cause : OsError} {s₁ s₂ s₃ s₄ : Store} {l : Lane}
      (hin : s.openRing config.inName config.inGeometry = (.ok inView, s₁))
      (hout : s₁.openRing config.outName config.outGeometry = (.ok outView, s₂))
      (hreader : startWorker (.ofView inView .reader config.inElementSize)
        (clearIf config.clearOut outView (clearIf config.clearIn inView s₂)) = (.ok l, s₃))
      (hwriter : startWorker (.ofView outView .writer config.outElementSize) s₃ =
        (.error cause, s₄)) :
      Aborted config s (.spawnFailed cause) (inView.drop (outView.drop (l.join s₄).2))
        [(l.signalExit s₄).1]

/-- **There are no other failures**, and each of these is one. -/
theorem build_eq_error_iff :
    build config s = (.error e, s') ↔ ∃ workers, Aborted config s e s' workers := by
  constructor
  · intro h
    unfold build at h
    rcases hin : s.openRing config.inName config.inGeometry with ⟨cause | inView, s₁⟩
    · rw [hin] at h
      cases h
      exact ⟨_, .inbound hin⟩
    rw [hin] at h
    dsimp only at h
    rcases hout : s₁.openRing config.outName config.outGeometry with ⟨cause | outView, s₂⟩
    · rw [hout] at h
      cases h
      exact ⟨_, .outbound hin hout⟩
    rw [hout] at h
    dsimp only at h
    unfold startWorkers at h
    dsimp only at h
    rcases hreader : startWorker (.ofView inView .reader config.inElementSize)
        (clearIf config.clearOut outView (clearIf config.clearIn inView s₂)) with ⟨cause | l, s₃⟩
    · rw [hreader] at h
      cases h
      exact ⟨_, .reader hin hout hreader⟩
    rw [hreader] at h
    dsimp only at h
    rcases hwriter : startWorker (.ofView outView .writer config.outElementSize) s₃
      with ⟨cause | l', s₄⟩
    · rw [hwriter] at h
      cases h
      exact ⟨_, .writer hin hout hreader hwriter⟩
    · rw [hwriter] at h
      cases h
  · rintro ⟨workers, haborted⟩
    cases haborted with
    | inbound hin => rw [build, hin]
    | outbound hin hout =>
      rw [build, hin]
      dsimp only
      rw [hout]
    | reader hin hout hreader =>
      rw [build, hin]
      dsimp only
      rw [hout]
      dsimp only
      rw [startWorkers, hreader]
    | writer hin hout hreader hwriter =>
      rw [build, hin]
      dsimp only
      rw [hout]
      dsimp only
      rw [startWorkers, hreader]
      dsimp only
      rw [hwriter]

/-! ## What a failure leaves -/

/-- **The calls of the undoing go through**: two mappings are given back at
most, and one name is removed. -/
structure Undoable (s : Store) : Prop where
  unmaps : Spares .unmap 2 s.faults
  unlink : Spares .unlink 1 s.faults

theorem Undoable.cleanable (h : Undoable s) : s.Cleanable := ⟨h.unmaps.1, h.unlink.1⟩

/-- **What an error about a ring leaves.** -/
structure Unopened (config : Config) (s s' : Store) : Prop where
  /-- No ring that was there has changed. -/
  objects : ∀ n < s.objects.size, s'.object n = s.object n
  /-- At most one name is new: that of the inbound ring, which could be
  opened and was not there. It stands for an empty ring. -/
  names : s'.names = s.names ∨
    ∃ inView s₁, s.openRing config.inName config.inGeometry = (.ok inView, s₁) ∧
      s.lookup inView.name = none ∧ SegmentName.ofString config.inName = .ok inView.name ∧
      s'.names = (inView.name, s.objects.size) :: s.names ∧
      (s'.object s.objects.size).size = inView.handle.size.toNat ∧
      Ring.Fresh (s'.object s.objects.size) ∧ Ring.Blank (s'.object s.objects.size)

/-- **What an error about a worker leaves**: two names that stand for two
rings, or for one and the same. -/
structure Unstarted (config : Config) (s s' : Store) (inName outName : SegmentName) (n m : Nat) :
    Prop where
  inName_eq : SegmentName.ofString config.inName = .ok inName
  outName_eq : SegmentName.ofString config.outName = .ok outName
  inbound : s'.lookup inName = some n
  outbound : s'.lookup outName = some m
  /-- A name that was bound stands for its ring of before. -/
  inbound_eq : ∀ k, s.lookup inName = some k → n = k
  outbound_eq : ∀ k, s.lookup outName = some k → m = k
  others : ∀ name, name ≠ inName → name ≠ outName → s'.lookup name = s.lookup name
  /-- A ring that is new is empty. -/
  inbound_fresh : s.lookup inName = none → Ring.Fresh (s'.object n)
  outbound_fresh : s.lookup outName = none → Ring.Fresh (s'.object m)
  /-- One that was there has been cleared if that was asked for, and is as
  it was if not. -/
  cleared : ∀ k < s.objects.size,
    Ring.Cleared (config.clearIn = true ∧ n = k ∨ config.clearOut = true ∧ m = k)
      (s.object k) (s'.object k)

/-- **What a failure leaves**, by its error. -/
def Leaves (config : Config) (s s' : Store) : ChannelError → Prop
  | .segment _ => Unopened config s s'
  | .spawnFailed _ => ∃ inName outName n m, Unstarted config s s' inName outName n m
  | .elementSize _ _ => False
  | .requestPending => False
  | .uncollectedResult => False
  | .closed => False

section Opened

variable {s₁ s₂ : Store}
variable (hin : Store.RingGranted s config.inName config.inGeometry inView s₁)
include hin

/-- **An outbound ring that cannot be opened** leaves the inbound one. -/
theorem unopened_of_restored (hopen : s.openRing config.inName config.inGeometry = (.ok inView, s₁))
    (hs : Store.Restored s₁ s₂) : Unopened config s (inView.drop s₂) := by
  have hholding := hin.granted.held.holding
  have hkept := hholding.kept
  have hobjects : ∀ n < s₁.objects.size, (inView.drop s₂).object n = s₁.object n := fun n hn =>
    (inView.handle.object_drop s₂ n).trans (hs.objects n hn)
  have hnames : (inView.drop s₂).names = s₁.names :=
    (inView.handle.names_drop s₂).trans hs.names
  refine ⟨fun n hn => (hobjects n (Nat.lt_of_lt_of_le hn hkept.size_le)).trans
    (hkept.objects n hn), ?_⟩
  cases hcreator : inView.handle.creator with
  | false => exact .inl (hnames.trans (hholding.joined hcreator).names)
  | true =>
    have hcreated := hholding.created hcreator
    have hnumber : inView.handle.object = s.objects.size := hcreated.number_eq
    have hobject := hobjects _ (hholding.live hcreator)
    rw [hnumber] at hobject
    refine .inr ⟨inView, s₁, hopen, hcreated.free, hin.name, ?_, ?_, ?_, ?_⟩
    · rw [hnames, hcreated.names, ← hnumber]
    · rw [hobject, ← hnumber]
      exact hin.granted.exact hcreator
    · rw [hobject, ← hnumber]
      exact hin.fresh hcreator
    · rw [hobject, ← hnumber]
      exact hin.blank hcreator

variable (hout : Store.RingGranted s₁ config.outName config.outGeometry outView s₂)
include hout

/-- **Both rings given up** are both no longer held. -/
theorem released_drop (hdescriptors : t.descriptors = s₂.descriptors)
    (hmappings : t.mappings = s₂.mappings) (hspares : Spares .unmap 2 t.faults) :
    (inView.drop (outView.drop t)).descriptors = s.descriptors ∧
      (inView.drop (outView.drop t)).mappings = s.mappings := by
  have hunmap : (Fault.strike .unmap (outView.drop t).faults).1 = none := by
    rw [View.drop, Handle.faults_drop]
    exact hspares.2.1
  refine ⟨?_, ?_⟩
  · rw [View.drop, Handle.descriptors_drop, View.drop, Handle.descriptors_drop, hdescriptors,
      hout.granted.held.holding.descriptors, List.erase_cons_head,
      hin.granted.held.holding.descriptors, List.erase_cons_head]
  · rw [View.drop, Handle.mappings_drop _ _ hunmap, View.drop, Handle.mappings_drop _ _ hspares.1,
      hmappings, hout.granted.held.mappings, List.erase_cons_head, hin.granted.held.mappings,
      List.erase_cons_head]

/-- **What comes after the clears** leaves names and rings as they are. -/
theorem unstarted_of_opened (hnames : t.names = s₂.names)
    (hobjects : t.objects =
      (clearIf config.clearOut outView (clearIf config.clearIn inView s₂)).objects) :
    Unstarted config s (inView.drop (outView.drop t)) inView.name outView.name
      inView.handle.object outView.handle.object := by
  have hkept := hin.granted.held.kept
  have hkept' := hout.granted.held.kept
  have hin₁ := hin.granted.held.lookup_self
  have hout₂ := hout.granted.held.lookup_self
  have hlookup : ∀ name, (inView.drop (outView.drop t)).lookup name = s₂.lookup name :=
    fun name => by
      rw [Store.lookup, View.drop, Handle.names_drop, View.drop, Handle.names_drop, hnames]
      rfl
  have hobject : ∀ k < s₂.objects.size,
      Ring.Cleared (config.clearIn = true ∧ inView.handle.object = k ∨
        config.clearOut = true ∧ outView.handle.object = k)
        (s₂.object k) ((inView.drop (outView.drop t)).object k) := fun k hk => by
    have hend : (inView.drop (outView.drop t)).object k =
        (clearIf config.clearOut outView (clearIf config.clearIn inView s₂)).object k := by
      rw [View.drop, Handle.object_drop, View.drop, Handle.object_drop]
      exact congrArg (·.getD k {}) hobjects
    rw [hend]
    refine (cleared_clearIf config.clearIn inView hk).trans
      (cleared_clearIf config.clearOut outView ?_)
    rw [(within_clearIf ..).count]
    exact hk
  have hbound : s₂.lookup inView.name = some inView.handle.object := hkept'.lookup_of_bound hin₁
  refine
    { inName_eq := hin.name
      outName_eq := hout.name
      inbound := (hlookup _).trans hbound
      outbound := (hlookup _).trans hout₂
      inbound_eq := fun k hk => ?_
      outbound_eq := fun k hk => ?_
      others := fun name hne hne' => ?_
      inbound_fresh := fun hfree => ?_
      outbound_fresh := fun hfree => ?_
      cleared := fun k hk => ?_ }
  · exact Option.some.inj (hin₁.symm.trans (hkept.lookup_of_bound hk))
  · exact Option.some.inj (hout₂.symm.trans (hkept'.lookup_of_bound (hkept.lookup_of_bound hk)))
  · rw [hlookup, hkept'.lookup_of_ne hne', hkept.lookup_of_ne hne]
  · obtain ⟨live, hfresh⟩ := hin.fresh_of_absent hfree
    refine (hobject _ (Nat.lt_of_lt_of_le live hkept'.size_le)).fresh ?_
    rw [hkept'.objects _ live]
    exact hfresh
  · by_cases hsame : outView.name = inView.name
    · -- the name was bound by then, to the new inbound ring
      rw [hsame] at hfree hout₂
      have hone : inView.handle.object = outView.handle.object :=
        Option.some.inj (hbound.symm.trans hout₂)
      rw [← hone]
      obtain ⟨live, hfresh⟩ := hin.fresh_of_absent hfree
      refine (hobject _ (Nat.lt_of_lt_of_le live hkept'.size_le)).fresh ?_
      rw [hkept'.objects _ live]
      exact hfresh
    · obtain ⟨live, hfresh⟩ := hout.fresh_of_absent ((hkept.lookup_of_ne hsame).trans hfree)
      exact (hobject _ live).fresh hfresh
  · have hcleared := hobject k (Nat.lt_of_lt_of_le hk (Nat.le_trans hkept.size_le hkept'.size_le))
    rwa [hkept'.objects k (Nat.lt_of_lt_of_le hk hkept.size_le), hkept.objects k hk] at hcleared

/-- **A failure after the clears**, whatever faults and reports came of
it. -/
theorem leaves_of_opened {c : Store}
    (hc : c = clearIf config.clearOut outView (clearIf config.clearIn inView s₂))
    (ht : Store.Untouched c t) (hspares : Spares .unmap 2 t.faults) (cause : OsError) :
    (inView.drop (outView.drop t)).descriptors = s.descriptors ∧
      (inView.drop (outView.drop t)).mappings = s.mappings ∧
      Leaves config s (inView.drop (outView.drop t)) (.spawnFailed cause) := by
  subst hc
  have hclears := within_clears config inView outView s₂
  obtain ⟨hreleased, hunmapped⟩ := released_drop hin hout
    (ht.descriptors.trans hclears.descriptors) (ht.mappings.trans hclears.mappings) hspares
  exact ⟨hreleased, hunmapped, _, _, _, _,
    unstarted_of_opened hin hout (ht.names.trans hclears.names) ht.objects⟩

end Opened

/-- **The building of a channel that fails leaves no worker and nothing
taken.** Whichever ring cannot be opened and whichever worker cannot be
started, in whatever store: a worker that had been started has ended, and
has been at no ring; the descriptors and mappings are those of before. An
error about a ring leaves all rings as they were, with an empty inbound one
more at most; one about a worker leaves both rings, cleared where that was
asked for, and otherwise as they were. -/
theorem aborted_build_leaves (hundo : Undoable s) (h : build config s = (.error e, s')) :
    (∃ workers, Aborted config s e s' workers ∧
      ∀ l ∈ workers, l.handshake.worker = some .stopped ∧
        l.events = #[.workerStarted l.role l.view.name, .workerStopped l.role l.view.name]) ∧
      s'.descriptors = s.descriptors ∧ s'.mappings = s.mappings ∧ Leaves config s s' e := by
  obtain ⟨workers, haborted⟩ := build_eq_error_iff.1 h
  suffices hleft : (∀ l ∈ workers, l.handshake.worker = some .stopped ∧
      l.events = #[.workerStarted l.role l.view.name, .workerStopped l.role l.view.name]) ∧
      s'.descriptors = s.descriptors ∧ s'.mappings = s.mappings ∧ Leaves config s s' e from
    ⟨⟨workers, haborted, hleft.1⟩, hleft.2⟩
  have hnone : ∀ l ∈ ([] : List Lane), l.handshake.worker = some .stopped ∧
      l.events = #[.workerStarted l.role l.view.name, .workerStopped l.role l.view.name] :=
    fun l hl => by cases hl
  have hcleared : ∀ {inView outView : View} {s₁ s₂ : Store},
      s.openRing config.inName config.inGeometry = (.ok inView, s₁) →
      s₁.openRing config.outName config.outGeometry = (.ok outView, s₂) →
      Spares .unmap 2
        (clearIf config.clearOut outView (clearIf config.clearIn inView s₂)).faults := by
    intro inView outView s₁ s₂ hin hout
    rw [(within_clears config inView outView s₂).faults]
    exact (Store.spares_of_openRing
      ((Store.spares_of_openRing hundo.unmaps).1 _ _ hin)).1 _ _ hout
  cases haborted with
  | inbound hin =>
    have hs := (Store.leavesNothing_openRing _ _ _ _ _ hin).1 hundo.cleanable
    exact ⟨hnone, hs.descriptors, hs.mappings, hs.objects, .inl hs.names⟩
  | outbound hin hout =>
    have hgranted := Store.ringGranted_of_openRing hin
    have hheld := hgranted.granted.held
    have hs := (Store.leavesNothing_openRing _ _ _ _ _ hout).1
      (hheld.holding.cleanable hundo.cleanable)
    have hspares := (Store.spares_of_openRing
      ((Store.spares_of_openRing hundo.unmaps).1 _ _ hin)).2 _ _ hout
    refine ⟨hnone, ?_, ?_, unopened_of_restored hgranted hin hs⟩
    · rw [View.drop, Handle.descriptors_drop, hs.descriptors, hheld.holding.descriptors,
        List.erase_cons_head]
    · rw [View.drop, Handle.mappings_drop _ _ hspares.1, hs.mappings, hheld.mappings,
        List.erase_cons_head]
  | reader hin hout hreader =>
    obtain ⟨huntouched, hspares⟩ := untouched_startWorker hreader
    exact ⟨hnone, leaves_of_opened (Store.ringGranted_of_openRing hin)
      (Store.ringGranted_of_openRing hout) rfl huntouched (hspares _ (hcleared hin hout)) _⟩
  | @writer inView outView _ _ _ _ s₄ l hin hout hreader hwriter =>
    obtain rfl := eq_dormant_of_startWorker hreader rfl
    obtain ⟨huntouched, hspares⟩ := untouched_startWorker hreader
    obtain ⟨huntouched', hspares'⟩ := untouched_startWorker hwriter
    have hjoined : Store.Untouched s₄
        ((dormant inView .reader config.inElementSize).join s₄).2 :=
      ⟨rfl, rfl, rfl, rfl, fun hc => ⟨hc.unmap, hc.unlink⟩⟩
    refine ⟨fun l hl => ?_, leaves_of_opened (Store.ringGranted_of_openRing hin)
      (Store.ringGranted_of_openRing hout) rfl ((huntouched.trans huntouched').trans hjoined)
      (hspares' _ (hspares _ (hcleared hin hout))) _⟩
    obtain rfl := List.mem_singleton.1 hl
    rw [signalExit_dormant]
    exact ⟨rfl, rfl⟩

/-- A store with one ring, in which an element is unread; the second start
of a worker is to fail, and so is the third giving back of a mapping. -/
def understaffedStore : Store :=
  { names := [(.ofLetter 'a' (Eq.refl true), 0)]
    objects := #[Ring.setIndices 0 1 { size := 58 }]
    descriptors := [4], mappings := [0], nextDescriptor := 5
    faults := [⟨.spawn, 2, .outOfMemory⟩, ⟨.unmap, 3, .outOfMemory⟩] }

/-- A channel that joins that ring, which it is to clear, and creates the
other. -/
def understaffedConfig : Config := .ofParts "a" "/b" 2 2 1 1 1000 true false

theorem aborted_build_leaves_understaffed :
    Undoable understaffedStore ∧
      ∃ e s', build understaffedConfig understaffedStore = (.error e, s') ∧
        s'.descriptors = [4] ∧ s'.mappings = [0] ∧
        Leaves understaffedConfig understaffedStore s' e := by
  have hundo : Undoable understaffedStore := ⟨⟨rfl, rfl, trivial⟩, rfl, trivial⟩
  have hfails : (build understaffedConfig understaffedStore).1.isOk = false := by decide +kernel
  refine ⟨hundo, ?_⟩
  rcases hbuild : build understaffedConfig understaffedStore with ⟨e | c, s'⟩
  · exact ⟨e, s', rfl, (aborted_build_leaves hundo hbuild).2⟩
  · rw [hbuild] at hfails
    exact Bool.noConfusion hfails

end Channel

end TwinRing
