import TwinRing.Proofs.Commons.Ledger
import TwinRing.Proofs.Ring.Fifo
/-!
# Everything that is open — who made it, and how large it is

An object is made by the first open that returns a handle on it, and it is
never made again: whoever comes later finds its bytes as they are and its
size as it was (`Founded`). There is one object that has no creator. When an
open fails after it has bound its name, it removes the name again, and goes
on if that fails too; the object stays, and all who find it under the name
have joined what nobody made (`left_by_failed_open`).
-/

namespace TwinRing

namespace Store

variable {s s' : Store} {given : String} {name : SegmentName} {size : UInt64} {h : Handle}

theorem openNamed_eq (hname : SegmentName.ofString given = .ok name) :
    s.openNamed given size = s.openSegment name size := by
  rw [openNamed, hname]

theorem objects_eq_of_object (hsize : s'.objects.size = s.objects.size)
    (hobjects : ∀ n < s.objects.size, s'.object n = s.object n) : s'.objects = s.objects := by
  refine Array.ext hsize fun n hn' hn => ?_
  have hobject := hobjects n hn
  rw [object, object, Array.getD_eq_getD_getElem?, Array.getD_eq_getD_getElem?,
    Array.getElem?_eq_getElem hn', Array.getElem?_eq_getElem hn] at hobject
  exact hobject

/-- **Who joins an object leaves all bytes as they are.** -/
theorem Granted.joins (hg : Granted s name size h s') (hjoiner : h.creator = false) :
    s.lookup name = some h.object ∧ s'.objects = s.objects := by
  have hjoined := hg.held.holding.joined hjoiner
  exact ⟨hjoined.bound, objects_eq_of_object hjoined.size hg.held.holding.objects⟩

end Store

namespace Commons

open Store

variable {c : Commons} {s s' : Store} {r : List Mark} {n : Nat} {h k : Handle} {rest : List Handle}
variable {name : SegmentName} {size : UInt64} {result : Except SegmentError Handle}

/-! ## The handles on an object -/

/-- **All handles that were ever returned on an object**, the oldest
first. -/
def grantsOn (n : Nat) (record : List Mark) : List Handle :=
  record.filterMap fun
    | .granted h => if h.object = n then some h else none
    | .left _ _ => none
    | .removed _ => none

theorem mem_grantsOn : k ∈ grantsOn n r ↔ Mark.granted k ∈ r ∧ k.object = n := by
  rw [grantsOn, List.mem_filterMap]
  constructor
  · rintro ⟨⟨h⟩ | ⟨⟩ | ⟨⟩, hm, hk⟩
    · by_cases hobject : h.object = n
      · obtain rfl : h = k := by simpa only [if_pos hobject, Option.some.injEq] using hk
        exact ⟨hm, hobject⟩
      · simp only [if_neg hobject, reduceCtorEq] at hk
    · cases hk
    · cases hk
  · rintro ⟨hk, hobject⟩
    exact ⟨_, hk, if_pos hobject⟩

/-- The first of them was returned when there was none, and the others were
returned later. -/
theorem grantsOn_eq_cons (hr : grantsOn n r = h :: rest) : ∃ earlier later,
    r = earlier ++ Mark.granted h :: later ∧ h.object = n ∧
      (∀ k, Mark.granted k ∈ earlier → k.object ≠ n) ∧ rest = grantsOn n later := by
  obtain ⟨earlier, m, later, rfl, hnone, hm, hrest⟩ := List.filterMap_eq_cons_iff.1 hr
  have hnobody : ∀ k, Mark.granted k ∈ earlier → k.object ≠ n := fun k hk hobject => by
    have hout := hnone _ hk
    simp only [if_pos hobject, reduceCtorEq] at hout
  cases m with
  | granted h' =>
    by_cases hobject : h'.object = n
    · obtain rfl : h' = h := by simpa only [if_pos hobject, Option.some.injEq] using hm
      exact ⟨earlier, later, rfl, hobject, hnobody, hrest.symm⟩
    · simp only [if_neg hobject, reduceCtorEq] at hm
  | left other m => cases hm
  | removed other => cases hm

/-- **The first is the creator**, unless the object was left by a failed
open, **and no other is.** -/
theorem Ledger.creator_of_grantsOn (hl : Ledger s r) (hr : grantsOn n r = h :: rest) :
    (h.creator = true ↔ Mark.left h.name n ∉ r) ∧ ∀ k ∈ rest, k.creator = false := by
  obtain ⟨earlier, later, hsplit, rfl, hnobody, rfl⟩ := grantsOn_eq_cons hr
  obtain ⟨hentered, hstanding⟩ := hl.entries earlier h later hsplit
  have hleft : Mark.left h.name h.object ∉ r ↔ Mark.left h.name h.object ∉ earlier := by
    simp only [hsplit, List.mem_append, List.mem_cons, reduceCtorEq, hstanding.unleft, or_false]
  refine ⟨?_, fun k hk => ?_⟩
  · rw [hentered.creator_iff, hleft]
    exact and_iff_left hnobody
  · obtain ⟨hgranted, hobject⟩ := mem_grantsOn.1 hk
    obtain ⟨between, last, rfl⟩ := List.append_of_mem hgranted
    have hlate : r = (earlier ++ Mark.granted h :: between) ++ Mark.granted k :: last := by
      rw [hsplit, List.append_assoc, List.cons_append]
    have hbefore : Mark.granted h ∈ earlier ++ Mark.granted h :: between :=
      List.mem_append_right _ (List.mem_cons_self ..)
    cases hcreator : k.creator with
    | false => rfl
    | true =>
      have hfirst := ((hl.entries _ k last hlate).1.creator_iff.1 hcreator).2
      exact absurd hobject.symm (hfirst h hbefore)

/-! ## Sizes -/

theorem grown_of_stride {x y : Store × List Mark} (h : Stride x y) : Grown x.1 y.1 := by
  cases h with
  | steady hs => exact hs.toGrown
  | granted hg => exact .of_kept hg.held.kept
  | left hobjects hcreated =>
    exact ⟨by rw [hcreated.size]; exact Nat.le_succ _,
      fun n hn => congrArg Object.size (hobjects n hn)⟩
  | removed hr => exact .of_eq hr.objects

/-- **No stride changes a size**, and so no strides do. -/
theorem grown_of_strides {x y : Store × List Mark} (h : Strides x y) : Grown x.1 y.1 := by
  induction h with
  | refl => exact .refl
  | tail _ hstride ih => exact ih.trans (grown_of_stride hstride)

theorem strides_run (c : Commons) (dealings : List Dealing) :
    Strides (c.store, c.record) ((c.run dealings).store, (c.run dealings).record) :=
  run_induction (P := fun c' => Strides (c.store, c.record) (c'.store, c'.record)) dealings .refl
    fun c' d h => h.trans (strides_after c' d)

/-! ## Opens -/

/-- **An open that somebody comes to make**: the store that it finds, the
name and the size that it asks for, what it comes to and the store that it
leaves. The first open of a channel is one of a ring, and the second finds
what that has left. -/
inductive Attempt (c : Commons) :
    Store → SegmentName → UInt64 → Except SegmentError Handle → Store → Prop
  | segment {given : String} {name : SegmentName} {size : UInt64}
      (hname : SegmentName.ofString given = .ok name) :
      Attempt c c.store name size (c.store.openNamed given size).1 (c.store.openNamed given size).2
  | ring {given : String} {g : Geometry} {name : SegmentName} {size : UInt64}
      (hname : SegmentName.ofString given = .ok name) (hsize : g.segmentSize = .ok size) :
      Attempt c c.store name size ((c.store.openRing given g).1.map View.handle)
        (c.store.openRing given g).2
  | outbound {config : Config} {inView : View} {s : Store} {name : SegmentName} {size : UInt64}
      (hin : c.store.openRing config.inName config.inGeometry = (.ok inView, s))
      (hname : SegmentName.ofString config.outName = .ok name)
      (hsize : config.outGeometry.segmentSize = .ok size) :
      Attempt c s name size ((s.openRing config.outName config.outGeometry).1.map View.handle)
        (s.openRing config.outName config.outGeometry).2

/-- What a ring's open returns, by its handle. -/
theorem granted_of_map {given : String} {g : Geometry}
    (hname : SegmentName.ofString given = .ok name) (hsize : g.segmentSize = .ok size)
    (hok : (s.openRing given g).1.map View.handle = .ok h) :
    Granted s name size h (s.openRing given g).2 ∧
      (h.creator = true → Ring.Blank ((s.openRing given g).2.object h.object)) := by
  rcases hopen : s.openRing given g with ⟨e | v, s'⟩ <;> rw [hopen] at hok <;> cases hok
  have hg := ringGranted_of_openRing hopen
  obtain rfl := Except.ok.inj (hg.name.symm.trans hname)
  obtain rfl := Except.ok.inj (hg.segmentSize.symm.trans hsize)
  exact ⟨hg.granted, hg.blank⟩

/-- **What is known of an open that somebody comes to make.** -/
theorem Attempt.granted (ha : c.Attempt s name size (.ok h) s') :
    Granted s name size h s' ∧ (h.creator = true → Ring.Blank (s'.object h.object)) := by
  generalize hresult : (Except.ok h : Except SegmentError Handle) = result at ha
  cases ha with
  | @segment given _ _ hname =>
    rw [openNamed_eq hname] at hresult ⊢
    obtain ⟨hg, hcells⟩ := granted_of_openSegment (Prod.ext hresult.symm rfl)
    exact ⟨hg, fun hcreator => Ring.blank_of_cells (hcells hcreator)⟩
  | ring hname hsize => exact granted_of_map hname hsize hresult.symm
  | outbound hin hname hsize => exact granted_of_map hname hsize hresult.symm

/-- Whoever comes to make an open finds a store with a record, and all the
objects that were there. -/
theorem Attempt.strides (ha : c.Attempt s name size result s') :
    ∃ r, Strides (c.store, c.record) (s, r) := by
  cases ha with
  | segment hname => exact ⟨_, .refl⟩
  | ring hname hsize => exact ⟨_, .refl⟩
  | @outbound config _ _ _ _ hin hname hsize =>
    have hopens := (opens_openRing config.inName config.inGeometry c.store).strides (r := c.record)
    rw [hin] at hopens
    exact ⟨_, hopens⟩

/-- **An open fails for a size that is too small, and for no other.** -/
theorem Attempt.sizeMismatch_iff (ha : c.Attempt s name size result s') (hm : s.Measurable)
    (hremovable : name.removeRefusal? = none) (hbound : s.lookup name = some n) {text : String}
    {expected actual : Nat} :
    result = .error (.sizeMismatch text expected actual) ↔
      (text = name.full ∧ expected = size.toNat ∧ actual = (s.object n).size) ∧
        (s.object n).size < size.toNat := by
  have mapped : ∀ opened : Except SegmentError View,
      opened.map View.handle = .error (.sizeMismatch text expected actual) ↔
        opened = .error (.sizeMismatch text expected actual) := fun opened => by
    cases opened with
    | ok v => exact ⟨fun heq => (by cases heq), fun heq => (by cases heq)⟩
    | error e =>
      exact ⟨fun heq => congrArg Except.error (Except.error.inj heq),
        fun heq => congrArg Except.error (Except.error.inj heq)⟩
  cases ha with
  | segment hname =>
    rw [openNamed_eq hname]
    exact openSegment_sizeMismatch_iff hm hremovable hbound
  | ring hname hsize =>
    rw [mapped]
    exact openRing_sizeMismatch_iff hm hremovable hbound hname hsize
  | outbound hin hname hsize =>
    rw [mapped]
    exact openRing_sizeMismatch_iff hm hremovable hbound hname hsize

/-! ## After any dealings -/

/-- **Who made what is there, and that it is not made again.** -/
structure Founded (c : Commons) : Prop where
  /-- Of all the handles ever returned on an object the first is its
  creator's, unless a failed open had left the object, and no other is. -/
  first : ∀ n h rest, grantsOn n c.record = h :: rest →
    (h.creator = true ↔ Mark.left h.name n ∉ c.record) ∧ ∀ k ∈ rest, k.creator = false
  /-- Whatever is done next, no object changes its size. -/
  stable : ∀ dealings, ∀ n < c.store.objects.size,
    ((c.run dealings).store.object n).size = (c.store.object n).size
  /-- An object is as large as its creator has asked for. -/
  exact : ∀ h, Mark.granted h ∈ c.record → h.creator = true →
    (c.store.object h.object).size = h.size.toNat
  /-- Every handle that is held maps bytes that are there. -/
  fits : ∀ h ∈ c.handles, h.size.toNat ≤ (c.store.object h.object).size
  /-- An open that succeeds and is no creator's changes no byte. -/
  joins : ∀ s name size h s', c.Attempt s name size (.ok h) s' → h.creator = false →
    s.lookup name = some h.object ∧ s'.objects = s.objects
  /-- A ring that is joined is called on as it was before: all that was
  unread can be read through the new view. -/
  answers : ∀ given g v s', c.store.openRing given g = (.ok v, s') → v.handle.creator = false →
    ∀ call, (v.perform call s').1 = (Ring.perform g call (c.store.object v.handle.object)).1
  /-- An open of what is there fails for its size exactly if it asks for
  more bytes than that has. -/
  mismatch : ∀ s name size result s' n, c.Attempt s name size result s' → s.Measurable →
    s.lookup name = some n → ∀ text expected actual,
      result = .error (.sizeMismatch text expected actual) ↔
        (text = name.full ∧ expected = size.toNat ∧ actual = (s.object n).size) ∧
          (s.object n).size < size.toNat

theorem Ledger.answers (hl : Ledger c.store c.record) {given : String} {g : Geometry} {v : View}
    (hopen : c.store.openRing given g = (.ok v, s')) (hjoiner : v.handle.creator = false)
    (call : RingCall) :
    (v.perform call s').1 = (Ring.perform g call (c.store.object v.handle.object)).1 := by
  have hg := ringGranted_of_openRing hopen
  obtain ⟨hbound, hobjects⟩ := hg.granted.joins hjoiner
  have live : v.handle.object < s'.objects.size := by
    rw [hobjects]
    exact hl.registered.live _ _ hbound
  have hobject : s'.object v.handle.object = c.store.object v.handle.object :=
    congrArg (·.getD v.handle.object {}) hobjects
  rw [(View.perform_eq_of_live live call).1, hobject, hg.geometry]

/-- **One creator for each object, none is made again, and none changes its
size**, whatever is opened, used, given up, destroyed and removed, and
whatever fails on the way. Objects that a failed open has left have no
creator; all the rest is true of them as well. -/
theorem founded_run (dealings : List Dealing) : (({} : Commons).run dealings).Founded := by
  have hl := ledger_run dealings
  have hrecorded := recorded_run dealings
  have hentry : ∀ h, Mark.granted h ∈ (({} : Commons).run dealings).record →
      ∃ later, Standing (({} : Commons).run dealings).store h later := fun h hh => by
    obtain ⟨earlier, later, hr⟩ := List.append_of_mem hh
    exact ⟨later, (hl.entries earlier h later hr).2⟩
  refine
    { first := fun n h rest hr => hl.creator_of_grantsOn hr
      stable := fun more => (grown_of_strides (strides_run _ more)).sizes
      exact := fun h hh hcreator => ?_
      fits := fun h hh => ?_
      joins := fun s name size h s' ha hjoiner => ha.granted.1.joins hjoiner
      answers := fun given g v s' hopen hjoiner call => hl.answers hopen hjoiner call
      mismatch := fun s name size result s' n ha hm hbound text expected actual => ?_ }
  · obtain ⟨later, hstanding⟩ := hentry h hh
    exact hstanding.exact hcreator
  · obtain ⟨later, hstanding⟩ := hentry h (hrecorded h hh)
    exact hstanding.fits
  · obtain ⟨r, hstrides⟩ := ha.strides
    exact ha.sizeMismatch_iff hm ((hl.strides hstrides).registered.removable name n hbound) hbound

/-- Somebody asks for more than can be mapped, and the name that was bound
on the way cannot be removed; somebody else opens it then. -/
def strandedOpen : List Dealing :=
  [.fault ⟨.unlink, 1, ⟨13⟩⟩, .openSegment "/x" 0x800000000000, .openSegment "/x" 16]

/-- **An object that a failed open has left has no creator**: the first
handle that is returned on it is a joiner's. -/
theorem left_by_failed_open : ¬ ∀ dealings n h rest,
    grantsOn n (({} : Commons).run dealings).record = h :: rest →
      h.creator = true ∧ ∀ k ∈ rest, k.creator = false := by
  intro hall
  have hflags : (grantsOn 0 (({} : Commons).run strandedOpen).record).map Handle.creator =
      [false] := by decide +kernel
  rcases hgrants : grantsOn 0 (({} : Commons).run strandedOpen).record with ⟨⟩ | ⟨h, rest⟩ <;>
    rw [hgrants] at hflags
  · cases hflags
  · have hcreator := (hall strandedOpen 0 h rest hgrants).1
    rw [List.map_cons, hcreator] at hflags
    cases hflags

end Commons

end TwinRing
