import TwinRing.Proofs.Segment.Objects
import TwinRing.Proofs.Segment.SystemCalls
/-!
# Opening a segment — what it takes and what it gives back

An open that fails half-way has taken things by then: a descriptor, and,
if it was the first under its name, the name and a new object. `Holding`
says what exactly, for every place between the first system call and the
last, and that nothing else has changed; so giving back just that leaves
the store as it was (`Restored`). What is to be given back differs from
place to place, and `Opening.Tracked` lists it.

A fault may strike any of the calls on the way. The calls of the undoing
itself must go through, which is all that `Cleanable` asks; no other call
uses up a fault that waits for these.
-/

namespace TwinRing

/-- **A fault waits for its own call only**: the use of another neither
brings it on nor puts it off, and it does not matter which comes first. -/
theorem Fault.strike_swap {call other : SystemCall} (h : call ≠ other) (faults : List Fault) :
    (Fault.strike call (Fault.strike other faults).2).1 = (Fault.strike call faults).1 ∧
      (Fault.strike call (Fault.strike other faults).2).2 =
        (Fault.strike other (Fault.strike call faults).2).2 := by
  induction faults with
  | nil => exact ⟨rfl, rfl⟩
  | cons f rest ih =>
    by_cases hother : f.call = other
    · have hcall : f.call ≠ call := fun heq => h (heq.symm.trans hother)
      by_cases hdue : f.nth ≤ 1
      · simp only [Fault.strike, if_pos hother, if_pos hdue, if_neg hcall, and_self]
      · simp only [Fault.strike, if_pos hother, if_neg hdue, if_neg hcall, and_self]
    · by_cases hcall : f.call = call
      · by_cases hdue : f.nth ≤ 1
        · simp only [Fault.strike, if_neg hother, if_pos hcall, if_pos hdue, and_self]
        · simp only [Fault.strike, if_neg hother, if_pos hcall, if_neg hdue, and_self]
      · simp only [Fault.strike, if_neg hother, if_neg hcall, ih, and_self]

theorem Fault.strike_strike {call other : SystemCall} (h : call ≠ other) (faults : List Fault) :
    (Fault.strike call (Fault.strike other faults).2).1 = (Fault.strike call faults).1 :=
  (Fault.strike_swap h faults).1

namespace Store

/-! ## Faults that wait -/

/-- **The next calls of an undoing go through.** -/
structure Cleanable (s : Store) : Prop where
  unmap : (Fault.strike .unmap s.faults).1 = none
  unlink : (Fault.strike .unlink s.faults).1 = none

section Faults

variable (s : Store) (name : SegmentName) (d : Descriptor) (size : UInt64)

theorem strike_eq (call : SystemCall) :
    s.strike call =
      ((Fault.strike call s.faults).1, { s with faults := (Fault.strike call s.faults).2 }) := rfl

theorem faults_createName :
    (s.createName name).2.faults = (Fault.strike .openName s.faults).2 := by
  rw [createName, strike_eq]
  cases (Fault.strike .openName s.faults).1 with
  | some e => rfl
  | none =>
    cases hrefusal : name.createRefusal? with
    | some e => rfl
    | none => dsimp only; split <;> rfl

theorem faults_openName :
    (s.openName name).2.faults = (Fault.strike .openName s.faults).2 := by
  rw [openName, strike_eq]
  cases (Fault.strike .openName s.faults).1 with
  | some e => rfl
  | none =>
    cases hrefusal : name.openRefusal? with
    | some e => rfl
    | none => dsimp only; split <;> rfl

theorem faults_truncate :
    (s.truncate d size).2.faults = (Fault.strike .truncate s.faults).2 := by
  rw [truncate, strike_eq]
  cases (Fault.strike .truncate s.faults).1 with
  | some e => rfl
  | none => dsimp only; split <;> rfl

theorem faults_measure : (s.measure d).2.faults = (Fault.strike .measure s.faults).2 := by
  rw [measure, strike_eq]
  cases (Fault.strike .measure s.faults).1 <;> rfl

theorem faults_map : (s.map d size).2.faults = (Fault.strike .map s.faults).2 := by
  rw [map, strike_eq]
  cases (Fault.strike .map s.faults).1 with
  | some e => rfl
  | none =>
    dsimp only
    split
    · rfl
    · split <;> rfl

theorem faults_perform (call : SystemCall) :
    (s.perform call).2.faults = (Fault.strike call s.faults).2 := by
  rw [perform, strike_eq]
  cases (Fault.strike call s.faults).1 with
  | none => rfl
  | some e => dsimp only; split <;> rfl

end Faults

/-! ## The calls of an undoing -/

section Undoing

variable {s : Store} {name : SegmentName} {n : Nat}

theorem createRefusal?_of_createName {d : Descriptor} {s' : Store}
    (h : s.createName name = (.ok d, s')) : name.createRefusal? = none := by
  rw [createName, strike_eq] at h
  cases hstruck : (Fault.strike .openName s.faults).1 with
  | some e => rw [hstruck] at h; cases h
  | none =>
    rw [hstruck] at h
    cases hrefusal : name.createRefusal? with
    | some e => rw [hrefusal] at h; cases h
    | none => rfl

/-- **A name is removed** if it may be, is bound, and no fault strikes. -/
theorem removeName_eq (hunlink : (Fault.strike .unlink s.faults).1 = none)
    (hremovable : name.removeRefusal? = none) (hbound : s.lookup name = some n) :
    s.removeName name = (.ok (),
      { s with
        faults := (Fault.strike .unlink s.faults).2
        names := s.names.filter fun b => b.1 ≠ name }) := by
  have hlookup :
      ({ s with faults := (Fault.strike .unlink s.faults).2 } : Store).lookup name = some n :=
    hbound
  rw [removeName, strike_eq, hunlink]
  dsimp only
  rw [hremovable]
  dsimp only
  rw [hlookup]

/-- **A mapping is given back** if no fault strikes. -/
theorem unmap_eq (hunmap : (Fault.strike .unmap s.faults).1 = none) :
    s.unmap n = (.ok (),
      { s with
        faults := (Fault.strike .unmap s.faults).2
        mappings := s.mappings.erase n }) := by
  rw [unmap, strike_eq, hunmap]

theorem close_eq (hopen : n ∈ s.descriptors) :
    s.close n = (.ok (), { s with descriptors := s.descriptors.erase n }) := if_pos hopen

end Undoing

/-! ## Stores that differ in what is taken -/

variable {s₀ s s' : Store} {name : SegmentName} {d : Descriptor} {creator : Bool}

/-- **Names, objects, descriptors and mappings are as before.** An object
that nothing leads to any more may have been added. -/
structure Restored (s₀ s : Store) : Prop where
  names : s.names = s₀.names
  /-- The objects that were there have the bytes and sizes they had. -/
  objects : ∀ n < s₀.objects.size, s.object n = s₀.object n
  descriptors : s.descriptors = s₀.descriptors
  mappings : s.mappings = s₀.mappings

/-- **Nothing has happened but faults and reports.** -/
structure Untouched (s₀ s : Store) : Prop where
  names : s.names = s₀.names
  objects : s.objects = s₀.objects
  descriptors : s.descriptors = s₀.descriptors
  mappings : s.mappings = s₀.mappings
  /-- No fault of the undoing was used up. -/
  cleanable : s₀.Cleanable → s.Cleanable

theorem Untouched.refl : Untouched s s := ⟨rfl, rfl, rfl, rfl, id⟩

theorem Untouched.trans (h : Untouched s₀ s) (h' : Untouched s s') : Untouched s₀ s' :=
  ⟨h'.names.trans h.names, h'.objects.trans h.objects, h'.descriptors.trans h.descriptors,
    h'.mappings.trans h.mappings, fun hc => h'.cleanable (h.cleanable hc)⟩

theorem Untouched.object (h : Untouched s₀ s) (n : Nat) : s.object n = s₀.object n :=
  congrArg (·.getD n {}) h.objects

theorem Untouched.restored (h : Untouched s₀ s) : Restored s₀ s :=
  ⟨h.names, fun n _ => h.object n, h.descriptors, h.mappings⟩

theorem Cleanable.struck {call : SystemCall} (h : s.Cleanable)
    (hfaults : s'.faults = (Fault.strike call s.faults).2)
    (hother : call ≠ .unmap ∧ call ≠ .unlink) : s'.Cleanable := by
  refine ⟨?_, ?_⟩
  · rw [hfaults, Fault.strike_strike hother.1.symm]
    exact h.unmap
  · rw [hfaults, Fault.strike_strike hother.2.symm]
    exact h.unlink

/-- **A call that comes to nothing changes no more than the faults.** -/
theorem untouched_of_struck {call : SystemCall} {faults : List Fault}
    (hfaults : faults = (Fault.strike call s.faults).2)
    (hother : call ≠ .unmap ∧ call ≠ .unlink) : Untouched s { s with faults } :=
  ⟨rfl, rfl, rfl, rfl, fun h => h.struck hfaults hother⟩

/-- **A name was free, and stands for a new object now.** -/
structure Created (s₀ : Store) (name : SegmentName) (number : Nat) (s : Store) : Prop where
  free : s₀.lookup name = none
  removable : name.removeRefusal? = none
  number_eq : number = s₀.objects.size
  names : s.names = (name, number) :: s₀.names
  size : s.objects.size = s₀.objects.size + 1

/-- **The names without the new one are the names of before.** -/
theorem Created.filter_names {number : Nat} (h : Created s₀ name number s)
    (hnames : s'.names = (name, number) :: s₀.names) :
    s'.names.filter (fun b => b.1 ≠ name) = s₀.names := by
  rw [hnames, List.filter_cons_of_neg (by simp)]
  -- no other binding was of this name, for it was free
  refine List.filter_eq_self.2 fun b hb => decide_eq_true fun hsame => ?_
  have hnone := List.lookup_eq_none_iff.1 h.free b hb
  rw [hsame] at hnone
  simp at hnone

/-- **To remove the new name is to have the names as before.** -/
theorem Created.removeName_eq {number : Nat} (h : Created s₀ name number s)
    (hnames : s'.names = (name, number) :: s₀.names)
    (hunlink : (Fault.strike .unlink s'.faults).1 = none) :
    s'.removeName name = (.ok (),
      { s' with faults := (Fault.strike .unlink s'.faults).2, names := s₀.names }) := by
  have hbound : s'.lookup name = some number := by
    rw [lookup, hnames]
    exact List.lookup_cons_self
  rw [Store.removeName_eq hunlink h.removable hbound, h.filter_names hnames]

/-- **A name was bound, and stands for its object still.** -/
structure Joined (s₀ : Store) (name : SegmentName) (number : Nat) (s : Store) : Prop where
  bound : s₀.lookup name = some number
  names : s.names = s₀.names
  size : s.objects.size = s₀.objects.size

/-- **What an open has taken** that has a descriptor: the descriptor, and
the name and a new object if it is the creator. -/
structure Holding (s₀ : Store) (name : SegmentName) (d : Descriptor) (creator : Bool)
    (s : Store) : Prop where
  descriptors : s.descriptors = d.number :: s₀.descriptors
  /-- The objects that were there are as they were. -/
  objects : ∀ n < s₀.objects.size, s.object n = s₀.object n
  created : creator = true → Created s₀ name d.object s
  joined : creator = false → Joined s₀ name d.object s
  cleanable : s₀.Cleanable → s.Cleanable

namespace Holding

/-- **A new name is taken with all that goes with it.** -/
theorem of_createName (hs : Untouched s₀ s) (h : s.createName name = (.ok d, s')) :
    Holding s₀ name d true s' ∧ s'.mappings = s₀.mappings ∧ (s'.object d.object).cells = #[] := by
  have hremovable := SegmentName.removeRefusal?_eq_none_iff.2 (createRefusal?_of_createName h)
  have hfaults : s'.faults = (Fault.strike .openName s.faults).2 := by
    rw [← faults_createName s name, h]
  obtain ⟨faults, ⟨e, herror⟩ | ⟨hfree, hok⟩⟩ := s.createName_cases name
  · rw [herror] at h; cases h
  rw [hok] at h
  cases h
  have hobjects := hs.objects
  have hnew : (s.objects.push {}).size = s₀.objects.size + 1 := by
    rw [Array.size_push, hobjects]
  refine ⟨⟨congrArg (_ :: ·) hs.descriptors, fun n hn => ?_, fun _ => ?_, Bool.noConfusion,
    fun hc => (hs.cleanable hc).struck hfaults ⟨by decide, by decide⟩⟩, hs.mappings, ?_⟩
  · change (s.objects.push {}).getD n {} = s₀.objects.getD n {}
    rw [Array.getD_eq_getD_getElem?, Array.getD_eq_getD_getElem?, hobjects,
      Array.getElem?_push_lt hn, Array.getElem?_eq_getElem hn]
  · refine ⟨?_, hremovable, congrArg Array.size hobjects, congrArg (_ :: ·) hs.names, hnew⟩
    rw [← hfree, lookup, lookup, hs.names]
  · change ((s.objects.push {}).getD s.objects.size {}).cells = #[]
    rw [Array.getD_eq_getD_getElem?, Array.getElem?_push_size]
    rfl

/-- **A bound name is opened.** -/
theorem of_openName (hs : Untouched s₀ s) (h : s.openName name = (.ok d, s')) :
    Holding s₀ name d false s' ∧ s'.mappings = s₀.mappings := by
  have hfaults : s'.faults = (Fault.strike .openName s.faults).2 := by
    rw [← faults_openName s name, h]
  obtain ⟨faults, ⟨e, herror⟩ | ⟨n, hbound, hok⟩⟩ := s.openName_cases name
  · rw [herror] at h; cases h
  rw [hok] at h
  cases h
  refine ⟨⟨congrArg (_ :: ·) hs.descriptors, fun n _ => hs.object n, Bool.noConfusion,
    fun _ => ?_, fun hc => (hs.cleanable hc).struck hfaults ⟨by decide, by decide⟩⟩, hs.mappings⟩
  refine ⟨?_, hs.names, congrArg Array.size hs.objects⟩
  rw [← hbound, lookup, lookup, hs.names]

variable (h : Holding s₀ name d creator s)
include h

/-- What touches nothing that was taken leaves it taken. -/
theorem next (hnames : s'.names = s.names) (hobjects : s'.objects = s.objects)
    (hdescriptors : s'.descriptors = s.descriptors) (hclean : s.Cleanable → s'.Cleanable) :
    Holding s₀ name d creator s' := by
  have hobject : ∀ n, s'.object n = s.object n := fun n => congrArg (·.getD n {}) hobjects
  have hsize := congrArg Array.size hobjects
  refine ⟨hdescriptors.trans h.descriptors, fun n hn => (hobject n).trans (h.objects n hn),
    fun hcreator => ?_, fun hjoined => ?_, fun hc => hclean (h.cleanable hc)⟩
  · have hc := h.created hcreator
    exact ⟨hc.free, hc.removable, hc.number_eq, hnames.trans hc.names, hsize.trans hc.size⟩
  · have hj := h.joined hjoined
    exact ⟨hj.bound, hnames.trans hj.names, hsize.trans hj.size⟩

theorem untouched (hs : Untouched s s') : Holding s₀ name d creator s' :=
  h.next hs.names hs.objects hs.descriptors hs.cleanable

/-- The new object may be changed: no object that was there is. -/
theorem modify (hcreator : creator = true) (change : Object → Object) :
    Holding s₀ name d creator (s.modifyObject d.object change) := by
  have hc := h.created hcreator
  refine ⟨h.descriptors, fun n hn => ?_, fun _ => ?_, fun hjoined => ?_,
    fun hclean => ⟨(h.cleanable hclean).unmap, (h.cleanable hclean).unlink⟩⟩
  · rw [object_modifyObject_of_ne (by rw [hc.number_eq]; omega)]
    exact h.objects n hn
  · exact ⟨hc.free, hc.removable, hc.number_eq, hc.names, size_modifyObject.trans hc.size⟩
  · rw [hcreator] at hjoined
    cases hjoined

/-- The new object is there. -/
theorem live (hcreator : creator = true) : d.object < s.objects.size := by
  have hc := h.created hcreator
  rw [hc.size, hc.number_eq]
  exact Nat.lt_succ_self _

/-- **An open that gives up before it has a mapping leaves nothing.** -/
theorem restored_abandon (hmappings : s.mappings = s₀.mappings) (hc : s.Cleanable) :
    Restored s₀ (Opening.abandon name d creator s) := by
  have hopen : d.number ∈ s.descriptors := by
    rw [h.descriptors]
    exact List.mem_cons_self ..
  have hclosed : s.descriptors.erase d.number = s₀.descriptors := by
    rw [h.descriptors]
    exact List.erase_cons_head ..
  unfold Opening.abandon
  rw [close_eq hopen]
  cases hcreator : creator with
  | false =>
    rw [hcreator] at h
    exact ⟨(h.joined rfl).names, h.objects, hclosed, hmappings⟩
  | true =>
    rw [hcreator] at h
    have hc' := h.created rfl
    simp only [if_true]
    rw [hc'.removeName_eq (by exact hc'.names) (by exact hc.unlink)]
    exact ⟨rfl, h.objects, hclosed, hmappings⟩

end Holding

/-- **What an open has taken that has succeeded**: what it held before,
and the mapping. -/
structure Held (s₀ : Store) (name : SegmentName) (h : Handle) (s : Store) : Prop where
  name_eq : h.name = name
  holding : Holding s₀ name ⟨h.descriptor, h.object⟩ h.creator s
  mappings : s.mappings = h.object :: s₀.mappings

end Store

/-! ## The steps of an open -/

/-- Whether the request itself is refused, before anything is done. -/
def SegmentError.isRefusal : SegmentError → Bool
  | .invalidName _ => true
  | .invalidGeometry _ => true
  | .openFailed _ _ => false
  | .mapFailed _ _ => false
  | .sizeMismatch _ _ _ => false
  | .lockFailed _ => false
  | .unlinkFailed _ _ => false

namespace Opening

open Store

variable {s₀ s : Store} {name : SegmentName} {size : UInt64}

/-- **What an open has taken at each place**, and that it has given all
back where it has failed. A new object has no bytes yet. -/
def Tracked (s₀ : Store) (name : SegmentName) : Opening → Store → Prop
  | .creating, s => Untouched s₀ s
  | .joining, s => Untouched s₀ s
  | .sizing d, s =>
    Holding s₀ name d true s ∧ s.mappings = s₀.mappings ∧ (s.object d.object).cells = #[]
  | .measuring d, s => Holding s₀ name d false s ∧ s.mappings = s₀.mappings
  | .mapping d creator, s =>
    Holding s₀ name d creator s ∧ s.mappings = s₀.mappings ∧
      (creator = true → (s.object d.object).cells = #[])
  | .opened h, s =>
    Held s₀ name h s ∧ (h.creator = true → (s.object h.object).cells = #[])
  | .failed cause, s => cause.isRefusal = false ∧ (s₀.Cleanable → Restored s₀ s)

/-- An open that gives up where it holds so much. -/
theorem tracked_failed {d : Descriptor} {creator : Bool} {cause : SegmentError} {s' : Store}
    (h : Holding s₀ name d creator s) (hmappings : s.mappings = s₀.mappings)
    (hs : Untouched s s') (hcause : cause.isRefusal = false) :
    (Opening.failed cause).Tracked s₀ name (abandon name d creator s') := by
  refine ⟨hcause, fun hc => ?_⟩
  have h' := h.untouched hs
  exact h'.restored_abandon (hs.mappings.trans hmappings) (h'.cleanable hc)

/-- **Every step takes what its place says, or gives all back.** -/
theorem Tracked.step (o : Opening) (h : o.Tracked s₀ name s) :
    (o.step name size s).1.Tracked s₀ name (o.step name size s).2 := by
  cases o with
  | creating =>
    have hfaults := s.faults_createName name
    rw [Opening.step]
    rcases hcreate : s.createName name with ⟨e | d, s'⟩
    · rw [hcreate] at hfaults
      obtain ⟨faults, ⟨e', herror⟩ | ⟨-, hok⟩⟩ := s.createName_cases name
      · rw [hcreate] at herror
        cases herror
        have hs : Untouched s₀ { s with faults } :=
          h.trans (untouched_of_struck hfaults ⟨by decide, by decide⟩)
        dsimp only
        split
        · exact hs
        · exact ⟨rfl, fun _ => hs.restored⟩
      · rw [hcreate] at hok
        cases hok
    · exact Holding.of_createName h hcreate
  | joining =>
    have hfaults := s.faults_openName name
    rw [Opening.step]
    rcases hopen : s.openName name with ⟨e | d, s'⟩
    · rw [hopen] at hfaults
      obtain ⟨faults, ⟨e', herror⟩ | ⟨n, -, hok⟩⟩ := s.openName_cases name
      · rw [hopen] at herror
        cases herror
        exact ⟨rfl, fun _ =>
          (h.trans (untouched_of_struck hfaults ⟨by decide, by decide⟩)).restored⟩
      · rw [hopen] at hok
        cases hok
    · exact Holding.of_openName h hopen
  | sizing d =>
    obtain ⟨hholding, hmappings, hcells⟩ := h
    have hfaults := s.faults_truncate d size
    obtain ⟨faults, ⟨e, htruncate⟩ | ⟨-, htruncate⟩⟩ := s.truncate_cases d size <;>
      rw [Opening.step, htruncate] <;> rw [htruncate] at hfaults
    · exact tracked_failed hholding hmappings
        (untouched_of_struck hfaults ⟨by decide, by decide⟩) rfl
    · have hs : Untouched s { s with faults } :=
        untouched_of_struck hfaults ⟨by decide, by decide⟩
      have hsized : ∀ change, (({ s with faults } : Store).modifyObject d.object change).object
          d.object = change (s.object d.object) := fun change =>
        object_modifyObject_self (hholding.live rfl)
      exact ⟨(hholding.untouched hs).modify rfl _, hmappings,
        fun _ => (congrArg Object.cells (hsized _)).trans hcells⟩
  | measuring d =>
    obtain ⟨hholding, hmappings⟩ := h
    have hfaults := s.faults_measure d
    obtain ⟨faults, ⟨e, hmeasure⟩ | hmeasure⟩ := s.measure_cases d <;>
      rw [Opening.step, hmeasure] <;> rw [hmeasure] at hfaults
    · exact tracked_failed hholding hmappings
        (untouched_of_struck hfaults ⟨by decide, by decide⟩) rfl
    · have hs : Untouched s { s with faults } :=
        untouched_of_struck hfaults ⟨by decide, by decide⟩
      dsimp only
      split
      · exact tracked_failed hholding hmappings hs rfl
      · exact ⟨hholding.untouched hs, hmappings, Bool.noConfusion⟩
  | mapping d creator =>
    obtain ⟨hholding, hmappings, hcells⟩ := h
    have hfaults := s.faults_map d size
    obtain ⟨faults, ⟨e, hmap⟩ | ⟨-, -, hmap⟩⟩ := s.map_cases d size <;>
      rw [Opening.step, hmap] <;> rw [hmap] at hfaults
    · exact tracked_failed hholding hmappings
        (untouched_of_struck hfaults ⟨by decide, by decide⟩) rfl
    · refine ⟨⟨rfl, hholding.next rfl rfl rfl fun hc => ?_, congrArg (_ :: ·) hmappings⟩, hcells⟩
      exact hc.struck hfaults ⟨by decide, by decide⟩
  | opened k => exact h
  | failed cause => exact h

/-- The place where an open is that has come to its end. -/
def ended : Except SegmentError Handle → Opening
  | .ok h => .opened h
  | .error cause => .failed cause

/-- **What every step keeps holds at the end.** -/
theorem run_induction {P : Opening → Store → Prop} {o : Opening} (init : P o s)
    (step : ∀ o s, P o s → P (o.step name size s).1 (o.step name size s).2) :
    P (ended (o.run name size s).1) (o.run name size s).2 := by
  fun_induction run name size o s with
  | case1 s h => exact init
  | case2 s cause => exact init
  | case3 s ih => exact ih (step _ _ init)
  | case4 s ih => exact ih (step _ _ init)
  | case5 s d ih => exact ih (step _ _ init)
  | case6 s d ih => exact ih (step _ _ init)
  | case7 s d creator ih => exact ih (step _ _ init)

theorem tracked_run (name : SegmentName) (size : UInt64) (s : Store) :
    (ended (s.openSegment name size).1).Tracked s name (s.openSegment name size).2 :=
  run_induction (P := fun o s' => o.Tracked s name s') Untouched.refl fun o _ h => h.step o

end Opening

end TwinRing
