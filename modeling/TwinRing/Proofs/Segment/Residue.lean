import TwinRing.Proofs.Segment.Undoing
/-!
# Opening a segment — what stays of it

`Restored` says that a failed open leaves nothing, but only if the calls of
its undoing go through. Here the undoing may fail too. What stays then is
the name, bound to an object that nobody holds, and this is all that can
stay: `Kept` has it for every place of an open and every fault.

The other half is for the open that succeeds. Besides what it holds, it is
known how large its object is, and a creator knows it to be exactly as
large as it asked for: `Granted`.
-/

namespace TwinRing

/-! ## Faults that do not strike soon -/

namespace Fault

variable {call other : SystemCall} {faults : List Fault} {n : Nat}

/-- **The next so many uses of a call go through.** -/
def Spares (call : SystemCall) : Nat → List Fault → Prop
  | 0, _ => True
  | n + 1, faults => (strike call faults).1 = none ∧ Spares call n (strike call faults).2

theorem spares_strike_iff (h : call ≠ other) :
    Spares call n (strike other faults).2 ↔ Spares call n faults := by
  induction n generalizing faults with
  | zero => exact Iff.rfl
  | succ n ih => rw [Spares, Spares, (strike_swap h faults).1, (strike_swap h faults).2, ih]

/-- A use fewer goes through as well. -/
theorem Spares.pred (h : Spares call (n + 1) faults) : Spares call n faults := by
  induction n generalizing faults with
  | zero => trivial
  | succ n ih => exact ⟨h.1, ih h.2⟩

end Fault

open Fault (Spares)

namespace Store

variable {s₀ s s' : Store} {name : SegmentName} {call other : SystemCall} {n : Nat}

theorem spares_of_struck (h : call ≠ other)
    (hfaults : s'.faults = (Fault.strike other s.faults).2) :
    Spares call n s'.faults ↔ Spares call n s.faults := by
  rw [hfaults, Fault.spares_strike_iff h]

theorem faults_removeName (s : Store) (name : SegmentName) :
    (s.removeName name).2.faults = (Fault.strike .unlink s.faults).2 := by
  rw [removeName, strike_eq]
  cases (Fault.strike .unlink s.faults).1 with
  | some e => rfl
  | none =>
    cases hrefusal : name.removeRefusal? with
    | some e => rfl
    | none => dsimp only; split <;> rfl

/-! ## What is given up -/

/-- **To close a descriptor is to have one fewer**, and nothing else. -/
theorem close_snd (s : Store) (number : Nat) :
    (s.close number).2 = { s with descriptors := s.descriptors.erase number } := by
  by_cases hopen : number ∈ s.descriptors
  · rw [close_eq hopen]
  · rw [close, if_neg hopen, List.erase_of_not_mem hopen]

end Store

namespace Handle

variable (h : Handle) (s : Store)

/-- **To drop a handle** is to give back its descriptor, and its mapping
unless that fails; what fails is reported. -/
theorem drop_eq : ∃ mappings journal,
    h.drop s =
        { s with
          faults := (Fault.strike .unmap s.faults).2
          descriptors := s.descriptors.erase h.descriptor
          mappings, journal } ∧
      ((Fault.strike .unmap s.faults).1 = none → mappings = s.mappings.erase h.object) := by
  have hclose : ∀ t : Store, ∃ result, t.close h.descriptor =
      (result, { t with descriptors := t.descriptors.erase h.descriptor }) := fun t =>
    ⟨_, Prod.ext rfl (t.close_snd h.descriptor)⟩
  rw [drop, Store.unmap, Store.strike_eq]
  cases (Fault.strike .unmap s.faults).1 with
  | none =>
    dsimp only
    obtain ⟨⟨e⟩ | ⟨⟩, hclosed⟩ := hclose
      { s with
        faults := (Fault.strike .unmap s.faults).2
        mappings := s.mappings.erase h.object } <;>
      rw [hclosed] <;> exact ⟨_, _, rfl, fun _ => rfl⟩
  | some e =>
    dsimp only
    obtain ⟨⟨e⟩ | ⟨⟩, hclosed⟩ := hclose
      (({ s with faults := (Fault.strike .unmap s.faults).2 } : Store).report
        (.unmapFailed h.name e)) <;>
      rw [hclosed] <;> exact ⟨_, _, rfl, fun hnone => by cases hnone⟩

@[simp] theorem names_drop : (h.drop s).names = s.names := by
  obtain ⟨mappings, journal, hdrop, -⟩ := h.drop_eq s
  rw [hdrop]

@[simp] theorem objects_drop : (h.drop s).objects = s.objects := by
  obtain ⟨mappings, journal, hdrop, -⟩ := h.drop_eq s
  rw [hdrop]

@[simp] theorem descriptors_drop :
    (h.drop s).descriptors = s.descriptors.erase h.descriptor := by
  obtain ⟨mappings, journal, hdrop, -⟩ := h.drop_eq s
  rw [hdrop]

theorem faults_drop : (h.drop s).faults = (Fault.strike .unmap s.faults).2 := by
  obtain ⟨mappings, journal, hdrop, -⟩ := h.drop_eq s
  rw [hdrop]

theorem mappings_drop (hunmap : (Fault.strike .unmap s.faults).1 = none) :
    (h.drop s).mappings = s.mappings.erase h.object := by
  obtain ⟨mappings, journal, hdrop, hmappings⟩ := h.drop_eq s
  rw [hdrop]
  exact hmappings hunmap

@[simp] theorem object_drop (n : Nat) : (h.drop s).object n = s.object n :=
  congrArg (·.getD n {}) (h.objects_drop s)

end Handle

namespace Store

variable {s₀ s s' : Store} {name : SegmentName} {d : Descriptor} {creator : Bool} {h : Handle}

/-! ## What stays whatever fails -/

/-- **What an open leaves alone, and the one thing that can stay of it**:
the new name with its object. -/
structure Kept (s₀ : Store) (name : SegmentName) (s : Store) : Prop where
  /-- The objects that were there are as they were. -/
  objects : ∀ n < s₀.objects.size, s.object n = s₀.object n
  size_le : s₀.objects.size ≤ s.objects.size
  names : s.names = s₀.names ∨ Created s₀ name s₀.objects.size s

theorem Created.congr {n : Nat} (hc : Created s₀ name n s) (hnames : s'.names = s.names)
    (hsize : s'.objects.size = s.objects.size) : Created s₀ name n s' :=
  ⟨hc.free, hc.removable, hc.number_eq, hnames.trans hc.names, hsize.trans hc.size⟩

/-- What changes neither names nor objects keeps what was kept. -/
theorem Kept.congr (hk : Kept s₀ name s) (hnames : s'.names = s.names)
    (hobjects : s'.objects = s.objects) : Kept s₀ name s' := by
  have hsize := congrArg Array.size hobjects
  refine ⟨fun n hn => (congrArg (·.getD n {}) hobjects).trans (hk.objects n hn),
    hsize.symm ▸ hk.size_le, ?_⟩
  rcases hk.names with hsame | hcreated
  · exact .inl (hnames.trans hsame)
  · exact .inr (hcreated.congr hnames hsize)

theorem Untouched.kept (hs : Untouched s₀ s) : Kept s₀ name s :=
  ⟨fun n _ => hs.object n, Nat.le_of_eq (congrArg Array.size hs.objects).symm, .inl hs.names⟩

theorem Holding.kept (hh : Holding s₀ name d creator s) : Kept s₀ name s := by
  cases creator with
  | true =>
    have hcreated := hh.created rfl
    have hnumber := hcreated.number_eq
    exact ⟨hh.objects, by rw [hcreated.size]; exact Nat.le_succ _, .inr (hnumber ▸ hcreated)⟩
  | false =>
    have hjoined := hh.joined rfl
    exact ⟨hh.objects, Nat.le_of_eq hjoined.size.symm, .inl hjoined.names⟩

theorem Created.lookup_self {n : Nat} (hc : Created s₀ name n s) : s.lookup name = some n := by
  rw [lookup, hc.names]
  exact List.lookup_cons_self

/-- **What holds a name's object finds it under the name.** -/
theorem Holding.lookup_self (hh : Holding s₀ name d creator s) : s.lookup name = some d.object := by
  cases creator with
  | true => exact (hh.created rfl).lookup_self
  | false =>
    rw [lookup, (hh.joined rfl).names]
    exact (hh.joined rfl).bound

/-- What the new name stands for is no business of the others. -/
theorem Created.lookup_of_ne {n : Nat} {other : SegmentName} (hc : Created s₀ name n s)
    (hne : other ≠ name) : s.lookup other = s₀.lookup other := by
  rw [lookup, hc.names, List.lookup_cons, beq_false_of_ne hne]
  rfl

/-- **No other name is touched.** -/
theorem Kept.lookup_of_ne {other : SegmentName} (hk : Kept s₀ name s) (hne : other ≠ name) :
    s.lookup other = s₀.lookup other := by
  rcases hk.names with hsame | hcreated
  · rw [lookup, lookup, hsame]
  · exact hcreated.lookup_of_ne hne

/-- **Every name that was bound is bound as it was.** -/
theorem Kept.lookup_of_bound {n : Nat} {other : SegmentName} (hk : Kept s₀ name s)
    (hbound : s₀.lookup other = some n) : s.lookup other = some n := by
  rcases hk.names with hsame | hcreated
  · rw [lookup, hsame]
    exact hbound
  · rw [hcreated.lookup_of_ne fun heq => ?_, hbound]
    rw [heq, hcreated.free] at hbound
    cases hbound

/-- **To remove the new name**, or to try, keeps what was kept. -/
theorem Kept.removeName (hk : Kept s₀ name s) (hcreated : Created s₀ name s₀.objects.size s) :
    Kept s₀ name (s.removeName name).2 := by
  obtain ⟨faults, ⟨e, hremove⟩ | ⟨-, hremove⟩⟩ := s.removeName_cases name <;> rw [hremove]
  · exact hk.congr rfl rfl
  · exact ⟨hk.objects, hk.size_le, .inl (hcreated.filter_names hcreated.names)⟩

/-- **An open that gives up before it has a mapping**, whatever fails. -/
theorem Holding.kept_abandon (hh : Holding s₀ name d creator s) :
    Kept s₀ name (Opening.abandon name d creator s) := by
  rw [Opening.abandon, close_snd]
  cases creator with
  | false => exact hh.kept.congr rfl rfl
  | true =>
    have hcreated := hh.created rfl
    have hclosed : Kept s₀ name { s with descriptors := s.descriptors.erase d.number } :=
      hh.kept.congr rfl rfl
    exact hclosed.removeName ((hcreated.number_eq ▸ hcreated).congr rfl rfl)

end Store

/-! ## The steps of an open -/

namespace Opening

open Store

variable {s₀ s s' : Store} {name : SegmentName} {size : UInt64} {n : Nat}

/-- **What an open that has failed leaves.** -/
def KeptAt (s₀ : Store) (name : SegmentName) : Opening → Store → Prop
  | .failed _, s => Kept s₀ name s
  | .creating, _ => True
  | .joining, _ => True
  | .sizing _, _ => True
  | .measuring _, _ => True
  | .mapping _ _, _ => True
  | .opened _, _ => True

theorem KeptAt.step (o : Opening) (h : o.Tracked s₀ name s) (hk : o.KeptAt s₀ name s) :
    (o.step name size s).1.KeptAt s₀ name (o.step name size s).2 := by
  cases o with
  | creating =>
    obtain ⟨faults, ⟨e, hcreate⟩ | ⟨-, hcreate⟩⟩ := s.createName_cases name <;>
      rw [Opening.step, hcreate]
    · dsimp only
      split
      · trivial
      · exact (Untouched.kept h).congr rfl rfl
    · trivial
  | joining =>
    obtain ⟨faults, ⟨e, hopen⟩ | ⟨n, -, hopen⟩⟩ := s.openName_cases name <;>
      rw [Opening.step, hopen]
    · exact (Untouched.kept h).congr rfl rfl
    · trivial
  | sizing d =>
    have hfaults := s.faults_truncate d size
    obtain ⟨faults, ⟨e, hsize⟩ | ⟨-, hsize⟩⟩ := s.truncate_cases d size <;>
      rw [Opening.step, hsize] <;> rw [hsize] at hfaults
    · exact (h.1.untouched (untouched_of_struck hfaults ⟨by decide, by decide⟩)).kept_abandon
    · trivial
  | measuring d =>
    have hfaults := s.faults_measure d
    obtain ⟨faults, ⟨e, hmeasure⟩ | hmeasure⟩ := s.measure_cases d <;>
      rw [Opening.step, hmeasure] <;> rw [hmeasure] at hfaults
    · exact (h.1.untouched (untouched_of_struck hfaults ⟨by decide, by decide⟩)).kept_abandon
    · dsimp only
      split
      · exact (h.1.untouched (untouched_of_struck hfaults ⟨by decide, by decide⟩)).kept_abandon
      · trivial
  | mapping d creator =>
    have hfaults := s.faults_map d size
    obtain ⟨faults, ⟨e, hmap⟩ | ⟨-, -, hmap⟩⟩ := s.map_cases d size <;>
      rw [Opening.step, hmap] <;> rw [hmap] at hfaults
    · exact (h.1.untouched (untouched_of_struck hfaults ⟨by decide, by decide⟩)).kept_abandon
    · trivial
  | opened k => trivial
  | failed cause => exact hk

/-- **What an open knows of the size of its object** at each place. -/
def Roomy (size : UInt64) : Opening → Store → Prop
  | .creating, _ => True
  | .joining, _ => True
  | .sizing d, s => d.object < s.objects.size
  | .measuring _, _ => True
  | .mapping d _, s => size.toNat ≤ (s.object d.object).size
  | .opened h, s => h.size = size ∧ size.toNat ≤ (s.object h.object).size
  | .failed _, _ => True

theorem Roomy.step (o : Opening) (h : o.Roomy size s) :
    (o.step name size s).1.Roomy size (o.step name size s).2 := by
  cases o with
  | creating =>
    obtain ⟨faults, ⟨e, hcreate⟩ | ⟨-, hcreate⟩⟩ := s.createName_cases name <;>
      rw [Opening.step, hcreate]
    · dsimp only
      split <;> trivial
    · change s.objects.size < (s.objects.push {}).size
      rw [Array.size_push]
      exact Nat.lt_succ_self _
  | joining =>
    obtain ⟨faults, ⟨e, hopen⟩ | ⟨n, -, hopen⟩⟩ := s.openName_cases name <;>
      rw [Opening.step, hopen] <;> trivial
  | sizing d =>
    obtain ⟨faults, ⟨e, hsize⟩ | ⟨-, hsize⟩⟩ := s.truncate_cases d size <;> rw [Opening.step, hsize]
    · trivial
    · have live : d.object < ({ s with faults } : Store).objects.size := h
      have hsized : ((({ s with faults } : Store).modifyObject d.object
          fun o => { o with size := size.toNat }).object d.object).size = size.toNat :=
        congrArg Object.size (object_modifyObject_self live)
      exact Nat.le_of_eq hsized.symm
  | measuring d =>
    obtain ⟨faults, ⟨e, hmeasure⟩ | hmeasure⟩ := s.measure_cases d <;> rw [Opening.step, hmeasure]
    · trivial
    · dsimp only
      split
      · trivial
      · rename_i hlarge
        exact Nat.le_of_not_lt hlarge
  | mapping d creator =>
    obtain ⟨faults, ⟨e, hmap⟩ | ⟨-, -, hmap⟩⟩ := s.map_cases d size <;> rw [Opening.step, hmap]
    · trivial
    · exact ⟨rfl, h⟩
  | opened k => exact h
  | failed cause => exact h

/-- **How large a creator's object is** once it has its size. -/
def Exact (size : UInt64) : Opening → Store → Prop
  | .mapping d creator, s => creator = true → (s.object d.object).size = size.toNat
  | .opened h, s => h.creator = true → (s.object h.object).size = size.toNat
  | .creating, _ => True
  | .joining, _ => True
  | .sizing _, _ => True
  | .measuring _, _ => True
  | .failed _, _ => True

theorem Exact.step (o : Opening) (hroomy : o.Roomy size s) (h : o.Exact size s) :
    (o.step name size s).1.Exact size (o.step name size s).2 := by
  cases o with
  | creating =>
    obtain ⟨faults, ⟨e, hcreate⟩ | ⟨-, hcreate⟩⟩ := s.createName_cases name <;>
      rw [Opening.step, hcreate]
    · dsimp only
      split <;> trivial
    · trivial
  | joining =>
    obtain ⟨faults, ⟨e, hopen⟩ | ⟨n, -, hopen⟩⟩ := s.openName_cases name <;>
      rw [Opening.step, hopen] <;> trivial
  | sizing d =>
    obtain ⟨faults, ⟨e, hsize⟩ | ⟨-, hsize⟩⟩ := s.truncate_cases d size <;> rw [Opening.step, hsize]
    · trivial
    · intro _
      have live : d.object < ({ s with faults } : Store).objects.size := hroomy
      exact congrArg Object.size (object_modifyObject_self live)
  | measuring d =>
    obtain ⟨faults, ⟨e, hmeasure⟩ | hmeasure⟩ := s.measure_cases d <;> rw [Opening.step, hmeasure]
    · trivial
    · dsimp only
      split
      · trivial
      · exact Bool.noConfusion
  | mapping d creator =>
    obtain ⟨faults, ⟨e, hmap⟩ | ⟨-, -, hmap⟩⟩ := s.map_cases d size <;> rw [Opening.step, hmap]
    · trivial
    · exact h
  | opened k => exact h
  | failed cause => trivial

/-- **No step of an open gives a mapping back.** -/
theorem spares_step (o : Opening) :
    Fault.Spares .unmap n (o.step name size s).2.faults ↔ Fault.Spares .unmap n s.faults := by
  have abandoned : ∀ (d : Descriptor) (creator : Bool) (t : Store),
      Fault.Spares .unmap n (abandon name d creator t).faults ↔ Fault.Spares .unmap n t.faults := by
    intro d creator t
    rw [abandon, close_snd]
    cases creator with
    | false => exact Iff.rfl
    | true => exact spares_of_struck (by decide) (faults_removeName _ name)
  cases o with
  | creating =>
    have hfaults := s.faults_createName name
    rw [step]
    rcases hcreate : s.createName name with ⟨e | d, t⟩ <;> rw [hcreate] at hfaults
    · dsimp only
      split <;> exact spares_of_struck (by decide) hfaults
    · exact spares_of_struck (by decide) hfaults
  | joining =>
    have hfaults := s.faults_openName name
    rw [step]
    rcases hopen : s.openName name with ⟨e | d, t⟩ <;> rw [hopen] at hfaults <;>
      exact spares_of_struck (by decide) hfaults
  | sizing d =>
    have hfaults := s.faults_truncate d size
    rw [step]
    rcases hsize : s.truncate d size with ⟨e | _, t⟩ <;> rw [hsize] at hfaults
    · exact (abandoned d true t).trans (spares_of_struck (by decide) hfaults)
    · exact spares_of_struck (by decide) hfaults
  | measuring d =>
    have hfaults := s.faults_measure d
    rw [step]
    rcases hmeasure : s.measure d with ⟨e | actual, t⟩ <;> rw [hmeasure] at hfaults
    · exact (abandoned d false t).trans (spares_of_struck (by decide) hfaults)
    · dsimp only
      split
      · exact (abandoned d false t).trans (spares_of_struck (by decide) hfaults)
      · exact spares_of_struck (by decide) hfaults
  | mapping d creator =>
    have hfaults := s.faults_map d size
    rw [step]
    rcases hmap : s.map d size with ⟨e | _, t⟩ <;> rw [hmap] at hfaults
    · exact (abandoned d creator t).trans (spares_of_struck (by decide) hfaults)
    · have hspares : Spares .unmap n t.faults ↔ Spares .unmap n s.faults :=
        spares_of_struck (by decide) hfaults
      exact hspares
  | opened k => exact Iff.rfl
  | failed cause => exact Iff.rfl

/-- **What is known of an open at its end.** -/
theorem assessed_run (name : SegmentName) (size : UInt64) (s : Store) :
    (ended (s.openSegment name size).1).Tracked s name (s.openSegment name size).2 ∧
      (ended (s.openSegment name size).1).KeptAt s name (s.openSegment name size).2 ∧
      (ended (s.openSegment name size).1).Roomy size (s.openSegment name size).2 ∧
      (ended (s.openSegment name size).1).Exact size (s.openSegment name size).2 :=
  run_induction
    (P := fun o t => o.Tracked s name t ∧ o.KeptAt s name t ∧ o.Roomy size t ∧ o.Exact size t)
    ⟨Untouched.refl, trivial, trivial, trivial⟩
    fun o _ ⟨ht, hk, hr, he⟩ => ⟨ht.step o, hk.step o ht, hr.step o, he.step o hr⟩

end Opening

/-! ## What an open comes to -/

namespace Store

variable {s s' : Store} {name : SegmentName} {size : UInt64} {h : Handle}

theorem Held.kept (hh : Held s name h s') : Kept s name s' := hh.holding.kept

theorem Held.lookup_self (hh : Held s name h s') : s'.lookup name = some h.object :=
  hh.holding.lookup_self

/-- **What is known of an open that succeeds.** -/
structure Granted (s₀ : Store) (name : SegmentName) (size : UInt64) (h : Handle) (s : Store) :
    Prop where
  held : Held s₀ name h s
  size_eq : h.size = size
  /-- The object has all the bytes that are mapped. -/
  fits : size.toNat ≤ (s.object h.object).size
  /-- A new object has no others. -/
  exact : h.creator = true → (s.object h.object).size = size.toNat

/-- A creator has the object that was added last. -/
theorem Granted.object_eq {s₀ s : Store} (hg : Granted s₀ name size h s)
    (hcreator : h.creator = true) : h.object = s₀.objects.size :=
  (hg.held.holding.created hcreator).number_eq

theorem granted_of_openSegment (ho : s.openSegment name size = (.ok h, s')) :
    Granted s name size h s' ∧ (h.creator = true → (s'.object h.object).cells = #[]) := by
  have hend := Opening.assessed_run name size s
  rw [ho] at hend
  obtain ⟨⟨hheld, hcells⟩, -, ⟨hsize, hfits⟩, hexact⟩ := hend
  exact ⟨⟨hheld, hsize, hfits, hexact⟩, hcells⟩

/-- **Whatever fails on the way of an open**, and whatever of its undoing,
no more stays than an empty name. -/
theorem kept_of_openSegment_error {cause : SegmentError}
    (ho : s.openSegment name size = (.error cause, s')) : Kept s name s' := by
  have hend := Opening.assessed_run name size s
  rw [ho] at hend
  exact hend.2.1

end Store

end TwinRing
