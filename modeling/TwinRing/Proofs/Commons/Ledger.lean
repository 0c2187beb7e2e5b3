import TwinRing.Proofs.Commons.Strides
/-!
# Everything that is open — the record is kept

What is bound, and how large it is, can be read off the record after any
dealings. `Entered` says what was the case when a handle was returned: with
which earlier handles it shares its object, and whether it is the first.
`Standing` says what is the case since: its name stands for its object
until the name is removed, and the size of the object is what it was. The
`Ledger` has both for every handle that was ever returned, with all that
makes them inductive, and every stride keeps it.
-/

namespace TwinRing

namespace Store

variable {s s' : Store} {name other : SegmentName} {n : Nat}

theorem mem_of_lookup (h : s.lookup name = some n) : (name, n) ∈ s.names := by
  obtain ⟨before, behind, hnames, -⟩ := List.lookup_eq_some_iff.1 h
  rw [hnames]
  exact List.mem_append_right _ (List.mem_cons_self ..)

theorem notMem_of_lookup (h : s.lookup name = none) : name ∉ s.names.map Prod.fst := by
  intro hin
  obtain ⟨b, hb, rfl⟩ := List.mem_map.1 hin
  have hne := List.lookup_eq_none_iff.1 h b hb
  simp at hne

/-- Without the bindings of a name, the name is free and all others are as
they were. -/
theorem lookup_filter (names : List (SegmentName × Nat)) (name other : SegmentName) :
    (names.filter fun b => b.1 ≠ name).lookup other =
      if other = name then none else names.lookup other := by
  induction names with
  | nil => simp
  | cons b rest ih =>
    obtain ⟨key, n⟩ := b
    by_cases hkey : key = name
    · subst hkey
      rw [List.filter_cons_of_neg (by simp), ih, List.lookup_cons]
      by_cases hother : other = key
      · rw [if_pos hother, if_pos hother]
      · rw [if_neg hother, if_neg hother, beq_false_of_ne hother]
    · rw [List.filter_cons_of_pos (by simpa using hkey), List.lookup_cons, List.lookup_cons, ih]
      by_cases hother : other = key
      · rw [hother, beq_self_eq_true]
        exact (if_neg hkey).symm
      · rw [beq_false_of_ne hother]

namespace Removed

variable (h : Removed s name s')
include h

theorem lookup_self : s'.lookup name = none := by
  rw [lookup, h.names, lookup_filter, if_pos rfl]

theorem lookup_of_ne (hne : other ≠ name) : s'.lookup other = s.lookup other := by
  rw [lookup, h.names, lookup_filter, if_neg hne]
  rfl

theorem object_eq (n : Nat) : s'.object n = s.object n := congrArg (·.getD n {}) h.objects

end Removed

/-- **What is bound**: names to objects that are there, one to one, and
names that can be removed. -/
structure Registered (s : Store) : Prop where
  nodup : (s.names.map Prod.fst).Nodup
  live : ∀ name n, s.lookup name = some n → n < s.objects.size
  removable : ∀ name n, s.lookup name = some n → name.removeRefusal? = none
  injective : ∀ name other n, s.lookup name = some n → s.lookup other = some n → name = other

namespace Registered

variable (h : Registered s)
include h

theorem steady (hs : Steady s s') : Registered s' := by
  have hlookup : ∀ name, s'.lookup name = s.lookup name := fun name =>
    congrArg (List.lookup name) hs.names
  refine ⟨by rw [hs.names]; exact h.nodup, fun name n hn => ?_, fun name n hn => ?_,
    fun name other n hn hother => ?_⟩
  · exact Nat.lt_of_lt_of_le (h.live name n (hlookup name ▸ hn)) hs.count_le
  · exact h.removable name n (hlookup name ▸ hn)
  · exact h.injective name other n (hlookup name ▸ hn) (hlookup other ▸ hother)

theorem created (hc : Created s name s.objects.size s') : Registered s' := by
  have hself := hc.lookup_self
  refine ⟨?_, fun other n hn => ?_, fun other n hn => ?_, fun first second n hn hn' => ?_⟩
  · rw [hc.names]
    exact List.nodup_cons.2 ⟨notMem_of_lookup hc.free, h.nodup⟩
  · by_cases hother : other = name
    · rw [hother, hself] at hn
      cases hn
      rw [hc.size]
      exact Nat.lt_succ_self _
    · rw [hc.lookup_of_ne hother] at hn
      rw [hc.size]
      exact Nat.lt_succ_of_lt (h.live other n hn)
  · by_cases hother : other = name
    · rw [hother]
      exact hc.removable
    · rw [hc.lookup_of_ne hother] at hn
      exact h.removable other n hn
  · -- a number that is new belongs to the new name alone
    have hold : ∀ other, other ≠ name → s'.lookup other = some n → n < s.objects.size :=
      fun other hne hlookup => h.live other n (hc.lookup_of_ne hne ▸ hlookup)
    by_cases hfirst : first = name <;> by_cases hsecond : second = name
    · rw [hfirst, hsecond]
    · rw [hfirst, hself] at hn
      cases hn
      exact absurd (hold second hsecond hn') (Nat.lt_irrefl _)
    · rw [hsecond, hself] at hn'
      cases hn'
      exact absurd (hold first hfirst hn) (Nat.lt_irrefl _)
    · rw [hc.lookup_of_ne hfirst] at hn
      rw [hc.lookup_of_ne hsecond] at hn'
      exact h.injective first second n hn hn'

theorem removed (hr : Removed s name s') : Registered s' := by
  have hlookup : ∀ other n, s'.lookup other = some n → s.lookup other = some n :=
    fun other n hn => by
      by_cases hother : other = name
      · rw [hother, hr.lookup_self] at hn
        cases hn
      · rwa [hr.lookup_of_ne hother] at hn
  refine ⟨?_, fun name n hn => ?_, fun name n hn => h.removable name n (hlookup name n hn),
    fun first second n hn hn' =>
      h.injective first second n (hlookup first n hn) (hlookup second n hn')⟩
  · rw [hr.names]
    exact h.nodup.sublist (List.filter_sublist.map _)
  · rw [hr.objects]
    exact h.live name n (hlookup name n hn)

end Registered

end Store

/-- The event that a name is bound to an object since. -/
def Mark.Binds (name : SegmentName) (n : Nat) : Mark → Prop
  | .granted h => h.name = name ∧ h.object = n
  | .left other m => other = name ∧ m = n
  | .removed _ => False

namespace Commons

open Store

variable {s s' : Store} {name : SegmentName} {h k : Handle} {earlier later r : List Mark}

/-- **How it was when a handle was returned**, by what was on record. -/
structure Entered (earlier : List Mark) (h : Handle) : Prop where
  /-- Only the first on an object is its creator, and none is of an object
  that a failed open had left. -/
  creator_iff : h.creator = true ↔
    Mark.left h.name h.object ∉ earlier ∧ ∀ k, Mark.granted k ∈ earlier → k.object ≠ h.object
  /-- It shares its object with those that were opened under its name since
  this was removed last. -/
  shared : ∀ first k between, earlier = first ++ Mark.granted k :: between →
    (k.object = h.object ↔ k.name = h.name ∧ Mark.removed k.name ∉ between)

/-- **How it is since**, by what was noted later. -/
structure Standing (s : Store) (h : Handle) (later : List Mark) : Prop where
  live : h.object < s.objects.size
  fits : h.size.toNat ≤ (s.object h.object).size
  exact : h.creator = true → (s.object h.object).size = h.size.toNat
  bound_iff : s.lookup h.name = some h.object ↔ Mark.removed h.name ∉ later
  /-- No other name stands for its object. -/
  only : ∀ name, s.lookup name = some h.object → name = h.name
  /-- What a failed open leaves is never an object that is in use. -/
  unleft : Mark.left h.name h.object ∉ later

namespace Standing

variable {m : Mark}

theorem steady (hst : Standing s h later) (hs : Steady s s') : Standing s' h later := by
  have hlookup : ∀ name, s'.lookup name = s.lookup name := fun name =>
    congrArg (List.lookup name) hs.names
  have hsize := hs.sizes _ hst.live
  refine ⟨Nat.lt_of_lt_of_le hst.live hs.count_le, hsize.symm ▸ hst.fits,
    fun hc => hsize.trans (hst.exact hc), ?_, fun name hn => hst.only name (hlookup name ▸ hn),
    hst.unleft⟩
  rw [hlookup]
  exact hst.bound_iff

/-- A mark that neither removes a name nor leaves the object is no concern
of it. -/
theorem append (hst : Standing s h later) (hremoves : ∀ name, m ≠ .removed name)
    (hleaves : m ≠ .left h.name h.object) : Standing s h (later ++ [m]) := by
  have hnotMem : ∀ a ≠ m, a ∉ later ++ [m] ↔ a ∉ later := fun a hne => by
    simp only [List.mem_append, List.mem_singleton, hne, or_false]
  exact ⟨hst.live, hst.fits, hst.exact,
    hst.bound_iff.trans (hnotMem _ (hremoves h.name).symm).symm, hst.only,
    (hnotMem _ hleaves.symm).2 hst.unleft⟩

/-- **A new name and a new object** are not those of a handle of before. -/
theorem created (hst : Standing s h later) (hc : Created s name s.objects.size s')
    (hobjects : ∀ n < s.objects.size, s'.object n = s.object n) : Standing s' h later := by
  have hne : some s.objects.size ≠ some h.object := fun heq =>
    absurd (Option.some.inj heq) (Nat.ne_of_gt hst.live)
  have hobject := hobjects _ hst.live
  refine ⟨by rw [hc.size]; exact Nat.lt_succ_of_lt hst.live, by rw [hobject]; exact hst.fits,
    fun hcreator => by rw [hobject]; exact hst.exact hcreator, ?_, fun other hother => ?_,
    hst.unleft⟩
  · by_cases hname : h.name = name
    · -- the name was free, so it had been removed
      have hfree : s.lookup h.name = none := hname ▸ hc.free
      have hgone : ¬ Mark.removed h.name ∉ later := fun hnot => by
        rw [hst.bound_iff.2 hnot] at hfree
        cases hfree
      rw [hname, hc.lookup_self, ← hname]
      exact ⟨fun heq => absurd heq hne, fun hnot => absurd hnot hgone⟩
    · rw [hc.lookup_of_ne hname]
      exact hst.bound_iff
  · by_cases hname : other = name
    · rw [hname, hc.lookup_self] at hother
      exact absurd hother hne
    · exact hst.only other (hc.lookup_of_ne hname ▸ hother)

theorem removed (hst : Standing s h later) (hr : Removed s name s') :
    Standing s' h (later ++ [.removed name]) := by
  have hobject := hr.object_eq h.object
  refine ⟨by rw [hr.objects]; exact hst.live, by rw [hobject]; exact hst.fits,
    fun hcreator => by rw [hobject]; exact hst.exact hcreator, ?_, fun other hother => ?_, ?_⟩
  · by_cases hname : h.name = name
    · have hgone : Mark.removed name ∈ later ++ [.removed name] :=
        List.mem_append_right _ (List.mem_singleton_self _)
      rw [hname, hr.lookup_self]
      exact ⟨fun hn => (by cases hn), fun hnot => absurd hgone hnot⟩
    · rw [hr.lookup_of_ne hname, hst.bound_iff]
      simp only [List.mem_append, List.mem_singleton, Mark.removed.injEq, hname, or_false]
  · by_cases hname : other = name
    · rw [hname, hr.lookup_self] at hother
      cases hother
    · exact hst.only other (hr.lookup_of_ne hname ▸ hother)
  · simp only [List.mem_append, List.mem_singleton, reduceCtorEq, or_false]
    exact hst.unleft

/-- **How it is with a handle that has just been returned.** -/
theorem of_granted {size : UInt64} (hg : Granted s name size h s') (hregistered : Registered s') :
    Standing s' h [] := by
  have hself : s'.lookup h.name = some h.object := hg.held.name_eq ▸ hg.held.lookup_self
  refine ⟨hregistered.live _ _ hself, hg.size_eq ▸ hg.fits, fun hc => hg.size_eq ▸ hg.exact hc,
    iff_of_true hself List.not_mem_nil, fun other hother => ?_, List.not_mem_nil⟩
  exact hregistered.injective other h.name h.object hother hself

end Standing

/-! ## The ledger -/

/-- **The record is kept**: it tells of every name that is bound since when
it is, and of every handle how it was and how it is. -/
structure Ledger (s : Store) (record : List Mark) : Prop where
  registered : Registered s
  known : ∀ name n, s.lookup name = some n → ∃ earlier m later,
    record = earlier ++ m :: later ∧ m.Binds name n ∧ Mark.removed name ∉ later
  left : ∀ name n, Mark.left name n ∈ record → n < s.objects.size
  entries : ∀ earlier h later, record = earlier ++ Mark.granted h :: later →
    Entered earlier h ∧ Standing s h later

/-- What stands in a record with one more mark is that mark, or stood there
before. -/
theorem split_append {m a : Mark} (h : r ++ [m] = earlier ++ a :: later) :
    (earlier = r ∧ a = m ∧ later = []) ∨
      ∃ between, later = between ++ [m] ∧ r = earlier ++ a :: between := by
  rcases List.eq_nil_or_concat later with rfl | ⟨between, b, rfl⟩
  · obtain ⟨rfl, hlast⟩ := List.append_inj' h rfl
    exact .inl ⟨rfl, (List.singleton_inj.1 hlast).symm, rfl⟩
  · rw [List.concat_eq_append, ← List.cons_append, ← List.append_assoc] at h
    obtain ⟨rfl, hlast⟩ := List.append_inj' h rfl
    obtain rfl := List.singleton_inj.1 hlast
    exact .inr ⟨between, List.concat_eq_append, rfl⟩

namespace Ledger

variable {m : Mark} {n : Nat} (hl : Ledger s r)
include hl

theorem live (hh : Mark.granted h ∈ r) : h.object < s.objects.size := by
  obtain ⟨earlier, later, hr⟩ := List.append_of_mem hh
  exact (hl.entries earlier h later hr).2.live

/-- With one more mark, the entries are those of before and, if it is one,
its own. -/
theorem entries_append
    (hold : ∀ k later, Standing s k later → Standing s' k (later ++ [m]))
    (hnew : ∀ k, m = .granted k → Entered r k ∧ Standing s' k []) :
    ∀ earlier k later, r ++ [m] = earlier ++ Mark.granted k :: later →
      Entered earlier k ∧ Standing s' k later := by
  intro earlier k later hsplit
  rcases split_append hsplit with ⟨rfl, hk, rfl⟩ | ⟨between, rfl, hr⟩
  · exact hnew k hk.symm
  · obtain ⟨hentered, hstanding⟩ := hl.entries earlier k between hr
    exact ⟨hentered, hold k between hstanding⟩

theorem known_append (hremoves : m ≠ .removed name) (hn : s.lookup name = some n) :
    ∃ earlier a later, r ++ [m] = earlier ++ a :: later ∧ a.Binds name n ∧
      Mark.removed name ∉ later := by
  obtain ⟨earlier, a, later, hr, hbinds, hnot⟩ := hl.known name n hn
  refine ⟨earlier, a, later ++ [m], by rw [hr, List.append_assoc, List.cons_append], hbinds, ?_⟩
  simp only [List.mem_append, List.mem_singleton, hremoves.symm, or_false]
  exact hnot

theorem left_append (hm : ∀ name, m ≠ .left name n) {other : SegmentName}
    (hn : Mark.left other n ∈ r ++ [m]) : n < s.objects.size := by
  rcases List.mem_append.1 hn with hold | hnew
  · exact hl.left other n hold
  · exact absurd (List.mem_singleton.1 hnew).symm (hm other)

theorem steady (hs : Steady s s') : Ledger s' r := by
  refine ⟨hl.registered.steady hs, fun name n hn => ?_,
    fun name n hn => Nat.lt_of_lt_of_le (hl.left name n hn) hs.count_le,
    fun earlier k later hr => ?_⟩
  · rw [lookup, hs.names] at hn
    exact hl.known name n hn
  · obtain ⟨hentered, hstanding⟩ := hl.entries earlier k later hr
    exact ⟨hentered, hstanding.steady hs⟩

theorem removed (hr : Removed s name s') : Ledger s' (r ++ [.removed name]) := by
  refine ⟨hl.registered.removed hr, fun other n hn => ?_, fun other n hn => ?_,
    hl.entries_append (fun k later hst => hst.removed hr) fun k hk => (by cases hk)⟩
  · by_cases hother : other = name
    · rw [hother, hr.lookup_self] at hn
      cases hn
    · rw [hr.lookup_of_ne hother] at hn
      exact hl.known_append (fun heq => hother (Mark.removed.inj heq).symm) hn
  · rw [hr.objects]
    exact hl.left_append (fun _ heq => by cases heq) hn

/-- **A new name with a new object**, as long as the mark tells of it. -/
theorem created (hc : Created s name s.objects.size s')
    (hobjects : ∀ n < s.objects.size, s'.object n = s.object n)
    (hm : m = .left name s.objects.size ∨
      ∃ k, m = .granted k ∧ k.name = name ∧ k.object = s.objects.size ∧ Entered r k ∧
        Standing s' k []) :
    Ledger s' (r ++ [m]) := by
  have hremoves : ∀ other, m ≠ .removed other := fun other => by
    rcases hm with rfl | ⟨k, rfl, -⟩ <;> exact fun heq => by cases heq
  have hleaves : ∀ other n, n < s.objects.size → m ≠ .left other n := fun other n hn => by
    rcases hm with rfl | ⟨k, rfl, -⟩
    · exact fun heq => Nat.ne_of_gt hn (Mark.left.inj heq).2
    · exact fun heq => by cases heq
  refine ⟨hl.registered.created hc, fun other n hn => ?_, fun other n hn => ?_,
    hl.entries_append (fun k later hst => (hst.created hc hobjects).append hremoves
      (hleaves _ _ hst.live)) fun k hk => ?_⟩
  · by_cases hother : other = name
    · rw [hother, hc.lookup_self] at hn
      obtain rfl := Option.some.inj hn
      refine ⟨r, m, [], rfl, ?_, List.not_mem_nil⟩
      rcases hm with rfl | ⟨k, rfl, hname, hobject, -⟩
      · exact ⟨hother.symm, rfl⟩
      · exact ⟨hname.trans hother.symm, hobject⟩
    · exact hl.known_append (hremoves other) (hc.lookup_of_ne hother ▸ hn)
  · rw [hc.size]
    by_cases hnew : n < s.objects.size
    · exact Nat.lt_succ_of_lt hnew
    · rcases List.mem_append.1 hn with hold | hlast
      · exact Nat.lt_succ_of_lt (hl.left other n hold)
      · rcases hm with rfl | ⟨k, rfl, -⟩ <;> cases List.mem_singleton.1 hlast
        exact Nat.lt_succ_self _
  · rcases hm with rfl | ⟨k', rfl, -, -, hentry⟩ <;> cases hk
    exact hentry

variable {size : UInt64} (hg : Granted s name size h s')
include hg

/-- **The first on an object** shares it with nobody of before. -/
theorem entered_creator (hcreator : h.creator = true) : Entered r h := by
  have hcreated := hg.held.holding.created hcreator
  have hnumber := hg.object_eq hcreator
  refine ⟨iff_of_true hcreator ⟨fun hleft => ?_, fun k hk => ?_⟩, fun first k between hr => ?_⟩
  · exact Nat.ne_of_lt (hl.left _ _ hleft) hnumber
  · rw [hnumber]
    exact Nat.ne_of_lt (hl.live hk)
  · have hstanding := (hl.entries first k between hr).2
    refine iff_of_false (fun heq => ?_) fun ⟨hname, hnot⟩ => ?_
    · exact Nat.ne_of_lt hstanding.live (heq.trans hnumber)
    · have hbound := hstanding.bound_iff.2 hnot
      rw [hname, hg.held.name_eq, hcreated.free] at hbound
      cases hbound

/-- **Who joins** shares the object with those who have it under the name
still, and somebody has had it before. -/
theorem entered_joined (hjoiner : h.creator = false) : Entered r h := by
  have hbound := (hg.held.holding.joined hjoiner).bound
  have hname := hg.held.name_eq
  refine ⟨iff_of_false (by simp [hjoiner]) fun ⟨hleft, hother⟩ => ?_, fun first k between hr => ?_⟩
  · obtain ⟨first, m, between, hr, hbinds, -⟩ := hl.known name _ hbound
    have hm : m ∈ r := hr ▸ List.mem_append_right _ (List.mem_cons_self ..)
    cases m with
    | granted k => exact hother k hm hbinds.2
    | left other n =>
      obtain ⟨rfl, rfl⟩ := hbinds
      exact hleft (hname.symm ▸ hm)
    | removed other => exact hbinds
  · have hstanding := (hl.entries first k between hr).2
    refine ⟨fun heq => ?_, fun ⟨hsame, hnot⟩ => ?_⟩
    · have hlookup : s.lookup name = some k.object := hbound.trans (congrArg some heq.symm)
      have hsame := hstanding.only name hlookup
      exact ⟨hsame.symm.trans hname.symm, hstanding.bound_iff.1 (hsame ▸ hlookup)⟩
    · have hlookup := hstanding.bound_iff.2 hnot
      rw [hsame, hname, hbound] at hlookup
      exact (Option.some.inj hlookup).symm

theorem granted : Ledger s' (r ++ [.granted h]) := by
  cases hcreator : h.creator with
  | true =>
    have hcreated := hg.held.holding.created hcreator
    rw [hcreated.number_eq] at hcreated
    exact hl.created hcreated hg.held.holding.objects
      (.inr ⟨h, rfl, hg.held.name_eq, hg.object_eq hcreator, hl.entered_creator hg hcreator,
        .of_granted hg (hl.registered.created hcreated)⟩)
  | false =>
    have hjoined := hg.held.holding.joined hcreator
    have hsteady : Steady s s' := ⟨.of_kept hg.held.kept, hjoined.names⟩
    have hl' := hl.steady hsteady
    refine ⟨hl'.registered, fun other n hn => hl'.known_append (fun heq => by cases heq) hn,
      fun other n hn => hl'.left_append (fun _ heq => by cases heq) hn,
      hl.entries_append (fun k later hst => (hst.steady hsteady).append (fun _ heq => by cases heq)
        fun heq => by cases heq) fun k hk => ?_⟩
    cases hk
    exact ⟨hl.entered_joined hg hcreator, .of_granted hg hl'.registered⟩

end Ledger

/-- **Every stride keeps the ledger.** -/
theorem Ledger.stride {x y : Store × List Mark} (hstride : Stride x y) (hl : Ledger x.1 x.2) :
    Ledger y.1 y.2 := by
  cases hstride with
  | steady hs => exact hl.steady hs
  | granted hg => exact hl.granted hg
  | left hobjects hcreated => exact hl.created hcreated hobjects (.inl rfl)
  | removed hr => exact hl.removed hr

/-- **So do all strides.** -/
theorem Ledger.strides {x y : Store × List Mark} (hstrides : Strides x y) (hl : Ledger x.1 x.2) :
    Ledger y.1 y.2 := by
  induction hstrides with
  | refl => exact hl
  | tail _ hstride ih => exact ih.stride hstride

theorem ledger_empty : Ledger {} [] where
  registered := ⟨List.nodup_nil, fun _ _ hn => (by cases hn), fun _ _ hn => (by cases hn),
    fun _ _ _ hn => (by cases hn)⟩
  known := fun _ _ hn => (by cases hn)
  left := fun _ _ hn => (by cases hn)
  entries := fun earlier h later hr => absurd hr.symm (by simp)

/-- **After any dealings the record is kept.** -/
theorem ledger_run (dealings : List Dealing) :
    Ledger (({} : Commons).run dealings).store (({} : Commons).run dealings).record :=
  run_induction (P := fun c => Ledger c.store c.record) dealings ledger_empty
    fun c d hl => hl.strides (strides_after c d)

/-- **After any dealings every handle that is held is on record.** -/
theorem recorded_run (dealings : List Dealing) : (({} : Commons).run dealings).Recorded :=
  run_induction dealings (fun _ hh => (by cases hh)) fun _ d hc => hc.after d

end Commons

end TwinRing
