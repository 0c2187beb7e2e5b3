import Mathlib.Logic.Relation
import TwinRing.Proofs.Channel.Aborted
import TwinRing.Proofs.Commons.Basic
import TwinRing.Proofs.Duplex.Building
import TwinRing.Proofs.Segment.Naming
/-!
# Everything that is open — what a dealing is made of

Whatever a dealing does in detail, names and record change in one of four
ways (`Stride`): not at all, by an open that succeeds, by one that leaves
its name bound though it failed, or by the removal of a name. Every dealing
is a few strides, one after another (`strides_after`), and a proof about
names, sizes and handles over all dealings has these four cases.
-/

namespace TwinRing

open Relation (ReflTransGen)

namespace Store

variable {s s' s'' : Store} {name : SegmentName} {n : Nat} {reach : List Nat}

/-- **Objects were added at most**, and have the sizes that they had. -/
structure Grown (s s' : Store) : Prop where
  count_le : s.objects.size ≤ s'.objects.size
  sizes : ∀ n < s.objects.size, (s'.object n).size = (s.object n).size

namespace Grown

theorem refl : Grown s s := ⟨Nat.le_refl _, fun _ _ => rfl⟩

theorem trans (h : Grown s s') (h' : Grown s' s'') : Grown s s'' :=
  ⟨Nat.le_trans h.count_le h'.count_le, fun n hn =>
    (h'.sizes n (Nat.lt_of_lt_of_le hn h.count_le)).trans (h.sizes n hn)⟩

theorem of_eq (h : s'.objects = s.objects) : Grown s s' :=
  ⟨Nat.le_of_eq (congrArg Array.size h).symm,
    fun n _ => congrArg (fun objects => (objects.getD n {}).size) h⟩

theorem of_kept (h : Kept s name s') : Grown s s' :=
  ⟨h.size_le, fun n hn => congrArg Object.size (h.objects n hn)⟩

end Grown

/-- **No name has changed**, and no size. -/
structure Steady (s s' : Store) : Prop extends Grown s s' where
  names : s'.names = s.names

namespace Steady

theorem trans (h : Steady s s') (h' : Steady s' s'') : Steady s s'' :=
  ⟨h.toGrown.trans h'.toGrown, h'.names.trans h.names⟩

theorem of_eq (hnames : s'.names = s.names) (hobjects : s'.objects = s.objects) : Steady s s' :=
  ⟨.of_eq hobjects, hnames⟩

theorem of_within (h : Within reach s s') : Steady s s' :=
  ⟨⟨Nat.le_of_eq h.count.symm, fun n _ => h.sizes n⟩, h.names⟩

theorem of_untouched (h : Untouched s s') : Steady s s' := .of_eq h.names h.objects

theorem drop (v : View) (s : Store) : Steady s (v.drop s) :=
  .of_eq (v.handle.names_drop s) (v.handle.objects_drop s)

end Steady

/-- **A name was bound, and is not any more**; no object has changed. -/
structure Removed (s : Store) (name : SegmentName) (s' : Store) : Prop where
  bound : ∃ n, s.lookup name = some n
  names : s'.names = s.names.filter fun b => b.1 ≠ name
  objects : s'.objects = s.objects

/-- **To remove a name** is to remove it, or to fail and leave it. -/
theorem unlinkName_cases (s : Store) (name : SegmentName) : ∃ s',
    (∃ e, s.unlinkName name = (.error e, s') ∧ s'.names = s.names ∧ s'.objects = s.objects) ∨
      s.unlinkName name = (.ok (), s') ∧ Removed s name s' := by
  obtain ⟨faults, ⟨e, hremove⟩ | ⟨hbound, hremove⟩⟩ := s.removeName_cases name <;>
    rw [unlinkName, hremove]
  · exact ⟨_, .inl ⟨_, rfl, rfl, rfl⟩⟩
  · exact ⟨_, .inr ⟨rfl, hbound, rfl, rfl⟩⟩

end Store

namespace Commons

open Store

variable {s s' : Store} {name : SegmentName} {given : String} {r : List Mark}
variable {result : Except SegmentError Handle} {config : Config}

/-- **How names and record can change.** -/
inductive Stride : Store × List Mark → Store × List Mark → Prop
  | steady {s s' : Store} {r : List Mark} (h : Steady s s') : Stride (s, r) (s', r)
  | granted {s s' : Store} {r : List Mark} {name : SegmentName} {size : UInt64} {h : Handle}
      (hg : Granted s name size h s') : Stride (s, r) (s', r ++ [.granted h])
  | left {s s' : Store} {r : List Mark} {name : SegmentName}
      (hobjects : ∀ n < s.objects.size, s'.object n = s.object n)
      (hcreated : Created s name s.objects.size s') :
      Stride (s, r) (s', r ++ [.left name s.objects.size])
  | removed {s s' : Store} {r : List Mark} {name : SegmentName} (hr : Removed s name s') :
      Stride (s, r) (s', r ++ [.removed name])

/-- A few strides, one after another. -/
def Strides : Store × List Mark → Store × List Mark → Prop := ReflTransGen Stride

theorem strides_steady (h : Steady s s') : Strides (s, r) (s', r) := .single (.steady h)

/-! ## Opens -/

/-- **A failed open** is steady, or leaves its name. -/
theorem strides_leftover (hname : SegmentName.ofString given = .ok name) (hk : Kept s name s') :
    Strides (s, r) (s', r ++ leftover given s s') := by
  unfold leftover
  rw [hname]
  dsimp only
  rcases hk.names with hsame | hcreated
  · have hlookup : s'.lookup name = s.lookup name := congrArg (List.lookup name) hsame
    have hsteady : Steady s s' := ⟨.of_kept hk, hsame⟩
    rw [hlookup]
    cases s.lookup name with
    | none => exact (List.append_nil r).symm ▸ strides_steady hsteady
    | some n => exact (List.append_nil r).symm ▸ strides_steady hsteady
  · rw [hcreated.free, hcreated.lookup_self]
    exact .single (.left hk.objects hcreated)

/-- What an open can come to, as far as names and record are concerned. -/
structure Opens (given : String) (s : Store) (result : Except SegmentError Handle) (s' : Store) :
    Prop where
  granted : ∀ h, result = .ok h → ∃ name size, Granted s name size h s'
  kept : ∀ e, result = .error e → ∀ name, SegmentName.ofString given = .ok name → Kept s name s'
  refused : ∀ e, SegmentName.ofString given = .error e → (∃ e, result = .error e) ∧ s' = s

theorem Opens.strides (h : Opens given s result s') :
    Strides (s, r) (s', r ++ openMarks given s result s') := by
  cases hresult : result with
  | ok k =>
    obtain ⟨name, size, hg⟩ := h.granted k hresult
    exact .single (.granted hg)
  | error e =>
    cases hname : SegmentName.ofString given with
    | ok name => exact strides_leftover hname (h.kept e hresult name hname)
    | error e' =>
      obtain ⟨-, rfl⟩ := h.refused e' hname
      rw [openMarks, leftover, hname, List.append_nil]
      exact .refl

theorem opens_openNamed (given : String) (size : UInt64) (s : Store) :
    Opens given s (s.openNamed given size).1 (s.openNamed given size).2 := by
  unfold openNamed
  cases hname : SegmentName.ofString given with
  | error e =>
    exact ⟨fun h hok => (by cases hok), fun _ _ name hok => (by rw [hname] at hok; cases hok),
      fun _ _ => ⟨⟨e, rfl⟩, rfl⟩⟩
  | ok name =>
    rcases hopen : s.openSegment name size with ⟨e | h, s'⟩ <;> dsimp only <;> rw [hopen]
    · refine ⟨fun h hok => (by cases hok), fun _ _ name' hok => ?_,
        fun e' herror => (by rw [hname] at herror; cases herror)⟩
      obtain rfl : name' = name := Except.ok.inj (hok.symm.trans hname)
      exact kept_of_openSegment_error hopen
    · refine ⟨fun k hok => ⟨name, size, ?_⟩, fun _ herror => (by cases herror),
        fun e' herror => (by rw [hname] at herror; cases herror)⟩
      cases hok
      exact (granted_of_openSegment hopen).1

theorem opens_openRing (given : String) (g : Geometry) (s : Store) :
    Opens given s ((s.openRing given g).1.map View.handle) (s.openRing given g).2 := by
  rcases hopen : s.openRing given g with ⟨e | v, s'⟩
  · refine ⟨fun h hok => (by cases hok), fun _ _ name hname => kept_of_openRing_error hname hopen,
      fun e' hinvalid => ⟨⟨e, rfl⟩, ?_⟩⟩
    have hsame := openRing_of_invalid (s := s) (g := g) hinvalid
    rwa [hopen] at hsame
  · have hg := ringGranted_of_openRing hopen
    refine ⟨fun h hok => ⟨v.name, v.handle.size, ?_⟩, fun _ herror => (by cases herror),
      fun e' hinvalid => ?_⟩
    · cases hok
      exact hg.granted
    · rw [hg.name] at hinvalid
      cases hinvalid

/-! ## Building a channel -/

theorem buildMarks_of_opened {inView outView : View} {s₁ s₂ : Store}
    (hin : s.openRing config.inName config.inGeometry = (.ok inView, s₁))
    (hout : s₁.openRing config.outName config.outGeometry = (.ok outView, s₂)) :
    buildMarks config s = [.granted inView.handle, .granted outView.handle] := by
  unfold buildMarks
  rw [hin]
  dsimp only
  rw [hout]
  rfl

/-- What comes after both rings are open has no part in the record. -/
theorem strides_opened {inView outView : View} {s₁ s₂ : Store}
    (hin : s.openRing config.inName config.inGeometry = (.ok inView, s₁))
    (hout : s₁.openRing config.outName config.outGeometry = (.ok outView, s₂))
    (hs : Steady s₂ s') : Strides (s, r) (s', r ++ buildMarks config s) := by
  have hgranted := ringGranted_of_openRing hin
  have hgranted' := ringGranted_of_openRing hout
  have hboth : Strides (s, r) (s₂, r ++ [.granted inView.handle] ++ [.granted outView.handle]) :=
    .tail (.single (.granted hgranted.granted)) (.granted hgranted'.granted)
  rw [buildMarks_of_opened hin hout]
  rw [List.append_assoc] at hboth
  exact hboth.trans (strides_steady hs)

theorem strides_build (config : Config) (s : Store) (r : List Mark) :
    Strides (s, r) ((Channel.build config s).2, r ++ buildMarks config s) := by
  rcases hbuild : Channel.build config s with ⟨e | c, s'⟩
  · obtain ⟨workers, haborted⟩ := Channel.build_eq_error_iff.1 hbuild
    cases haborted with
    | @inbound cause s₁ hin =>
      have hopens := opens_openRing config.inName config.inGeometry s
      rw [hin] at hopens
      have hmarks : buildMarks config s = openMarks config.inName s (.error cause) s' := by
        unfold buildMarks
        rw [hin]
      rw [hmarks]
      exact hopens.strides
    | @outbound inView cause s₁ s₂ hin hout =>
      have hgranted := ringGranted_of_openRing hin
      have hopens := opens_openRing config.outName config.outGeometry s₁
      rw [hout] at hopens
      have hmarks : buildMarks config s =
          [.granted inView.handle] ++ openMarks config.outName s₁ (.error cause) s₂ := by
        unfold buildMarks
        rw [hin]
        dsimp only
        rw [hout]
        rfl
      rw [hmarks, ← List.append_assoc]
      exact ((ReflTransGen.single (.granted hgranted.granted)).trans hopens.strides).trans
        (strides_steady (.drop inView s₂))
    | @reader inView outView cause s₁ s₂ s₃ hin hout hreader =>
      have hcleared := Steady.of_within (Channel.within_clears config inView outView s₂)
      have hstarted := Steady.of_untouched (Channel.untouched_startWorker hreader).1
      have hdropped := (Steady.drop outView s₃).trans (.drop inView _)
      exact strides_opened hin hout ((hcleared.trans hstarted).trans hdropped)
    | @writer inView outView cause s₁ s₂ s₃ s₄ l hin hout hreader hwriter =>
      have hcleared := Steady.of_within (Channel.within_clears config inView outView s₂)
      have hstarted := Steady.of_untouched ((Channel.untouched_startWorker hreader).1.trans
        (Channel.untouched_startWorker hwriter).1)
      have hjoined := Steady.of_within (l.within_join s₄).2
      -- how the worker ends is of no interest here
      generalize (l.join s₄).2 = s₅ at hjoined
      have hdropped := (Steady.drop outView s₅).trans (.drop inView _)
      exact strides_opened hin hout
        (((hcleared.trans hstarted).trans hjoined).trans hdropped)
  · obtain ⟨s₁, s₂, hbuilt⟩ := Channel.built_of_build hbuild
    have hcleared := Channel.within_clears config c.inbound.view c.outbound.view s₂
    exact strides_opened hbuilt.inbound hbuilt.outbound ((Steady.of_within hcleared).trans
      (.of_eq (hbuilt.names.trans hcleared.names.symm) hbuilt.objects))

/-! ## Every dealing -/

theorem removeMarks_full (hname : SegmentName.ofString given = .ok name)
    (result : Except SegmentError Unit) :
    removeMarks given result = removeMarks name.full result := by
  cases result with
  | error e => rfl
  | ok _ => rw [removeMarks, removeMarks, hname, name.ofString_full]

theorem strides_unlinkName (s : Store) (name : SegmentName) (r : List Mark) :
    Strides (s, r) ((s.unlinkName name).2, r ++ removeMarks name.full (s.unlinkName name).1) := by
  obtain ⟨s', ⟨e, hunlink, hnames, hobjects⟩ | ⟨hunlink, hremoved⟩⟩ := s.unlinkName_cases name <;>
    rw [hunlink]
  · rw [removeMarks, List.append_nil]
    exact strides_steady (.of_eq hnames hobjects)
  · rw [removeMarks, name.ofString_full]
    exact .single (.removed hremoved)

/-- **Every dealing is a few strides.** -/
theorem strides_after (c : Commons) (d : Dealing) :
    Strides (c.store, c.record) ((c.after d).store, (c.after d).record) := by
  cases d with
  | openSegment given size => exact (opens_openNamed given size c.store).strides
  | openRing given g => exact (opens_openRing given g c.store).strides
  | build config => exact strides_build config c.store c.record
  | drop i =>
    simp only [after]
    cases c.tenants[i]? with
    | none => exact .refl
    | some t =>
      exact strides_steady ⟨⟨Nat.le_of_eq (t.count_drop c.store).symm,
        fun n _ => (t.object_drop c.store n).1⟩, t.names_drop c.store⟩
  | destroy i unlink =>
    simp only [after]
    split
    · rename_i v _
      have hdrop : Strides (c.store, c.record) (v.drop c.store, c.record) :=
        strides_steady (.drop v c.store)
      cases unlink with
      | false =>
        rw [if_neg Bool.false_ne_true, List.append_nil]
        exact hdrop
      | true =>
        have hunlink := strides_unlinkName (v.drop c.store) v.name c.record
        rw [if_pos rfl, View.destroy, if_pos rfl, unlink, v.name.ofString_full]
        exact hdrop.trans hunlink
    · exact .refl
  | unlink given =>
    simp only [after]
    rw [unlink]
    cases hname : SegmentName.ofString given with
    | error e =>
      dsimp only
      rw [removeMarks, List.append_nil]
      exact .refl
    | ok name =>
      dsimp only
      rw [removeMarks_full hname]
      exact strides_unlinkName c.store name c.record
  | write i offset bytes =>
    simp only [after]
    split
    · exact .refl
    · rename_i h _
      split
      · exact strides_steady (.of_within (h.within_write c.store offset bytes))
      · exact .refl
  | call i call =>
    simp only [after]
    split
    · exact .refl
    · rename_i v _
      exact strides_steady (.of_within (v.within_perform call c.store))
  | turn i role t =>
    simp only [after]
    split
    · rename_i channel _
      exact strides_steady (.of_within
        (Course.within_ownTurn { lane := channel.lane role, store := c.store } t).2)
    · exact .refl
  | fault f => exact strides_steady (.of_eq rfl rfl)

/-! ## Handles and the record -/

/-- **Nothing is struck from the record.** -/
theorem prefix_of_strides {x y : Store × List Mark} (h : Strides x y) : x.2 <+: y.2 := by
  induction h with
  | refl => exact List.prefix_rfl
  | tail _ hstride ih =>
    refine ih.trans ?_
    cases hstride with
    | steady h => exact List.prefix_rfl
    | granted hg => exact List.prefix_append ..
    | left hobjects hcreated => exact List.prefix_append ..
    | removed hr => exact List.prefix_append ..

/-- **Every handle that is held was returned by an open.** -/
def Recorded (c : Commons) : Prop := ∀ h ∈ c.handles, Mark.granted h ∈ c.record

section Handles

variable {c c' : Commons}

theorem mem_handles {h : Handle} : h ∈ c.handles ↔ ∃ t ∈ c.tenants, h ∈ t.handles :=
  List.mem_flatMap

/-- Handles that are held still are still on record. -/
theorem Recorded.of_subset (hc : c.Recorded) (hgrows : c.record <+: c'.record)
    (hsub : ∀ t ∈ c'.tenants, ∀ h ∈ t.handles,
      (∃ t' ∈ c.tenants, h ∈ t'.handles) ∨ Mark.granted h ∈ c'.record) : c'.Recorded := by
  intro h hh
  obtain ⟨t, ht, hheld⟩ := mem_handles.1 hh
  rcases hsub t ht h hheld with hold | hnew
  · exact hgrows.subset (hc h (mem_handles.2 hold))
  · exact hnew

/-- A tenant that comes in has handles that are on record. -/
theorem granted_of_newcomer {ε α : Type} {tenant : α → Tenant} {result : Except ε α} {t : Tenant}
    (ht : t ∈ newcomer tenant result) : ∃ a, result = .ok a ∧ t = tenant a := by
  cases result with
  | error e => cases ht
  | ok a => exact ⟨a, rfl, List.mem_singleton.1 ht⟩

theorem Recorded.after (hc : c.Recorded) (d : Dealing) : (c.after d).Recorded := by
  have hgrows := prefix_of_strides (strides_after c d)
  refine hc.of_subset hgrows fun t ht h hh => ?_
  cases d with
  | openSegment given size =>
    rcases List.mem_append.1 ht with hold | hnew
    · exact .inl ⟨t, hold, hh⟩
    · obtain ⟨k, hk, rfl⟩ := granted_of_newcomer hnew
      obtain rfl := List.mem_singleton.1 hh
      refine .inr (List.mem_append_right _ ?_)
      rw [hk]
      exact List.mem_singleton_self _
  | openRing given g =>
    rcases List.mem_append.1 ht with hold | hnew
    · exact .inl ⟨t, hold, hh⟩
    · obtain ⟨v, hv, rfl⟩ := granted_of_newcomer hnew
      obtain rfl := List.mem_singleton.1 hh
      refine .inr (List.mem_append_right _ ?_)
      rw [hv]
      exact List.mem_singleton_self _
  | build config =>
    rcases List.mem_append.1 ht with hold | hnew
    · exact .inl ⟨t, hold, hh⟩
    · obtain ⟨channel, hchannel, rfl⟩ := granted_of_newcomer hnew
      obtain ⟨s₁, s₂, hbuilt⟩ := Channel.built_of_build (Prod.ext hchannel rfl)
      refine .inr (List.mem_append_right _ ?_)
      rw [buildMarks_of_opened hbuilt.inbound hbuilt.outbound]
      rcases List.mem_cons.1 hh with rfl | hh
      · exact List.mem_cons_self ..
      · obtain rfl := List.mem_singleton.1 hh
        exact List.mem_cons_of_mem _ (List.mem_singleton_self _)
  | drop i =>
    simp only [Commons.after] at ht
    split at ht
    · exact .inl ⟨t, ht, hh⟩
    · exact .inl ⟨t, List.mem_of_mem_eraseIdx ht, hh⟩
  | destroy i unlink =>
    simp only [Commons.after] at ht
    split at ht
    · exact .inl ⟨t, List.mem_of_mem_eraseIdx ht, hh⟩
    · exact .inl ⟨t, ht, hh⟩
  | unlink given => exact .inl ⟨t, ht, hh⟩
  | write i offset bytes =>
    simp only [Commons.after] at ht
    split at ht
    · exact .inl ⟨t, ht, hh⟩
    · split at ht <;> exact .inl ⟨t, ht, hh⟩
  | call i call =>
    simp only [Commons.after] at ht
    split at ht <;> exact .inl ⟨t, ht, hh⟩
  | turn i role turn =>
    simp only [Commons.after] at ht
    split at ht
    · rename_i channel hi
      rcases List.mem_or_eq_of_mem_set ht with hold | rfl
      · exact .inl ⟨t, hold, hh⟩
      · -- the lane that has moved is on the ring that it was on
        refine .inl ⟨.channel channel, List.mem_of_getElem? hi, ?_⟩
        exact channel.handles_turn role turn c.store ▸ hh
    · exact .inl ⟨t, ht, hh⟩
  | fault f => exact .inl ⟨t, ht, hh⟩

end Handles

end Commons

end TwinRing
