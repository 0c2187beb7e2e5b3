import TwinRing.Channel
import TwinRing.Proofs.Ring.Mapping
/-!
# The store — bytes that change

Whoever works on an open segment changes bytes of its object, and that is
all: names, sizes, and what is open and mapped stay as they are. `Within`
says so of two stores, with a list of the objects whose bytes may differ.
It holds of every write through a handle, every call through a view and
every step of a lane, whatever these find in the memory.
-/

namespace TwinRing

namespace Store

variable {s s' s'' : Store} {n m : Nat} {reach reach' : List Nat} {o : Object}

/-- **Nothing has changed but bytes** of these objects. -/
structure Within (reach : List Nat) (s s' : Store) : Prop where
  names : s'.names = s.names
  count : s'.objects.size = s.objects.size
  descriptors : s'.descriptors = s.descriptors
  mappings : s'.mappings = s.mappings
  faults : s'.faults = s.faults
  sizes : ∀ n, (s'.object n).size = (s.object n).size
  /-- All other objects have the bytes that they had. -/
  others : ∀ n, n ∉ reach → s'.object n = s.object n

namespace Within

theorem refl : Within reach s s := ⟨rfl, rfl, rfl, rfl, rfl, fun _ => rfl, fun _ _ => rfl⟩

theorem trans (h : Within reach s s') (h' : Within reach s' s'') : Within reach s s'' :=
  ⟨h'.names.trans h.names, h'.count.trans h.count, h'.descriptors.trans h.descriptors,
    h'.mappings.trans h.mappings, h'.faults.trans h.faults,
    fun n => (h'.sizes n).trans (h.sizes n),
    fun n hn => (h'.others n hn).trans (h.others n hn)⟩

theorem mono (h : Within reach s s') (hsub : reach ⊆ reach') : Within reach' s s' :=
  ⟨h.names, h.count, h.descriptors, h.mappings, h.faults, h.sizes,
    fun n hn => h.others n fun hin => hn (hsub hin)⟩

theorem lookup (h : Within reach s s') (name : SegmentName) : s'.lookup name = s.lookup name := by
  rw [Store.lookup, Store.lookup, h.names]

/-- What is reported is no change. -/
theorem of_journal (journal : Journal) : Within reach s { s with journal } :=
  ⟨rfl, rfl, rfl, rfl, rfl, fun _ => rfl, fun _ _ => rfl⟩

end Within

/-- A number that was never given out has an empty object. -/
theorem object_of_le (h : s.objects.size ≤ n) : s.object n = {} := by
  rw [object, Array.getD_eq_getD_getElem?, Array.getElem?_eq_none h]
  rfl

/-- **A change that keeps the size of an object** reaches no further. -/
theorem within_modifyObject {change : Object → Object} (h : ∀ o, (change o).size = o.size) :
    Within [n] s (s.modifyObject n change) :=
  ⟨rfl, size_modifyObject, rfl, rfl, rfl, fun _ => size_object_modifyObject h,
    fun _ hm => object_modifyObject_of_ne fun heq => hm (List.mem_singleton.2 heq.symm)⟩

theorem within_setObject (h : o.size = (s.object n).size) : Within [n] s (s.setObject n o) := by
  refine ⟨rfl, size_setObject, rfl, rfl, rfl, fun m => ?_,
    fun m hm => object_setObject_of_ne fun heq => hm (List.mem_singleton.2 heq.symm)⟩
  by_cases hsame : n = m
  · subst hsame
    by_cases live : n < s.objects.size
    · rw [object_setObject_self live, h]
    · have hgone := Nat.le_of_not_lt live
      rw [object_of_le hgone, object_of_le (size_setObject.trans_le hgone)]
  · rw [object_setObject_of_ne hsame]

end Store

open Store (Within)

/-! ## Handles and views -/

theorem Handle.within_write (h : Handle) (s : Store) (offset : Nat) (bytes : Bytes) :
    Within [h.object] s (h.write s offset bytes) :=
  Store.within_modifyObject fun _ => Object.size_write offset bytes

/-- **A call through a view** changes bytes of its object, and no others. -/
theorem View.within_perform (v : View) (call : RingCall) (s : Store) :
    Within [v.handle.object] s (v.perform call s).2 := by
  have hsize := Ring.size_perform v.geometry call (v.object s)
  cases call with
  | enqueue element =>
    rw [perform, enqueue_eq]
    exact (Store.within_setObject hsize).trans (.of_journal _)
  | dequeue buffer =>
    rw [perform, dequeue_eq]
    exact (Store.within_setObject hsize).trans (.of_journal _)
  | clear => exact (Store.within_setObject hsize).trans (.of_journal _)
  | length => exact .of_journal _
  | isEmpty => exact .of_journal _
  | isFull => exact .of_journal _

theorem Channel.within_clearIf (asked : Bool) (v : View) (s : Store) :
    Within [v.handle.object] s (clearIf asked v s) := by
  cases asked with
  | false => exact .refl
  | true => exact v.within_perform .clear s

/-! ## Lanes -/

theorem Ring.size_serve (role : Role) (g : Geometry) (buffer : Bytes) (o : Object) :
    (serve role g buffer o).2.2.size = o.size := by
  cases role with
  | writer => exact size_perform g (.enqueue buffer) o
  | reader => exact size_perform g (.dequeue buffer) o

namespace Lane

variable {l l' : Lane} {s s' : Store}

/-- **A step of the worker** changes bytes of the lane's object at most,
and none unless it was about to go to the ring. -/
theorem within_workerStep (l : Lane) (s : Store) :
    Within [l.view.handle.object] s (l.workerStep s).2 ∧
      ((∀ buffer, l.handshake.worker ≠ some (.serving buffer)) → (l.workerStep s).2 = s) := by
  unfold workerStep
  split
  · rename_i buffer hserving
    refine ⟨?_, fun hnot => absurd hserving (hnot buffer)⟩
    rw [Store.updateObject_eq]
    exact Store.within_setObject (Ring.size_serve l.role l.view.geometry buffer _)
  · exact ⟨.refl, fun _ => rfl⟩
  · exact ⟨.refl, fun _ => rfl⟩

theorem view_workerStep (l : Lane) (s : Store) : (l.workerStep s).1.view = l.view := by
  unfold workerStep
  split <;> rfl

/-- **A step of some thread** is one of the worker's or one of a call's. -/
theorem stepAny_cases (h : l.stepAny s = some (l', s')) :
    l.workerStep s = (l', s') ∨ ∃ ticket, l.callStep ticket = l' ∧ s' = s := by
  have called : stepAny.stepCall l s = some (l', s') →
      ∃ ticket, l.callStep ticket = l' ∧ s' = s := fun hcall => by
    obtain ⟨k, -, hk⟩ := Option.map_eq_some_iff.1 hcall
    cases hk
    exact ⟨k.ticket, rfl, rfl⟩
  unfold stepAny at h
  split at h
  · split at h
    · exact .inr (called h)
    · exact .inl (Option.some.inj h)
  · exact .inr (called h)

/-- **What every step of a lane keeps** holds when it has settled. -/
theorem steps_induction {P : Lane → Store → Prop}
    (worker : ∀ l s, P l s → P (l.workerStep s).1 (l.workerStep s).2)
    (call : ∀ l s ticket, P l s → P (l.callStep ticket) s) (n : Nat) {l : Lane} {s : Store}
    (h : P l s) : P (steps n l s).1 (steps n l s).2 := by
  induction n generalizing l s with
  | zero => exact h
  | succ n ih =>
    rw [steps]
    cases hstep : l.stepAny s with
    | none => exact h
    | some next =>
      obtain ⟨l', s'⟩ := next
      refine ih ?_
      rcases stepAny_cases hstep with hworker | ⟨ticket, rfl, rfl⟩
      · have hnext := worker l s h
        rwa [hworker] at hnext
      · exact call l s' ticket h

/-- **A lane that settles** stays on its ring and changes bytes of that
object at most. -/
theorem within_steps (n : Nat) (l : Lane) (s : Store) :
    (steps n l s).1.view = l.view ∧ Within [l.view.handle.object] s (steps n l s).2 :=
  steps_induction (P := fun l' s' => l'.view = l.view ∧ Within [l.view.handle.object] s s')
    (fun l' s' ⟨hview, hs⟩ => ⟨(view_workerStep l' s').trans hview,
      hs.trans (hview ▸ (within_workerStep l' s').1)⟩)
    (fun _ _ _ h => h) n ⟨rfl, .refl⟩

theorem within_signalExit (l : Lane) (s : Store) : (l.signalExit s).1.view = l.view ∧
    Within [l.view.handle.object] s (l.signalExit s).2 :=
  within_steps (l.onHandshake Handshake.signalExit).stepBound
    (l.onHandshake Handshake.signalExit) s

theorem within_join (l : Lane) (s : Store) :
    (l.join s).1.view = l.view ∧ Within [l.view.handle.object] s (l.join s).2 :=
  ⟨(within_signalExit l s).1, (within_signalExit l s).2.trans (.of_journal _)⟩

end Lane

end TwinRing
