import TwinRing.Ring.View
/-!
# The store — one object among the others

An operation on an object of the store changes that object and no other.
Views work on the store through these equations alone: each of their
operations is the ring's operation on the object of the view.
-/

namespace TwinRing

/-- A name of one letter. -/
def SegmentName.ofLetter (c : Char) (h : permits c = true) : SegmentName :=
  ⟨[c], List.cons_ne_nil _ _, List.forall_mem_singleton.2 (permits_iff.1 h)⟩

namespace Store

variable {s : Store} {n m : Nat} {o : Object} {change : Object → Object}

@[simp] theorem size_modifyObject : (s.modifyObject n change).objects.size = s.objects.size :=
  Array.size_modify

@[simp] theorem size_setObject : (s.setObject n o).objects.size = s.objects.size :=
  size_modifyObject

/-- **A change is made to the object it is for.** -/
theorem object_modifyObject_self (live : n < s.objects.size) :
    (s.modifyObject n change).object n = change (s.object n) := by
  simp only [object, modifyObject, Array.getD_eq_getD_getElem?, Array.getElem?_modify, if_true]
  rw [Array.getElem?_eq_getElem live]
  rfl

/-- **And to no other.** -/
theorem object_modifyObject_of_ne (h : n ≠ m) :
    (s.modifyObject n change).object m = s.object m := by
  simp only [object, modifyObject, Array.getD_eq_getD_getElem?, Array.getElem?_modify, if_neg h]

/-- A change that keeps the size of what it changes changes no size. -/
theorem size_object_modifyObject (h : ∀ o, (change o).size = o.size) :
    ((s.modifyObject n change).object m).size = (s.object m).size := by
  by_cases hsame : n = m
  · subst hsame
    by_cases live : n < s.objects.size
    · rw [object_modifyObject_self live, h]
    · -- there is no object to be changed
      have hnone : s.objects.modify n change = s.objects := by
        apply Array.ext
        · exact Array.size_modify
        · intro i _ hi
          rw [Array.getElem_modify, if_neg (by omega)]
      simp only [object, modifyObject, hnone]
  · rw [object_modifyObject_of_ne hsame]

theorem object_setObject_self (live : n < s.objects.size) : (s.setObject n o).object n = o :=
  object_modifyObject_self live

theorem object_setObject_of_ne (h : n ≠ m) : (s.setObject n o).object m = s.object m :=
  object_modifyObject_of_ne h

/-- To put in place of an object what is there changes nothing. -/
theorem setObject_object (s : Store) (n : Nat) : s.setObject n (s.object n) = s := by
  have hsame : s.objects.modify n (fun _ => s.object n) = s.objects := by
    refine Array.ext Array.size_modify fun i _ hi => ?_
    rw [Array.getElem_modify]
    split
    · rename_i heq
      simp only [object, heq, Array.getD_eq_getD_getElem?, Array.getElem?_eq_getElem hi,
        Option.getD_some]
    · rfl
  simp only [setObject, modifyObject, hsame]

end Store

/-! ## Views -/

namespace View

variable (v : View) (s : Store)

/-- To put in through a view is to put in on its object. -/
theorem enqueue_eq (element : Bytes) :
    v.enqueue element s = ((Ring.enqueue v.geometry element (v.object s)).1,
      (s.setObject v.handle.object (Ring.enqueue v.geometry element (v.object s)).2).report?
        (v.attemptReport? (Ring.enqueue v.geometry element (v.object s)).1)) := by
  simp only [enqueue, Store.updateObject_eq]
  rfl

/-- To take out through a view is to take out on its object. -/
theorem dequeue_eq (buffer : Bytes) :
    v.dequeue buffer s = ((Ring.dequeue v.geometry buffer (v.object s)).1,
      (Ring.dequeue v.geometry buffer (v.object s)).2.1,
      (s.setObject v.handle.object (Ring.dequeue v.geometry buffer (v.object s)).2.2).report?
        (v.attemptReport? (Ring.dequeue v.geometry buffer (v.object s)).1)) := by
  simp only [dequeue, Store.updateObject_eq]
  rfl

end View

end TwinRing
