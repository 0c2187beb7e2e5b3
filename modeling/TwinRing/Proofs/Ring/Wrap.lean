import TwinRing.Proofs.Ring.Fifo
/-!
# Rings — where the counters run over

The layout of a segment asks for less than `Orderly`: the distance of the
indices is taken modulo the word, so the write index may have run over
where the read index has not. `Spaced` is that state. Every operation
keeps it, and so do any calls through any views (`View.spaced_performAll`).
Counting, asking for room and putting in go by the distance alone, so they
agree in all of it. Taking out does not: it compares the
indices as they stand, and refuses while the write index is over and the
read index is not (`dequeue_of_wrapped`). `agrees_iff` marks the line.
-/

namespace TwinRing

namespace Ring

/-- **The indices of a ring as its segment may have them**: they are so
many elements apart, modulo the word, and no more than the ring holds. -/
structure Spaced (g : Geometry) (o : Object) (unread : Nat) : Prop where
  lock : o.lock = .sound
  /-- There are no more elements than the ring holds. -/
  room : unread ≤ g.capacity.toNat
  /-- The write index is ahead of the read index by the elements. -/
  distance : (writeIndex o - readIndex o).toNat = unread * g.elementSize.toNat

variable {g : Geometry} {o : Object} {unread : Nat} {element buffer : Bytes}

/-- A ring in order is one of these, with neither index over. -/
theorem Orderly.spaced (ho : Orderly g o) : Spaced g o (unreadCount g o) :=
  ⟨ho.lock, ho.room, ho.toNat_sub⟩

namespace Spaced

variable (h : Spaced g o unread)
include h

/-- **While neither index is over, or both are, the ring is in order.** -/
theorem orderly (hv : g.Valid) (hle : readIndex o ≤ writeIndex o) :
    Orderly g o ∧ unreadCount g o = unread := by
  refine orderly_of_distance hv h.lock h.room ?_
  have hdistance := h.distance
  have hword := UInt64.le_iff_toNat_le.1 hle
  rw [UInt64.toNat_sub_of_le _ _ hle] at hdistance
  omega

/-! ### Counting -/

/-- **The length is the number of elements**, wherever the indices
stand. -/
theorem toNat_length (hv : g.Valid) : (length g o).toNat = unread := by
  have hlock : o.lock ≠ .broken := by rw [h.lock]; decide
  rw [length, if_neg hlock, UInt64.toNat_div, h.distance,
    Nat.mul_div_cancel _ hv.elementSize_pos]

theorem isEmpty_eq_false_iff (hv : g.Valid) : isEmpty g o = false ↔ 0 < unread := by
  have hlength := h.toNat_length hv
  rw [isEmpty, beq_eq_false_iff_ne, ne_eq, ← UInt64.toNat_inj, hlength, UInt64.toNat_zero]
  omega

theorem isFull_eq_false_iff (hv : g.Valid) : isFull g o = false ↔ unread < g.capacity.toNat := by
  have hlength := h.toNat_length hv
  rw [isFull, decide_eq_false_iff_not, UInt64.le_iff_toNat_le, hlength, Nat.not_le]

/-! ### Putting in -/

/-- The test for room is the one that tells whether the ring is full. -/
theorem bandSize_le_sub_iff (hv : g.Valid) :
    g.bandSize ≤ writeIndex o - readIndex o ↔ g.capacity.toNat ≤ unread := by
  rw [UInt64.le_iff_toNat_le, h.distance, hv.bandSize_toNat]
  exact Nat.mul_le_mul_right_iff hv.elementSize_pos

theorem enqueue_of_full (hv : g.Valid) (hx : element.length = g.elementSize.toNat)
    (hfull : g.capacity.toNat ≤ unread) : enqueue g element o = (.refused, o) := by
  have hlock : o.lock ≠ .broken := by rw [h.lock]; decide
  simp only [enqueue]
  rw [if_neg (not_not.2 hx), if_neg hlock, if_pos ((h.bandSize_le_sub_iff hv).2 hfull)]

/-- **One element more**, also where the write index runs over in the
middle of it. -/
theorem enqueue_of_room (hv : g.Valid) (hx : element.length = g.elementSize.toNat)
    (hroom : unread < g.capacity.toNat) :
    (enqueue g element o).1 = .moved ∧ Spaced g (enqueue g element o).2 (unread + 1) := by
  have hlock : o.lock ≠ .broken := by rw [h.lock]; decide
  have hplace : (writeIndex o % g.bandSize).toNat < g.bandSize.toNat := by
    rw [UInt64.toNat_mod]; exact Nat.mod_lt _ hv.bandSize_pos
  have hfits : element.length ≤ g.bandSize.toNat := by
    rw [hx]; exact hv.elementSize_le_bandSize
  obtain ⟨hread, -, hlock'⟩ := header_copyIn (o := o) hplace hfits
  simp only [enqueue]
  rw [if_neg (not_not.2 hx), if_neg hlock,
    if_neg fun hfull => absurd ((h.bandSize_le_sub_iff hv).1 hfull) (by omega)]
  refine ⟨rfl, by rw [lock_setWriteIndex, hlock', h.lock], hroom, ?_⟩
  rw [writeIndex_setWriteIndex, readIndex_setWriteIndex, hread, Nat.succ_mul, ← h.distance]
  -- with one more element the distance still is within the band, so it adds up
  have hnext : (writeIndex o - readIndex o).toNat + g.elementSize.toNat ≤ g.bandSize.toNat := by
    rw [h.distance, ← Nat.succ_mul, hv.bandSize_toNat]
    exact Nat.mul_le_mul_right _ hroom
  have hband := g.bandSize.toNat_lt
  have hshift : writeIndex o + g.elementSize - readIndex o =
      writeIndex o - readIndex o + g.elementSize := by
    rw [UInt64.sub_eq_add_neg, UInt64.sub_eq_add_neg, UInt64.add_assoc, UInt64.add_assoc,
      UInt64.add_comm g.elementSize]
  rw [hshift, UInt64.toNat_add, Nat.mod_eq_of_lt (by omega)]

/-- **Putting in succeeds exactly if the ring does not tell that it is
full.** -/
theorem enqueue_isMoved_iff (hv : g.Valid) (hx : element.length = g.elementSize.toNat) :
    (enqueue g element o).1.isMoved = true ↔ isFull g o = false := by
  rw [h.isFull_eq_false_iff hv]
  rcases Nat.lt_or_ge unread g.capacity.toNat with hroom | hfull
  · rw [(h.enqueue_of_room hv hx hroom).1]
    exact iff_of_true rfl hroom
  · rw [h.enqueue_of_full hv hx hfull]
    exact iff_of_false Bool.false_ne_true (Nat.not_lt.2 hfull)

/-! ### Taking out -/

/-- Indices that are apart and in this order are those where the write
index is over and the read index is not. -/
theorem pos_of_wrapped (hwrapped : writeIndex o < readIndex o) : 0 < unread := by
  refine Nat.pos_of_ne_zero fun hzero => ?_
  have hdistance := h.distance
  rw [hzero, Nat.zero_mul] at hdistance
  have hlt := UInt64.lt_iff_toNat_lt.1 hwrapped
  have hbound := (readIndex o).toNat_lt
  rw [UInt64.toNat_sub] at hdistance
  omega

/-- **Over the end of the word nothing is taken out**, though the ring has
elements. -/
theorem dequeue_of_wrapped (hb : buffer.length = g.elementSize.toNat)
    (hwrapped : writeIndex o < readIndex o) : dequeue g buffer o = (.refused, buffer, o) := by
  have hlock : o.lock ≠ .broken := by rw [h.lock]; decide
  simp only [dequeue]
  rw [if_neg (not_not.2 hb), if_neg hlock, if_pos (UInt64.le_of_lt hwrapped)]

theorem dequeue_of_empty (hv : g.Valid) (hb : buffer.length = g.elementSize.toNat)
    (hzero : unread = 0) (hle : readIndex o ≤ writeIndex o) :
    dequeue g buffer o = (.refused, buffer, o) := by
  obtain ⟨ho, hcount⟩ := h.orderly hv hle
  refine dequeue_of_nil hv ho hb (List.length_eq_zero_iff.1 ?_)
  rw [length_contents, hcount, hzero]

theorem dequeue_of_unread (hv : g.Valid) (hb : buffer.length = g.elementSize.toNat)
    (hpos : 0 < unread) (hle : readIndex o ≤ writeIndex o) :
    (dequeue g buffer o).1 = .moved ∧ Spaced g (dequeue g buffer o).2.2 (unread - 1) := by
  obtain ⟨ho, hcount⟩ := h.orderly hv hle
  rw [← length_contents] at hcount
  obtain ⟨x, rest, hcons⟩ := List.exists_cons_of_length_pos (hcount ▸ hpos)
  obtain ⟨hord, hrest, -⟩ := contents_dequeue hv ho hb hcons
  have hspaced := hord.spaced
  rw [← length_contents, hrest] at hspaced
  rw [hcons, List.length_cons] at hcount
  have hone : unread - 1 = rest.length := by omega
  exact ⟨by rw [dequeue_of_cons hv ho hb hcons], by rw [hone]; exact hspaced⟩

/-- **Taking out goes by what the ring tells about being empty, as long as
the indices stand in this order.** -/
theorem dequeue_isMoved_iff (hv : g.Valid) (hb : buffer.length = g.elementSize.toNat) :
    ((dequeue g buffer o).1.isMoved = true ↔ isEmpty g o = false) ↔
      readIndex o ≤ writeIndex o := by
  rw [h.isEmpty_eq_false_iff hv]
  by_cases hle : readIndex o ≤ writeIndex o
  · refine iff_of_true ?_ hle
    rcases Nat.eq_zero_or_pos unread with hzero | hpos
    · rw [h.dequeue_of_empty hv hb hzero hle]
      exact iff_of_false Bool.false_ne_true (by omega)
    · rw [(h.dequeue_of_unread hv hb hpos hle).1]
      exact iff_of_true rfl hpos
  · -- the ring tells that it has elements, and gives none
    refine iff_of_false (fun hagree => ?_) hle
    have hwrapped := UInt64.not_le.1 hle
    have hmoved := hagree.2 (h.pos_of_wrapped hwrapped)
    rw [h.dequeue_of_wrapped hb hwrapped] at hmoved
    exact Bool.false_ne_true hmoved

/-! ### All calls -/

theorem clear : Spaced g (clear o) 0 := by
  obtain ⟨hread, hwrite, hlock⟩ := readIndex_clear h.lock
  refine ⟨hlock, Nat.zero_le _, ?_⟩
  rw [hread, hwrite, UInt64.sub_self, Nat.zero_mul, UInt64.toNat_zero]

/-- **No call leaves the state that the layout admits.** -/
theorem perform (hv : g.Valid) (call : RingCall) :
    ∃ unread', Spaced g (Ring.perform g call o).2 unread' := by
  cases call with
  | enqueue element =>
    by_cases hx : element.length = g.elementSize.toNat
    · rcases Nat.lt_or_ge unread g.capacity.toNat with hroom | hfull
      · exact ⟨_, (h.enqueue_of_room hv hx hroom).2⟩
      · refine ⟨unread, ?_⟩
        rw [Ring.perform, h.enqueue_of_full hv hx hfull]
        exact h
    · have hrefused : enqueue g element o = (.wrongLength, o) := if_pos hx
      refine ⟨unread, ?_⟩
      rw [Ring.perform, hrefused]
      exact h
  | dequeue buffer =>
    by_cases hb : buffer.length = g.elementSize.toNat
    · by_cases hle : readIndex o ≤ writeIndex o
      · rcases Nat.eq_zero_or_pos unread with hzero | hpos
        · refine ⟨unread, ?_⟩
          rw [Ring.perform, h.dequeue_of_empty hv hb hzero hle]
          exact h
        · exact ⟨_, (h.dequeue_of_unread hv hb hpos hle).2⟩
      · refine ⟨unread, ?_⟩
        rw [Ring.perform, h.dequeue_of_wrapped hb (UInt64.not_le.1 hle)]
        exact h
    · have hrefused : dequeue g buffer o = (.wrongLength, buffer, o) := if_pos hb
      refine ⟨unread, ?_⟩
      rw [Ring.perform, hrefused]
      exact h
  | clear => exact ⟨0, h.clear⟩
  | length => exact ⟨unread, h⟩
  | isEmpty => exact ⟨unread, h⟩
  | isFull => exact ⟨unread, h⟩

end Spaced

end Ring

/-! ## Through views -/

namespace View

open TwinRing.Ring (Spaced readIndex writeIndex)

variable {v : View} {g : Geometry} {number unread : Nat} {s : Store} {element buffer : Bytes}

/-- **The layout's state lasts**, whatever calls are made through whatever
views. -/
theorem spaced_performAll {calls : List (View × RingCall)}
    (hon : ∀ c ∈ calls, c.1.IsOn g number s) (h : Spaced g (s.object number) unread) :
    ∃ unread', Spaced g ((performAll calls s).2.object number) unread' := by
  induction calls generalizing s unread with
  | nil => exact ⟨unread, h⟩
  | cons c rest ih =>
    obtain ⟨v, call⟩ := c
    have hv := hon _ (List.mem_cons_self ..)
    obtain ⟨-, hobject, hsize⟩ := perform_eq hv call
    obtain ⟨unread', h'⟩ := h.perform hv.valid call
    refine ih (s := (v.perform call s).2) (fun c hc => ?_) (by rw [hobject]; exact h')
    have hrest := hon c (List.mem_cons_of_mem _ hc)
    exact ⟨hrest.geometry, hrest.object, hrest.valid, by rw [hsize]; exact hrest.live⟩

/-- **Where operations and observers agree.** In every state that the
layout of a segment admits, the length is the number of elements, putting
in succeeds exactly if the ring does not tell that it is full, and putting
in and taking out leave such a state. But taking out succeeds exactly if
the ring does not tell that it is empty in those states only where the
write index is not below the read index. -/
theorem agrees_iff (hon : v.IsOn g number s) (h : Spaced g (s.object number) unread)
    (hx : element.length = g.elementSize.toNat) (hb : buffer.length = g.elementSize.toNat) :
    (v.length s).1.toNat = unread ∧
      ((v.enqueue element s).1.isMoved = true ↔ (v.isFull s).1 = false) ∧
      (∃ unread', Spaced g ((v.enqueue element s).2.object number) unread') ∧
      (∃ unread', Spaced g ((v.dequeue buffer s).2.2.object number) unread') ∧
      (((v.dequeue buffer s).1.isMoved = true ↔ (v.isEmpty s).1 = false) ↔
        readIndex (s.object number) ≤ writeIndex (s.object number)) := by
  have hv := hon.valid
  have hlength : (v.length s).1 = Ring.length g (s.object number) := by
    rw [length, object, hon.geometry, hon.object]
  have hfull : (v.isFull s).1 = Ring.isFull g (s.object number) := by
    change decide (v.geometry.capacity ≤ (v.length s).1) = _
    rw [hlength, hon.geometry, Ring.isFull]
  have hempty : (v.isEmpty s).1 = Ring.isEmpty g (s.object number) := by
    change ((v.length s).1 == 0) = _
    rw [hlength, Ring.isEmpty]
  have hput : (v.enqueue element s).1 = (Ring.enqueue g element (s.object number)).1 := by
    rw [enqueue_eq, object, hon.geometry, hon.object]
  have htake : (v.dequeue buffer s).1 = (Ring.dequeue g buffer (s.object number)).1 := by
    rw [dequeue_eq, object, hon.geometry, hon.object]
  have kept : ∀ call, ∃ unread', Spaced g ((v.perform call s).2.object number) unread' :=
    fun call => (perform_eq hon call).2.1.symm ▸ h.perform hv call
  refine ⟨by rw [hlength, h.toNat_length hv], ?_, kept (.enqueue element),
    kept (.dequeue buffer), ?_⟩
  · rw [hput, hfull]
    exact h.enqueue_isMoved_iff hv hx
  · rw [htake, hempty]
    exact h.dequeue_isMoved_iff hv hb

/-- A ring of two elements of one byte, with one element in it: its write
index has just run over, and its read index stands at the last word. -/
def wrappedStore : Store := { objects := #[Ring.setIndices 0xffffffffffffffff 0 { size := 58 }] }

def wrappedView : View :=
  ⟨⟨⟨['w'], List.cons_ne_nil _ _, List.forall_mem_singleton.2 ⟨by decide, by decide⟩⟩,
    58, true, 0, 0⟩, ⟨2, 1⟩⟩

theorem agrees_iff_wrapped :
    (wrappedView.length wrappedStore).1.toNat = 1 ∧
      ((wrappedView.enqueue [7] wrappedStore).1.isMoved = true ↔
        (wrappedView.isFull wrappedStore).1 = false) ∧
      (∃ unread', Spaced ⟨2, 1⟩ ((wrappedView.enqueue [7] wrappedStore).2.object 0) unread') ∧
      (∃ unread', Spaced ⟨2, 1⟩ ((wrappedView.dequeue [0] wrappedStore).2.2.object 0) unread') ∧
      (((wrappedView.dequeue [0] wrappedStore).1.isMoved = true ↔
          (wrappedView.isEmpty wrappedStore).1 = false) ↔
        readIndex (wrappedStore.object 0) ≤ writeIndex (wrappedStore.object 0)) := by
  have hvalid : Geometry.Valid ⟨2, 1⟩ := ⟨by decide, by decide, by decide⟩
  exact agrees_iff ⟨rfl, rfl, hvalid, by decide⟩
    ⟨by decide +kernel, by decide, by decide +kernel⟩ rfl rfl

/-- **An element that is told and not given.** -/
theorem refuses_though_not_empty :
    Spaced ⟨2, 1⟩ (wrappedStore.object 0) 1 ∧
      (wrappedView.isEmpty wrappedStore).1 = false ∧
      (wrappedView.dequeue [0xaa] wrappedStore).1.isMoved = false :=
  ⟨⟨by decide +kernel, by decide, by decide +kernel⟩, by decide +kernel, by decide +kernel⟩

end View

end TwinRing
