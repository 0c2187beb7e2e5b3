import Mathlib.Data.Nat.ModEq
import TwinRing.Proofs.Ring.Band
/-!
# Rings — the list of unread elements

`contents` reads the unread elements off an object: as many as the
distance of the indices has room for, each a window that begins where a
counter points. The state that every operation keeps is `Orderly`: the
distance is a whole number of elements, and no more than the ring holds.
One lemma for each operation says what it does to that list. The write of
a new element is the one that could disturb it, and does not:
`contents_enqueue` shows its window apart from all unread ones, wherever
the indices stand.
-/

namespace TwinRing

namespace Ring

def unreadCount (g : Geometry) (o : Object) : Nat :=
  ((writeIndex o).toNat - (readIndex o).toNat) / g.elementSize.toNat

/-- So many elements in a row, from where a counter points on. -/
def elements (g : Geometry) (o : Object) (counter : Nat) : Nat → List Bytes
  | 0 => []
  | count + 1 =>
    window g o counter g.elementSize.toNat :: elements g o (counter + g.elementSize.toNat) count

/-- **The unread elements**, the oldest first. -/
def contents (g : Geometry) (o : Object) : List Bytes :=
  elements g o (readIndex o).toNat (unreadCount g o)

/-- **A ring in order**: its lock can be taken, and the indices are a whole
number of elements apart, no more than it holds. -/
structure Orderly (g : Geometry) (o : Object) : Prop where
  lock : o.lock = .sound
  /-- The write index is ahead by the unread elements. -/
  distance : (writeIndex o).toNat =
    (readIndex o).toNat + unreadCount g o * g.elementSize.toNat
  /-- There are no more of them than the ring holds. -/
  room : unreadCount g o ≤ g.capacity.toNat

variable {g : Geometry} {o : Object} {element buffer : Bytes}

/-! ## Elements in a row -/

section Elements

variable {o' : Object} {counter count : Nat}

@[simp] theorem length_elements : (elements g o counter count).length = count := by
  induction count generalizing counter with
  | zero => rfl
  | succ count ih => rw [elements, List.length_cons, ih]

/-- The last of the elements begins where the others end. -/
theorem elements_succ :
    elements g o counter (count + 1) = elements g o counter count ++
      [window g o (counter + count * g.elementSize.toNat) g.elementSize.toNat] := by
  induction count generalizing counter with
  | zero => simp only [elements, Nat.zero_mul, Nat.add_zero, List.nil_append]
  | succ count ih =>
    rw [elements, ih, elements, List.cons_append, Nat.succ_mul,
      show counter + g.elementSize.toNat + count * g.elementSize.toNat =
        counter + (count * g.elementSize.toNat + g.elementSize.toNat) by omega]

theorem elements_congr
    (same : ∀ i < count, window g o (counter + i * g.elementSize.toNat) g.elementSize.toNat =
      window g o' (counter + i * g.elementSize.toNat) g.elementSize.toNat) :
    elements g o counter count = elements g o' counter count := by
  induction count generalizing counter with
  | zero => rfl
  | succ count ih =>
    rw [elements_succ, elements_succ, ih fun i hi => same i (by omega), same count (by omega)]

end Elements

@[simp] theorem length_contents : (contents g o).length = unreadCount g o := length_elements

/-! ## Indices after a change -/

section Indices

variable {w : UInt64}

@[simp] theorem readIndex_setReadIndex : readIndex (o.setWord Header.readIndex w) = w :=
  Object.wordAt_setWord_self o _ w

@[simp] theorem writeIndex_setReadIndex :
    writeIndex (o.setWord Header.readIndex w) = writeIndex o :=
  Object.wordAt_setWord_of_disjoint (.inr (by decide))

@[simp] theorem writeIndex_setWriteIndex : writeIndex (o.setWord Header.writeIndex w) = w :=
  Object.wordAt_setWord_self o _ w

@[simp] theorem readIndex_setWriteIndex :
    readIndex (o.setWord Header.writeIndex w) = readIndex o :=
  Object.wordAt_setWord_of_disjoint (.inl (by decide))

@[simp] theorem bandByte_setReadIndex {k : Nat} :
    bandByte g (o.setWord Header.readIndex w) k = bandByte g o k :=
  Object.byteAt_setWord_of_outside (.inr (by unfold Header.readIndex Header.size; omega))

@[simp] theorem bandByte_setWriteIndex {k : Nat} :
    bandByte g (o.setWord Header.writeIndex w) k = bandByte g o k :=
  Object.byteAt_setWord_of_outside (.inr (by unfold Header.writeIndex Header.size; omega))

@[simp] theorem lock_setReadIndex : (o.setWord Header.readIndex w).lock = o.lock :=
  Object.lock_setWord_of_le (by decide)

@[simp] theorem lock_setWriteIndex : (o.setWord Header.writeIndex w).lock = o.lock :=
  Object.lock_setWord_of_le (by decide)

end Indices

/-! ## The copy of a new element -/

section Copy

variable {position : Nat}

/-- A copy into the band leaves the header alone. -/
theorem header_copyIn (hp : position < g.bandSize.toNat)
    (hl : element.length ≤ g.bandSize.toNat) :
    readIndex (copyIn g position element o) = readIndex o ∧
      writeIndex (copyIn g position element o) = writeIndex o ∧
      (copyIn g position element o).lock = o.lock := by
  have kept : ∀ place < Header.size,
      (copyIn g position element o).byteAt place = o.byteAt place :=
    fun place h => byteAt_copyIn_of_outside hp hl (.inl h)
  have word : ∀ offset, offset + 8 ≤ Header.size →
      (copyIn g position element o).wordAt offset = o.wordAt offset := fun offset h => by
    rw [Object.wordAt, Object.wordAt, Object.read_eq_read fun i hi => kept _ (by omega)]
  exact ⟨word _ (by decide), word _ (by decide),
    congrArg Lock.ofKind (kept _ (by decide))⟩

/-- What was copied in is the window that begins there. -/
theorem window_copyIn_self {counter : Nat} (hp : 0 < g.bandSize.toNat)
    (hl : element.length ≤ g.bandSize.toNat) :
    window g (copyIn g (counter % g.bandSize.toNat) element o) counter element.length =
      element := by
  apply List.ext_getElem
  · rw [length_window]
  · intro i hi hi'
    have hbyte := byteAt_copyIn_of_lt (o := o) (Nat.mod_lt counter hp) hl hi'
    rw [Nat.mod_add_mod, List.getD_eq_getElem _ _ hi'] at hbyte
    simp only [window, List.getElem_map, List.getElem_range]
    exact hbyte

/-- **A window within one lap before the copy is not touched by it.** -/
theorem window_copyIn_of_lap {counter from' length : Nat} (hp : 0 < g.bandSize.toNat)
    (hl : element.length ≤ g.bandSize.toNat) (before : from' + length ≤ counter)
    (lap : counter + element.length ≤ from' + g.bandSize.toNat) :
    window g (copyIn g (counter % g.bandSize.toNat) element o) from' length =
      window g o from' length := by
  refine window_congr fun i hi => ?_
  refine byteAt_copyIn_of_forall_ne (Nat.mod_lt counter hp) hl fun j hj heq => ?_
  -- two counters less than a lap apart point at different bytes
  rw [Nat.mod_add_mod] at heq
  have hsame : (from' + i) % g.bandSize.toNat = (counter + j) % g.bandSize.toNat := by omega
  have hdvd := (Nat.modEq_iff_dvd' (by omega : from' + i ≤ counter + j)).1 hsame
  have := Nat.le_of_dvd (by omega) hdvd
  omega

end Copy

/-! ## What the operations do to the list -/

/-- A state is in order as soon as its indices are a whole number of
elements apart, and then that number is how many are unread. -/
theorem orderly_of_distance (hv : g.Valid) {k : Nat} (hlock : o.lock = .sound)
    (hk : k ≤ g.capacity.toNat)
    (hdist : (writeIndex o).toNat = (readIndex o).toNat + k * g.elementSize.toNat) :
    Orderly g o ∧ unreadCount g o = k := by
  have hcount : unreadCount g o = k := by
    rw [unreadCount, hdist, Nat.add_sub_cancel_left, Nat.mul_div_cancel _ hv.elementSize_pos]
  exact ⟨⟨hlock, by rw [hcount]; exact hdist, by rw [hcount]; exact hk⟩, hcount⟩

namespace Orderly

variable (ho : Orderly g o)
include ho

theorem readIndex_le : (readIndex o).toNat ≤ (writeIndex o).toNat := by
  have := ho.distance; omega

/-- The distance as the operations take it, modulo the word. -/
theorem toNat_sub :
    (writeIndex o - readIndex o).toNat = unreadCount g o * g.elementSize.toNat := by
  rw [UInt64.toNat_sub_of_le _ _ (UInt64.le_iff_toNat_le.2 ho.readIndex_le), ho.distance,
    Nat.add_sub_cancel_left]

/-- The ring has room exactly while the list is shorter than it may be. -/
theorem bandSize_le_sub_iff (hv : g.Valid) :
    g.bandSize ≤ writeIndex o - readIndex o ↔ g.capacity.toNat ≤ (contents g o).length := by
  rw [UInt64.le_iff_toNat_le, ho.toNat_sub, hv.bandSize_toNat, length_contents]
  exact Nat.mul_le_mul_right_iff hv.elementSize_pos

/-- The ring has an element exactly if the list has one. -/
theorem writeIndex_le_iff (hv : g.Valid) :
    writeIndex o ≤ readIndex o ↔ contents g o = [] := by
  rw [UInt64.le_iff_toNat_le, ← List.length_eq_zero_iff, length_contents, ho.distance]
  have := hv.elementSize_pos
  constructor
  · intro h
    by_contra hne
    have := Nat.mul_pos (Nat.pos_of_ne_zero hne) this
    omega
  · intro h
    rw [h]; omega

end Orderly

/-! ### Putting in -/

theorem enqueue_of_full (hv : g.Valid) (ho : Orderly g o)
    (hx : element.length = g.elementSize.toNat)
    (hfull : g.capacity.toNat ≤ (contents g o).length) :
    enqueue g element o = (.refused, o) := by
  have hlock : o.lock ≠ .broken := by rw [ho.lock]; decide
  simp only [enqueue]
  rw [if_neg (not_not.2 hx), if_neg hlock, if_pos ((ho.bandSize_le_sub_iff hv).2 hfull)]

theorem enqueue_of_room (hv : g.Valid) (ho : Orderly g o)
    (hx : element.length = g.elementSize.toNat)
    (hroom : (contents g o).length < g.capacity.toNat) :
    enqueue g element o = (.moved,
      (copyIn g ((writeIndex o).toNat % g.bandSize.toNat) element o).setWord Header.writeIndex
        (writeIndex o + g.elementSize)) := by
  have hlock : o.lock ≠ .broken := by rw [ho.lock]; decide
  have hplace : (writeIndex o % g.bandSize).toNat = (writeIndex o).toNat % g.bandSize.toNat :=
    UInt64.toNat_mod _ _
  simp only [enqueue]
  rw [if_neg (not_not.2 hx), if_neg hlock,
    if_neg (fun h => absurd ((ho.bandSize_le_sub_iff hv).1 h) (by omega)), hplace]

/-- **What is put in comes last**, and the elements before it are not
touched. -/
theorem contents_enqueue (hv : g.Valid) (ho : Orderly g o)
    (hx : element.length = g.elementSize.toNat)
    (hroom : (contents g o).length < g.capacity.toNat)
    (hbound : (writeIndex o).toNat + g.elementSize.toNat < UInt64.size) :
    Orderly g (enqueue g element o).2 ∧
      contents g (enqueue g element o).2 = contents g o ++ [element] ∧
      (writeIndex (enqueue g element o).2).toNat =
        (writeIndex o).toNat + g.elementSize.toNat := by
  rw [enqueue_of_room hv ho hx hroom]
  have hfits : element.length ≤ g.bandSize.toNat := by
    rw [hx]; exact hv.elementSize_le_bandSize
  obtain ⟨hread, -, hlock⟩ :=
    header_copyIn (o := o) (Nat.mod_lt (writeIndex o).toNat hv.bandSize_pos) hfits
  set copied := copyIn g ((writeIndex o).toNat % g.bandSize.toNat) element o with hcopied
  set next := copied.setWord Header.writeIndex (writeIndex o + g.elementSize) with hnext
  have hreadNext : readIndex next = readIndex o := by rw [hnext, readIndex_setWriteIndex, hread]
  have hwriteNext : (writeIndex next).toNat = (writeIndex o).toNat + g.elementSize.toNat := by
    rw [hnext, writeIndex_setWriteIndex, UInt64.toNat_add, Nat.mod_eq_of_lt hbound]
  rw [length_contents] at hroom
  have hdist := ho.distance
  obtain ⟨hord, hcount⟩ := orderly_of_distance (o := next) (k := unreadCount g o + 1) hv
    (by rw [hnext, lock_setWriteIndex, hlock, ho.lock]) hroom
    (by rw [hwriteNext, hreadNext, Nat.add_mul, Nat.one_mul]; omega)
  refine ⟨hord, ?_, hwriteNext⟩
  -- the index lies before the band, so storing it moves no window
  have hsame : ∀ counter length, window g next counter length = window g copied counter length :=
    fun counter length => window_congr fun i _ => bandByte_setWriteIndex
  -- from the oldest element to the end of the new one it is a lap at most
  have hlap : unreadCount g o * g.elementSize.toNat + g.elementSize.toNat ≤ g.bandSize.toNat := by
    rw [hv.bandSize_toNat, ← Nat.succ_mul]
    exact Nat.mul_le_mul_right _ hroom
  have hold : elements g next (readIndex o).toNat (unreadCount g o) = contents g o := by
    refine elements_congr fun i hi => ?_
    have hbefore : i * g.elementSize.toNat + g.elementSize.toNat ≤
        unreadCount g o * g.elementSize.toNat := by
      rw [← Nat.succ_mul]; exact Nat.mul_le_mul_right _ hi
    rw [hsame]
    exact window_copyIn_of_lap hv.bandSize_pos hfits (by omega) (by omega)
  have hlast : window g next (writeIndex o).toNat g.elementSize.toNat = element := by
    rw [hsame, ← hx]
    exact window_copyIn_self hv.bandSize_pos hfits
  rw [contents, hcount, hreadNext, elements_succ, hold, ← hdist, hlast]

/-! ### Taking out -/

theorem dequeue_of_nil (hv : g.Valid) (ho : Orderly g o)
    (hb : buffer.length = g.elementSize.toNat) (hnil : contents g o = []) :
    dequeue g buffer o = (.refused, buffer, o) := by
  have hlock : o.lock ≠ .broken := by rw [ho.lock]; decide
  simp only [dequeue]
  rw [if_neg (not_not.2 hb), if_neg hlock, if_pos ((ho.writeIndex_le_iff hv).2 hnil)]

section Dequeue

variable {x : Bytes} {rest : List Bytes}

/-- A list of unread elements, cut after its first. -/
theorem unreadCount_of_cons (hcons : contents g o = x :: rest) :
    unreadCount g o = rest.length + 1 ∧
      window g o (readIndex o).toNat g.elementSize.toNat = x ∧
      elements g o ((readIndex o).toNat + g.elementSize.toNat) rest.length = rest := by
  have hcount : unreadCount g o = rest.length + 1 := by
    rw [← length_contents, hcons, List.length_cons]
  rw [contents, hcount, elements] at hcons
  exact ⟨hcount, List.cons.inj hcons⟩

/-- **What is taken out is the oldest element.** -/
theorem dequeue_of_cons (hv : g.Valid) (ho : Orderly g o)
    (hb : buffer.length = g.elementSize.toNat) (hcons : contents g o = x :: rest) :
    dequeue g buffer o =
      (.moved, x, o.setWord Header.readIndex (readIndex o + g.elementSize)) := by
  have hlock : o.lock ≠ .broken := by rw [ho.lock]; decide
  have hplace : (readIndex o % g.bandSize).toNat = (readIndex o).toNat % g.bandSize.toNat :=
    UInt64.toNat_mod _ _
  have hfirst : copyOut g ((readIndex o).toNat % g.bandSize.toNat) buffer.length o = x := by
    rw [copyOut_eq_window (Nat.mod_lt _ hv.bandSize_pos)
      (by rw [hb]; exact hv.elementSize_le_bandSize), window_mod, hb]
    exact (unreadCount_of_cons hcons).2.1
  have hsome : ¬ writeIndex o ≤ readIndex o := fun h => by
    rw [(ho.writeIndex_le_iff hv).1 h] at hcons
    cases hcons
  simp only [dequeue]
  rw [if_neg (not_not.2 hb), if_neg hlock, if_neg hsome, hplace, hfirst]

/-- **And the others stay.** -/
theorem contents_dequeue (hv : g.Valid) (ho : Orderly g o)
    (hb : buffer.length = g.elementSize.toNat) (hcons : contents g o = x :: rest) :
    Orderly g (dequeue g buffer o).2.2 ∧ contents g (dequeue g buffer o).2.2 = rest ∧
      writeIndex (dequeue g buffer o).2.2 = writeIndex o := by
  rw [dequeue_of_cons hv ho hb hcons]
  obtain ⟨hk, -, hrest⟩ := unreadCount_of_cons hcons
  have hdist := ho.distance
  rw [hk, Nat.add_mul, Nat.one_mul] at hdist
  set next := o.setWord Header.readIndex (readIndex o + g.elementSize) with hnext
  have hwriteNext : writeIndex next = writeIndex o := writeIndex_setReadIndex
  have hreadNext : (readIndex next).toNat = (readIndex o).toNat + g.elementSize.toNat := by
    have := (writeIndex o).toNat_lt
    rw [hnext, readIndex_setReadIndex, UInt64.toNat_add, Nat.mod_eq_of_lt (by omega)]
  have hroom := ho.room
  obtain ⟨hord, hcount⟩ := orderly_of_distance (o := next) (k := rest.length) hv
    (by rw [hnext, lock_setReadIndex, ho.lock]) (by omega)
    (by rw [hwriteNext, hreadNext]; omega)
  refine ⟨hord, ?_, hwriteNext⟩
  rw [contents, hcount, hreadNext]
  refine Eq.trans ?_ hrest
  exact elements_congr fun i _ => window_congr fun j _ => bandByte_setReadIndex

end Dequeue

/-! ### Clearing and counting -/

/-- **Clearing brings the indices together**, whatever they were. -/
theorem readIndex_clear (hlock : o.lock = .sound) :
    readIndex (clear o) = writeIndex o ∧ writeIndex (clear o) = writeIndex o ∧
      (clear o).lock = .sound := by
  have hlock' : o.lock ≠ .broken := by rw [hlock]; decide
  rw [clear, if_neg hlock']
  exact ⟨readIndex_setReadIndex, writeIndex_setReadIndex, by rw [lock_setReadIndex, hlock]⟩

/-- A ring whose indices are equal is empty. -/
theorem contents_of_readIndex_eq (heq : readIndex o = writeIndex o) : contents g o = [] := by
  rw [contents, unreadCount, heq, Nat.sub_self, Nat.zero_div]
  rfl

/-- It is in order, aligned or not. -/
theorem orderly_of_readIndex_eq (hv : g.Valid) (hlock : o.lock = .sound)
    (heq : readIndex o = writeIndex o) : Orderly g o :=
  (orderly_of_distance (k := 0) hv hlock (Nat.zero_le _)
    (by rw [heq, Nat.zero_mul, Nat.add_zero])).1

/-- **The length that is told is that of the list.** -/
theorem toNat_length (hv : g.Valid) (ho : Orderly g o) :
    (length g o).toNat = (contents g o).length := by
  have hlock : o.lock ≠ .broken := by rw [ho.lock]; decide
  rw [length, if_neg hlock, UInt64.toNat_div, ho.toNat_sub,
    Nat.mul_div_cancel _ hv.elementSize_pos, length_contents]

end Ring

end TwinRing
