import TwinRing.Proofs.Ring.Contents
import TwinRing.Proofs.Segment.Within
/-!
# Rings — what an operation does to every byte

Nothing is asked of the segment here: the indices may be any words, the
band may hold anything, and the segment may be larger than the ring that
is opened on it. An operation that moves an element changes the bytes of
the element, around the circle, and the eight bytes of one index. Clearing
changes the eight bytes of the read index. All else, and every refusal,
changes nothing.

Beside the copies of the ring, which go over the band in two runs at most,
stands `copyInEach`, which takes one byte after the other and finds the
place of each by a remainder. The two come to the same for every position
in the band and every length up to the whole of it.
-/

namespace TwinRing

/-! ## Places -/

namespace Object

variable {changed : Nat → Prop} {o o' o'' : Object}

/-- **Two objects are the same but at some places**: they have one size,
and the same byte at every other place. -/
structure SameBut (changed : Nat → Prop) (o o' : Object) : Prop where
  size : o'.size = o.size
  byte : ∀ place, ¬ changed place → o'.byteAt place = o.byteAt place

/-- The object is the same in every byte. -/
abbrev Same (o o' : Object) : Prop := SameBut (fun _ => False) o o'

theorem SameBut.trans (h : SameBut changed o o') (h' : SameBut changed o' o'') :
    SameBut changed o o'' :=
  ⟨h'.size.trans h.size, fun place hp => (h'.byte place hp).trans (h.byte place hp)⟩

theorem SameBut.mono {more : Nat → Prop} (h : SameBut changed o o')
    (hsub : ∀ place, changed place → more place) : SameBut more o o' :=
  ⟨h.size, fun place hp => h.byte place fun hin => hp (hsub place hin)⟩

/-- A word takes eight bytes. -/
def InWord (offset place : Nat) : Prop := offset ≤ place ∧ place < offset + 8

theorem sameBut_setWord (o : Object) (offset : Nat) (w : UInt64) :
    SameBut (InWord offset) o (o.setWord offset w) := by
  refine ⟨size_setWord offset w, fun place hp => byteAt_setWord_of_outside ?_⟩
  unfold InWord at hp
  omega

end Object

open Object (SameBut Same InWord)

namespace Ring

variable {g : Geometry} {o o' : Object} {element buffer bytes : Bytes} {position i : Nat}

/-- **The place of a byte of an element**, counted from where a counter
points. -/
def placeOf (g : Geometry) (counter i : Nat) : Nat :=
  Header.size + (counter % g.bandSize.toNat + i) % g.bandSize.toNat

/-- The places of so many bytes around the circle. -/
def OnArc (g : Geometry) (counter length place : Nat) : Prop :=
  ∃ i < length, place = placeOf g counter i

/-- A position in the band is a counter that points at itself. -/
theorem placeOf_of_lt (hp : position < g.bandSize.toNat) :
    placeOf g position i = Header.size + (position + i) % g.bandSize.toNat := by
  rw [placeOf, Nat.mod_eq_of_lt hp]

theorem placeOf_mod (counter : Nat) :
    placeOf g (counter % g.bandSize.toNat) i = placeOf g counter i := by
  rw [placeOf, placeOf, Nat.mod_mod]

theorem placeOf_succ (counter : Nat) : placeOf g (counter + 1) i = placeOf g counter (i + 1) := by
  rw [placeOf, placeOf, Nat.mod_add_mod, Nat.mod_add_mod, Nat.add_assoc, Nat.add_comm 1 i]

theorem size_le_placeOf (counter : Nat) : Header.size ≤ placeOf g counter i := Nat.le_add_right ..

/-- The index words lie before the band. -/
theorem not_inWord_placeOf {offset counter : Nat} (h : offset + 8 ≤ Header.size) :
    ¬ InWord offset (placeOf g counter i) := fun hin => by
  have hband := size_le_placeOf (g := g) (i := i) counter
  have hword := hin.2
  omega

/-- Less than a lap apart, two bytes have two places. -/
theorem placeOf_ne {counter j : Nat} (hij : i < j) (hlap : j < g.bandSize.toNat) :
    placeOf g counter i ≠ placeOf g counter j := fun heq => by
  have hsame : (counter + i) % g.bandSize.toNat = (counter + j) % g.bandSize.toNat := by
    rw [placeOf, placeOf, Nat.mod_add_mod, Nat.mod_add_mod] at heq
    omega
  have hdvd := (Nat.modEq_iff_dvd' (by omega : counter + i ≤ counter + j)).1 hsame
  have := Nat.le_of_dvd (by omega) hdvd
  omega

/-! ## Byte after byte -/

/-- **Write bytes one after the other**, each at the place that its
remainder gives. -/
def copyInEach (g : Geometry) (position : Nat) : Bytes → Object → Object
  | [], o => o
  | b :: rest, o => copyInEach g (position + 1) rest (o.write (placeOf g position 0) [b])

/-- Only the arc changes. -/
theorem sameBut_copyInEach :
    SameBut (OnArc g position bytes.length) o (copyInEach g position bytes o) := by
  induction bytes generalizing position o with
  | nil => exact ⟨rfl, fun _ _ => rfl⟩
  | cons b rest ih =>
    have hfirst : SameBut (OnArc g position (rest.length + 1)) o
        (o.write (placeOf g position 0) [b]) := by
      refine ⟨Object.size_write _ _, fun place hp => Object.byteAt_write_of_outside ?_⟩
      have hne : place ≠ placeOf g position 0 := fun heq => hp ⟨0, Nat.succ_pos _, heq⟩
      rw [List.length_singleton]
      omega
    refine hfirst.trans (ih.mono ?_)
    rintro place ⟨i, hi, rfl⟩
    exact ⟨i + 1, Nat.succ_lt_succ hi, placeOf_succ position⟩

/-- **Every byte lands at its place**, up to a whole lap. -/
theorem byteAt_copyInEach (hl : bytes.length ≤ g.bandSize.toNat) (hi : i < bytes.length) :
    (copyInEach g position bytes o).byteAt (placeOf g position i) = bytes[i] := by
  induction bytes generalizing position o i with
  | nil => cases hi
  | cons b rest ih =>
    rw [List.length_cons] at hl hi
    cases i with
    | succ i =>
      rw [← placeOf_succ]
      exact ih (by omega) (Nat.lt_of_succ_lt_succ hi)
    | zero =>
      -- the bytes after the first come round to its place only after a lap
      have hkept : (copyInEach g (position + 1) rest (o.write (placeOf g position 0) [b])).byteAt
            (placeOf g position 0) =
          (o.write (placeOf g position 0) [b]).byteAt (placeOf g position 0) := by
        refine sameBut_copyInEach.byte _ ?_
        rintro ⟨j, hj, heq⟩
        rw [placeOf_succ] at heq
        exact placeOf_ne (Nat.succ_pos j) (by omega) heq
      have hwritten : (o.write (placeOf g position 0) [b]).byteAt (placeOf g position 0 + 0) = b :=
        Object.byteAt_write_of_lt Nat.one_pos
      exact hkept.trans hwritten

/-! ## In two runs -/

theorem sameBut_copyIn (hp : position < g.bandSize.toNat) (hl : bytes.length ≤ g.bandSize.toNat) :
    SameBut (OnArc g position bytes.length) o (copyIn g position bytes o) := by
  refine ⟨size_copyIn position bytes, fun place hplace => ?_⟩
  refine byteAt_copyIn_of_forall_ne hp hl fun i hi heq => hplace ⟨i, hi, ?_⟩
  rw [placeOf_of_lt hp, heq]

theorem byteAt_copyIn (hp : position < g.bandSize.toNat) (hl : bytes.length ≤ g.bandSize.toNat)
    (hi : i < bytes.length) :
    (copyIn g position bytes o).byteAt (placeOf g position i) = bytes[i] := by
  rw [placeOf_of_lt hp, byteAt_copyIn_of_lt hp hl hi, List.getD_eq_getElem _ _ hi]

/-- **Two runs are as good as going byte by byte.** -/
theorem same_copyIn (hp : position < g.bandSize.toNat) (hl : bytes.length ≤ g.bandSize.toNat) :
    Same (copyInEach g position bytes o) (copyIn g position bytes o) := by
  have hruns := sameBut_copyIn (o := o) hp hl
  have heach : SameBut (OnArc g position bytes.length) o (copyInEach g position bytes o) :=
    sameBut_copyInEach
  refine ⟨hruns.size.trans heach.size.symm, fun place _ => ?_⟩
  by_cases harc : OnArc g position bytes.length place
  · obtain ⟨i, hi, rfl⟩ := harc
    rw [byteAt_copyIn hp hl hi, byteAt_copyInEach hl hi]
  · rw [hruns.byte place harc, heach.byte place harc]

theorem copyOut_eq_each {length : Nat} (hp : position < g.bandSize.toNat)
    (hl : length ≤ g.bandSize.toNat) :
    copyOut g position length o =
      (List.range length).map fun i => o.byteAt (placeOf g position i) := by
  rw [copyOut_eq_window hp hl]
  exact List.map_congr_left fun i _ => by rw [placeOf_of_lt hp, bandByte]

/-- **What was copied in is copied out again.** -/
theorem copyOut_copyIn (hp : position < g.bandSize.toNat)
    (hl : bytes.length ≤ g.bandSize.toNat) :
    copyOut g position bytes.length (copyIn g position bytes o) = bytes := by
  have hcopied : window g (copyIn g (position % g.bandSize.toNat) bytes o) position bytes.length =
      bytes := window_copyIn_self (Nat.zero_lt_of_lt hp) hl
  rw [Nat.mod_eq_of_lt hp] at hcopied
  rw [copyOut_eq_window hp hl, hcopied]

/-! ## The operations -/

/-- **An element is put in**: its bytes stand around the circle from the
write index on, the index has moved by one element, and that is all. -/
structure PutIn (g : Geometry) (element : Bytes) (o o' : Object) : Prop where
  landed : ∀ i (hi : i < element.length),
    o'.byteAt (placeOf g (writeIndex o).toNat i) = element[i]
  index : writeIndex o' = writeIndex o + g.elementSize
  rest : SameBut (fun place => OnArc g (writeIndex o).toNat element.length place ∨
    InWord Header.writeIndex place) o o'

/-- **An element is taken out**: the buffer holds the bytes around the
circle from the read index on, the index has moved by one element, and
that is all. -/
structure TakenOut (g : Geometry) (after : Bytes) (o o' : Object) : Prop where
  length : after.length = g.elementSize.toNat
  found : ∀ i (hi : i < after.length), after[i] = o.byteAt (placeOf g (readIndex o).toNat i)
  index : readIndex o' = readIndex o + g.elementSize
  rest : SameBut (InWord Header.readIndex) o o'

theorem lock_eq_sound_iff : o.lock = .sound ↔ ¬ o.lock = .broken := by
  cases o.lock <;> decide

/-- **Putting in**, by whether the buffer fits, the lock can be taken and
there is room. -/
theorem enqueue_cases (g : Geometry) (element : Bytes) (o : Object) :
    (element.length = g.elementSize.toNat ∧ o.lock = .sound ∧
        writeIndex o - readIndex o < g.bandSize) ∧
      enqueue g element o = (.moved,
        (copyIn g ((writeIndex o).toNat % g.bandSize.toNat) element o).setWord Header.writeIndex
          (writeIndex o + g.elementSize)) ∨
    ¬ (element.length = g.elementSize.toNat ∧ o.lock = .sound ∧
        writeIndex o - readIndex o < g.bandSize) ∧
      (enqueue g element o).1 ≠ .moved ∧ (enqueue g element o).2 = o := by
  rw [← UInt64.toNat_mod]
  unfold enqueue
  rw [lock_eq_sound_iff, ← UInt64.not_le]
  by_cases hfits : element.length = g.elementSize.toNat
  · rw [if_neg (not_not.2 hfits)]
    by_cases hlock : o.lock = .broken
    · rw [if_pos hlock]
      exact .inr ⟨fun h => h.2.1 hlock, nofun, rfl⟩
    · rw [if_neg hlock]
      by_cases hroom : g.bandSize ≤ writeIndex o - readIndex o
      · refine .inr ⟨fun h => h.2.2 hroom, ?_⟩
        simp only [if_pos hroom]
        exact ⟨nofun, trivial⟩
      · exact .inl ⟨⟨hfits, hlock, hroom⟩, if_neg hroom⟩
  · rw [if_pos hfits]
    exact .inr ⟨fun h => hfits h.1, nofun, rfl⟩

theorem dequeue_cases (g : Geometry) (buffer : Bytes) (o : Object) :
    (buffer.length = g.elementSize.toNat ∧ o.lock = .sound ∧ readIndex o < writeIndex o) ∧
      dequeue g buffer o = (.moved,
        copyOut g ((readIndex o).toNat % g.bandSize.toNat) buffer.length o,
        o.setWord Header.readIndex (readIndex o + g.elementSize)) ∨
    ¬ (buffer.length = g.elementSize.toNat ∧ o.lock = .sound ∧ readIndex o < writeIndex o) ∧
      (dequeue g buffer o).1 ≠ .moved ∧ (dequeue g buffer o).2 = (buffer, o) := by
  rw [← UInt64.toNat_mod]
  unfold dequeue
  rw [lock_eq_sound_iff, ← UInt64.not_le]
  by_cases hfits : buffer.length = g.elementSize.toNat
  · rw [if_neg (not_not.2 hfits)]
    by_cases hlock : o.lock = .broken
    · rw [if_pos hlock]
      exact .inr ⟨fun h => h.2.1 hlock, nofun, rfl⟩
    · rw [if_neg hlock]
      by_cases hsome : writeIndex o ≤ readIndex o
      · refine .inr ⟨fun h => h.2.2 hsome, ?_⟩
        simp only [if_pos hsome]
        exact ⟨nofun, trivial⟩
      · exact .inl ⟨⟨hfits, hlock, hsome⟩, if_neg hsome⟩
  · rw [if_pos hfits]
    exact .inr ⟨fun h => hfits h.1, nofun, rfl⟩

/-- **Putting in, byte by byte.** -/
theorem enqueue_effect (hv : g.Valid) (element : Bytes) (o : Object) :
    ((enqueue g element o).1 = .moved ↔ element.length = g.elementSize.toNat ∧
        o.lock = .sound ∧ writeIndex o - readIndex o < g.bandSize) ∧
      ((enqueue g element o).1 = .moved → PutIn g element o (enqueue g element o).2) ∧
      ((enqueue g element o).1 ≠ .moved → (enqueue g element o).2 = o) := by
  rcases enqueue_cases g element o with ⟨hcan, hput⟩ | ⟨hcannot, hnot, hsame⟩
  · rw [hput]
    refine ⟨iff_of_true rfl hcan, fun _ => ?_, fun h => absurd rfl h⟩
    have hp := Nat.mod_lt (writeIndex o).toNat hv.bandSize_pos
    have hl : element.length ≤ g.bandSize.toNat := hcan.1.trans_le hv.elementSize_le_bandSize
    refine ⟨fun i hi => ?_, writeIndex_setWriteIndex, ?_⟩
    · have hword := (Object.sameBut_setWord
        (copyIn g ((writeIndex o).toNat % g.bandSize.toNat) element o) Header.writeIndex
        (writeIndex o + g.elementSize)).byte (placeOf g (writeIndex o).toNat i)
        (not_inWord_placeOf (by decide))
      rw [hword, ← placeOf_mod, byteAt_copyIn hp hl hi]
    · refine ((sameBut_copyIn hp hl).mono ?_).trans
        ((Object.sameBut_setWord _ _ _).mono fun _ => .inr)
      rintro place ⟨i, hi, rfl⟩
      exact .inl ⟨i, hi, placeOf_mod _⟩
  · exact ⟨iff_of_false hnot hcannot, fun h => absurd h hnot, fun _ => hsame⟩

/-- **Taking out, byte by byte.** -/
theorem dequeue_effect (hv : g.Valid) (buffer : Bytes) (o : Object) :
    ((dequeue g buffer o).1 = .moved ↔ buffer.length = g.elementSize.toNat ∧
        o.lock = .sound ∧ readIndex o < writeIndex o) ∧
      ((dequeue g buffer o).1 = .moved →
        TakenOut g (dequeue g buffer o).2.1 o (dequeue g buffer o).2.2) ∧
      ((dequeue g buffer o).1 ≠ .moved → (dequeue g buffer o).2 = (buffer, o)) := by
  rcases dequeue_cases g buffer o with ⟨hcan, htake⟩ | ⟨hcannot, hnot, hsame⟩
  · rw [htake]
    refine ⟨iff_of_true rfl hcan, fun _ => ?_, fun h => absurd rfl h⟩
    have hp := Nat.mod_lt (readIndex o).toNat hv.bandSize_pos
    have hl : buffer.length ≤ g.bandSize.toNat := hcan.1.trans_le hv.elementSize_le_bandSize
    dsimp only
    rw [copyOut_eq_each hp hl]
    refine ⟨?_, fun i hi => ?_, readIndex_setReadIndex, Object.sameBut_setWord _ _ _⟩
    · rw [List.length_map, List.length_range, hcan.1]
    · rw [List.getElem_map, List.getElem_range, placeOf_mod]
  · exact ⟨iff_of_false hnot hcannot, fun h => absurd h hnot, fun _ => hsame⟩

/-- **Clearing, byte by byte.** -/
theorem clear_effect (o : Object) :
    (o.lock = .sound →
        readIndex (clear o) = writeIndex o ∧ SameBut (InWord Header.readIndex) o (clear o)) ∧
      (o.lock = .broken → clear o = o) := by
  refine ⟨fun hlock => ⟨(readIndex_clear hlock).1, ?_⟩, fun hlock => if_pos hlock⟩
  rw [clear, if_neg (lock_eq_sound_iff.1 hlock)]
  exact Object.sameBut_setWord o _ _

end Ring

/-! ## Through a view -/

namespace View

open TwinRing.Ring (PutIn TakenOut copyIn copyInEach copyOut placeOf readIndex writeIndex)

variable {v : View} {g : Geometry} {number : Nat} {s : Store}

/-- **What an operation through a view does to every byte.** The segment
may hold anything and be larger than the view. An operation that succeeds
changes the bytes that it is for and one index; one that is refused
changes nothing, and leaves the caller's buffer as it is. No other object
is touched. The copies in two runs are the copies byte by byte, and the
one out of a position undoes the one into it. -/
theorem exact_effect (hon : v.IsOn g number s) :
    (∀ element,
      ((v.enqueue element s).1 = .moved ↔ element.length = g.elementSize.toNat ∧
          (s.object number).lock = .sound ∧
          writeIndex (s.object number) - readIndex (s.object number) < g.bandSize) ∧
        ((v.enqueue element s).1 = .moved →
          PutIn g element (s.object number) ((v.enqueue element s).2.object number)) ∧
        ((v.enqueue element s).1 ≠ .moved →
          (v.enqueue element s).2.object number = s.object number)) ∧
    (∀ buffer,
      ((v.dequeue buffer s).1 = .moved ↔ buffer.length = g.elementSize.toNat ∧
          (s.object number).lock = .sound ∧
          readIndex (s.object number) < writeIndex (s.object number)) ∧
        ((v.dequeue buffer s).1 = .moved → TakenOut g (v.dequeue buffer s).2.1
          (s.object number) ((v.dequeue buffer s).2.2.object number)) ∧
        ((v.dequeue buffer s).1 ≠ .moved → (v.dequeue buffer s).2.1 = buffer ∧
          (v.dequeue buffer s).2.2.object number = s.object number)) ∧
    ((s.object number).lock = .sound →
      readIndex ((v.clear s).object number) = writeIndex (s.object number) ∧
        SameBut (InWord Header.readIndex) (s.object number) ((v.clear s).object number)) ∧
    ((s.object number).lock = .broken → (v.clear s).object number = s.object number) ∧
    (v.length s).2.object number = s.object number ∧
    (v.isEmpty s).2.object number = s.object number ∧
    (v.isFull s).2.object number = s.object number ∧
    (∀ call, s.Within [number] (v.perform call s).2) ∧
    ∀ o position bytes, position < g.bandSize.toNat → bytes.length ≤ g.bandSize.toNat →
      Same (copyInEach g position bytes o) (copyIn g position bytes o) ∧
        copyOut g position bytes.length o =
          (List.range bytes.length).map (fun i => o.byteAt (placeOf g position i)) ∧
        copyOut g position bytes.length (copyIn g position bytes o) = bytes := by
  obtain ⟨rfl, rfl, hv, live⟩ := hon
  have hput := fun element => (perform_eq_of_live live (.enqueue element)).2.1
  have htake := fun buffer => (perform_eq_of_live live (.dequeue buffer)).2.1
  have hclear := (perform_eq_of_live live .clear).2.1
  refine ⟨fun element => ?_, fun buffer => ?_, fun hlock => ?_, fun hlock => ?_, rfl, rfl, rfl,
    fun call => v.within_perform call s, fun o position bytes hp hl =>
      ⟨Ring.same_copyIn hp hl, Ring.copyOut_eq_each hp hl, Ring.copyOut_copyIn hp hl⟩⟩
  · have hobject : (v.enqueue element s).2.object v.handle.object = _ := hput element
    have hattempt : (v.enqueue element s).1 = _ := congrArg Prod.fst (v.enqueue_eq s element)
    rw [hobject, hattempt]
    exact Ring.enqueue_effect hv element (s.object v.handle.object)
  · have hobject : (v.dequeue buffer s).2.2.object v.handle.object = _ := htake buffer
    have hattempt : (v.dequeue buffer s).1 = _ := congrArg Prod.fst (v.dequeue_eq s buffer)
    have hafter : (v.dequeue buffer s).2.1 = _ := congrArg (·.2.1) (v.dequeue_eq s buffer)
    rw [hobject, hattempt, hafter]
    obtain ⟨hiff, hmoved, hnot⟩ := Ring.dequeue_effect hv buffer (s.object v.handle.object)
    exact ⟨hiff, hmoved, fun h => Prod.mk.inj (hnot h)⟩
  · have hobject : (v.clear s).object v.handle.object = _ := hclear
    rw [hobject]
    exact (Ring.clear_effect _).1 hlock
  · have hobject : (v.clear s).object v.handle.object = _ := hclear
    rw [hobject]
    exact (Ring.clear_effect _).2 hlock

/-- The store after an element was put in that runs past the end of the
band: its first two bytes are the last of the band, its third is the
first. -/
def straddledStore : Store := ((askewView true 0).enqueue [1, 2, 3] askewStore).2

theorem exact_effect_straddled :
    (PutIn ⟨2, 3⟩ [1, 2, 3] (askewStore.object 0) (straddledStore.object 0) ∧
        (straddledStore.object 0).read Header.size 6 = [3, 0, 0, 0, 1, 2]) ∧
      TakenOut ⟨2, 3⟩ [1, 2, 3] (straddledStore.object 0)
        (((askewView false 1).dequeue [0, 0, 0] straddledStore).2.2.object 0) := by
  have hvalid : Geometry.Valid ⟨2, 3⟩ := ⟨by decide, by decide, by decide⟩
  have hcreator : (askewView true 0).IsOn ⟨2, 3⟩ 0 askewStore := ⟨rfl, rfl, hvalid, by decide⟩
  have hjoiner : (askewView false 1).IsOn ⟨2, 3⟩ 0 straddledStore :=
    ⟨rfl, rfl, hvalid, by decide +kernel⟩
  refine ⟨⟨((exact_effect hcreator).1 [1, 2, 3]).2.1 (by decide +kernel), by decide +kernel⟩, ?_⟩
  have htaken : ((askewView false 1).dequeue [0, 0, 0] straddledStore).2.1 = [1, 2, 3] := by
    decide +kernel
  have heffect := ((exact_effect hjoiner).2.1 [0, 0, 0]).2.1 (by decide +kernel)
  rwa [htaken] at heffect

end View

end TwinRing
