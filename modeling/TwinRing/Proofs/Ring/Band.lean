import Mathlib.Tactic.Common
import TwinRing.Proofs.Segment.Memory
import TwinRing.Ring.Basic
/-!
# Rings — the band as a circle

A counter points at a byte of the band by its remainder modulo the size of
the band. Copying into the band and out of it takes at most two runs of
bytes; `copyOut_eq_window` and the two equations of `copyIn` say that it
comes to the same as going byte by byte around the circle.
-/

namespace TwinRing

/-! ## Shapes that a ring can have -/

/-- **The shapes that opening a ring accepts.** -/
structure Geometry.Valid (g : Geometry) : Prop where
  /-- There is room for an element. -/
  capacity_pos : 0 < g.capacity.toNat
  /-- Elements have bytes. -/
  elementSize_pos : 0 < g.elementSize.toNat
  /-- The segment has a size that is a word. -/
  total_lt : g.capacity.toNat * g.elementSize.toNat + Header.size < UInt64.size

namespace Geometry

variable {g : Geometry}

theorem toNat_pos_of_ne_zero {w : UInt64} (h : w ≠ 0) : 0 < w.toNat := by
  rcases Nat.eq_zero_or_pos w.toNat with hz | hp
  · exact absurd (UInt64.toNat_inj.1 hz) h
  · exact hp

/-- A shape has a segment size exactly if it is valid, and then that is
the size of the header and of the band together. -/
theorem segmentSize_eq_ok_iff {size : UInt64} :
    g.segmentSize = .ok size ↔
      g.Valid ∧ size.toNat = g.capacity.toNat * g.elementSize.toNat + Header.size := by
  unfold segmentSize
  constructor
  · intro h
    split at h
    · cases h
    · rename_i hc
      split at h
      · cases h
      · rename_i he
        unfold segmentSize? at h
        by_cases hlt : g.capacity.toNat * g.elementSize.toNat + Header.size < UInt64.size
        · rw [if_pos hlt] at h
          cases h
          exact ⟨⟨toNat_pos_of_ne_zero hc, toNat_pos_of_ne_zero he, hlt⟩,
            UInt64.toNat_ofNat_of_lt hlt⟩
        · rw [if_neg hlt] at h
          cases h
  · rintro ⟨hv, hsize⟩
    have hc : g.capacity ≠ 0 := fun h0 => by
      have := hv.capacity_pos; rw [h0] at this; exact absurd this (by decide)
    have he : g.elementSize ≠ 0 := fun h0 => by
      have := hv.elementSize_pos; rw [h0] at this; exact absurd this (by decide)
    rw [if_neg hc, if_neg he]
    unfold segmentSize?
    rw [if_pos hv.total_lt]
    simp only [← hsize, UInt64.ofNat_toNat]

namespace Valid

/-- The band of a valid shape is as large as its elements together. -/
theorem bandSize_toNat (hv : g.Valid) :
    g.bandSize.toNat = g.capacity.toNat * g.elementSize.toNat := by
  have hlt := hv.total_lt
  rw [bandSize, UInt64.toNat_mul, Nat.mod_eq_of_lt (by unfold UInt64.size at hlt; omega)]

theorem bandSize_pos (hv : g.Valid) : 0 < g.bandSize.toNat := by
  rw [hv.bandSize_toNat]
  exact Nat.mul_pos hv.capacity_pos hv.elementSize_pos

theorem elementSize_le_bandSize (hv : g.Valid) : g.elementSize.toNat ≤ g.bandSize.toNat := by
  rw [hv.bandSize_toNat]
  exact Nat.le_mul_of_pos_left _ hv.capacity_pos

end Valid

end Geometry

namespace Ring

/-! ## Counters and bytes -/

/-- **The byte of the band that a counter points at.** -/
def bandByte (g : Geometry) (o : Object) (counter : Nat) : UInt8 :=
  o.byteAt (Header.size + counter % g.bandSize.toNat)

/-- **So many bytes around the circle**, from where a counter points on. -/
def window (g : Geometry) (o : Object) (counter length : Nat) : Bytes :=
  (List.range length).map fun i => bandByte g o (counter + i)

variable {g : Geometry} {o o' : Object} {counter length position i : Nat} {bytes : Bytes}

@[simp] theorem length_window : (window g o counter length).length = length := by
  simp only [window, List.length_map, List.length_range]

/-- Only the remainder of a counter matters. -/
theorem window_mod : window g o (counter % g.bandSize.toNat) length = window g o counter length :=
  List.map_congr_left fun i _ => by rw [bandByte, bandByte, Nat.mod_add_mod]

theorem window_congr
    (same : ∀ i < length, bandByte g o (counter + i) = bandByte g o' (counter + i)) :
    window g o counter length = window g o' counter length :=
  List.map_congr_left fun i hi => same i (List.mem_range.1 hi)

/-- A window is two windows side by side. -/
theorem window_add {a b : Nat} :
    window g o counter (a + b) = window g o counter a ++ window g o (counter + a) b := by
  simp only [window, List.range_add, List.map_append, List.map_map]
  congr 1
  exact List.map_congr_left fun i _ => by simp only [Function.comp_apply, Nat.add_assoc]

/-- Up to the end of the band, a window is a plain run of bytes. -/
theorem window_eq_read (inside : position + length ≤ g.bandSize.toNat) :
    window g o position length = o.read (Header.size + position) length := by
  refine List.map_congr_left fun i hi => ?_
  have := List.mem_range.1 hi
  rw [bandByte, Nat.mod_eq_of_lt (by omega), Nat.add_assoc]

/-! ## Copying out -/

/-- **Copying out goes around the circle.** -/
theorem copyOut_eq_window (hp : position < g.bandSize.toNat) (hl : length ≤ g.bandSize.toNat) :
    copyOut g position length o = window g o position length := by
  have hfit : g.fitting position length ≤ length := Nat.min_le_right _ _
  have hend : position + g.fitting position length ≤ g.bandSize.toNat := by
    unfold Geometry.fitting; omega
  have hrest : o.read Header.size (length - g.fitting position length) =
      window g o (position + g.fitting position length) (length - g.fitting position length) := by
    rcases Nat.eq_or_lt_of_le hfit with hall | hpart
    · rw [hall, Nat.sub_self]; rfl
    · -- the window wraps exactly where the first run ends
      have hwrap : position + g.fitting position length = g.bandSize.toNat := by
        unfold Geometry.fitting at hpart ⊢; omega
      rw [hwrap, ← window_mod, Nat.mod_self, window_eq_read (by omega), Nat.add_zero]
  calc copyOut g position length o
      = o.read (Header.size + position) (g.fitting position length) ++
          o.read Header.size (length - g.fitting position length) := rfl
    _ = window g o position (g.fitting position length + (length - g.fitting position length)) := by
        rw [window_add, window_eq_read hend, hrest]
    _ = window g o position length := by rw [Nat.add_sub_cancel' hfit]

/-! ## Copying in -/

/-- **A byte that was copied in is where its counter points.** -/
theorem byteAt_copyIn_of_lt (hp : position < g.bandSize.toNat)
    (hl : bytes.length ≤ g.bandSize.toNat) (hi : i < bytes.length) :
    (copyIn g position bytes o).byteAt (Header.size + (position + i) % g.bandSize.toNat) =
      bytes.getD i 0 := by
  unfold copyIn
  have hfit : g.fitting position bytes.length =
      min (g.bandSize.toNat - position) bytes.length := rfl
  by_cases hfirst : i < g.fitting position bytes.length
  · -- the byte is in the first run, which the second does not reach
    have hplace : Header.size + (position + i) % g.bandSize.toNat =
        Header.size + position + i := by
      rw [Nat.mod_eq_of_lt (by omega), Nat.add_assoc]
    have htake : (bytes.take (g.fitting position bytes.length)).getD i 0 = bytes.getD i 0 := by
      rw [List.getD_eq_getElem?_getD, List.getD_eq_getElem?_getD,
        List.getElem?_take_of_lt hfirst]
    have hwritten : i < (bytes.take (g.fitting position bytes.length)).length := by
      rw [List.length_take]; omega
    rw [hplace]
    simp only
    split
    · rw [Object.byteAt_write_of_outside (.inr (by rw [List.length_drop]; omega)),
        Object.byteAt_write_of_lt hwritten, htake]
    · rw [Object.byteAt_write_of_lt hwritten, htake]
  · have hplace : (position + i) % g.bandSize.toNat = i - g.fitting position bytes.length := by
      rw [Nat.mod_eq_sub_mod (by omega), Nat.mod_eq_of_lt (by omega)]
      omega
    have hdrop : (bytes.drop (g.fitting position bytes.length)).getD
        (i - g.fitting position bytes.length) 0 = bytes.getD i 0 := by
      rw [List.getD_eq_getElem?_getD, List.getD_eq_getElem?_getD, List.getElem?_drop,
        show g.fitting position bytes.length + (i - g.fitting position bytes.length) = i by omega]
    have hwraps : g.fitting position bytes.length < bytes.length := by omega
    rw [hplace]
    simp only
    rw [if_pos hwraps, Object.byteAt_write_of_lt (by rw [List.length_drop]; omega), hdrop]

/-- **Every other byte is as it was**, in the band and outside of it. -/
theorem byteAt_copyIn_of_forall_ne {place : Nat} (hp : position < g.bandSize.toNat)
    (hl : bytes.length ≤ g.bandSize.toNat)
    (apart : ∀ i < bytes.length, place ≠ Header.size + (position + i) % g.bandSize.toNat) :
    (copyIn g position bytes o).byteAt place = o.byteAt place := by
  unfold copyIn
  have hfit : g.fitting position bytes.length =
      min (g.bandSize.toNat - position) bytes.length := rfl
  have hfirst : place < Header.size + position ∨
      Header.size + position + g.fitting position bytes.length ≤ place := by
    by_contra hin
    refine apart (place - Header.size - position) (by omega) ?_
    rw [Nat.mod_eq_of_lt (by omega)]
    omega
  have hkept : (o.write (Header.size + position)
      (bytes.take (g.fitting position bytes.length))).byteAt place = o.byteAt place :=
    Object.byteAt_write_of_outside (by rw [List.length_take]; omega)
  simp only
  split
  · rename_i hwraps
    rw [Object.byteAt_write_of_outside, hkept]
    rw [List.length_drop]
    by_contra hin
    refine apart (g.fitting position bytes.length + (place - Header.size)) (by omega) ?_
    rw [Nat.mod_eq_sub_mod (by omega), Nat.mod_eq_of_lt (by omega)]
    omega
  · exact hkept

/-- Outside of the band nothing changes. -/
theorem byteAt_copyIn_of_outside {place : Nat} (hp : position < g.bandSize.toNat)
    (hl : bytes.length ≤ g.bandSize.toNat)
    (outside : place < Header.size ∨ Header.size + g.bandSize.toNat ≤ place) :
    (copyIn g position bytes o).byteAt place = o.byteAt place :=
  byteAt_copyIn_of_forall_ne hp hl fun i _ => by
    have := Nat.mod_lt (position + i) (show 0 < g.bandSize.toNat by omega)
    omega

end Ring

end TwinRing
