import TwinRing.Proofs.Ring.Undoing
import TwinRing.Proofs.Ring.Wrap
/-!
# Rings — one element at most

Between two programs that take turns a ring holds one element, or none.
`Carries` is that state, wherever the counters stand: an element that is
put into an empty ring lies there alone, and is the one that is taken out.
Where the write index has run over and the read index has not it is not
taken out at all, but it is still the only one there.
-/

namespace TwinRing

namespace Ring

variable {g : Geometry} {o ring : Object} {b e after : Bytes} {attempt : Attempt} {role : Role}

/-- What a ring refuses stays as it was, and so does the ring. -/
theorem serve_of_not_moved (h : serve role g b o = (attempt, after, ring))
    (hrefused : attempt.isMoved = false) : after = b ∧ ring = o := by
  cases role with
  | writer =>
    simp only [serve, enqueue] at h
    split at h
    · cases h; exact ⟨rfl, rfl⟩
    · split at h
      · cases h; exact ⟨rfl, rfl⟩
      · split at h
        · cases h; exact ⟨rfl, rfl⟩
        · obtain rfl : Attempt.moved = attempt := congrArg Prod.fst h
          cases hrefused
  | reader =>
    simp only [serve, dequeue] at h
    split at h
    · cases h; exact ⟨rfl, rfl⟩
    · split at h
      · cases h; exact ⟨rfl, rfl⟩
      · split at h
        · cases h; exact ⟨rfl, rfl⟩
        · obtain rfl : Attempt.moved = attempt := congrArg Prod.fst h
          cases hrefused

/-- **A ring that holds this element and no other, or none at all.** One
whose lock cannot be taken holds none. -/
def Carries (g : Geometry) (o : Object) : Option Bytes → Prop
  | none => o.lock = .broken ∨ Spaced g o 0
  | some e => Spaced g o 1 ∧ window g o (readIndex o).toNat g.elementSize.toNat = e

/-- A ring whose indices are the same is empty. -/
theorem carries_none_of_eq (hlock : o.lock = .sound) (heq : readIndex o = writeIndex o) :
    Carries g o none := by
  refine .inr ⟨hlock, Nat.zero_le _, ?_⟩
  rw [heq, UInt64.sub_self, Nat.zero_mul]
  rfl

/-- **A clear empties the ring**, whatever was in it. -/
theorem carries_clear (o : Object) : Carries g (clear o) none := by
  cases hlock : o.lock with
  | sound =>
    obtain ⟨hread, hwrite, hsound⟩ := readIndex_clear hlock
    exact carries_none_of_eq hsound (hread.trans hwrite.symm)
  | broken =>
    rw [clear, if_pos hlock]
    exact .inl hlock

theorem carries_of_fresh (h : Fresh o) : Carries g o none :=
  carries_none_of_eq h.lock (h.zeroed.1.trans h.zeroed.2.symm)

/-- Nothing is moved at a ring whose lock cannot be taken. -/
theorem lock_of_moved (hserve : serve role g b o = (.moved, after, ring)) : o.lock = .sound := by
  cases hlock : o.lock with
  | sound => rfl
  | broken =>
    cases role with
    | writer =>
      simp only [serve, enqueue, if_pos hlock] at hserve
      split at hserve <;> cases hserve
    | reader =>
      simp only [serve, dequeue, if_pos hlock] at hserve
      split at hserve <;> cases hserve

namespace Carries

variable {x : Option Bytes}

/-- An empty ring whose lock can be taken has its indices at one place. -/
theorem spaced (h : Carries g o none) (hlock : o.lock = .sound) : Spaced g o 0 :=
  h.resolve_left fun hbroken => by rw [hlock] at hbroken; cases hbroken

/-- Its length is what it holds. -/
theorem toNat_length (h : Carries g o x) (hv : g.Valid) :
    (Ring.length g o).toNat = x.toList.length := by
  cases x with
  | none =>
    rcases h with hbroken | hspaced
    · rw [Ring.length, if_pos hbroken]
      rfl
    · exact hspaced.toNat_length hv
  | some e => exact h.1.toNat_length hv

/-- **What is put into an empty ring lies there alone.** -/
theorem put (h : Carries g o none) (hv : g.Valid) (he : e.length = g.elementSize.toNat)
    (hserve : serve .writer g e o = (.moved, after, ring)) : Carries g ring (some e) := by
  have hspaced := h.spaced (lock_of_moved hserve)
  have hring : (enqueue g e o).2 = ring := congrArg (·.2.2) hserve
  have hput := (hspaced.enqueue_of_room hv he hv.capacity_pos).2
  rw [hring] at hput
  refine ⟨hput, ?_⟩
  -- the element lies where the read index points, for the indices were the same
  have hlevel : writeIndex o = readIndex o := by
    have hzero := hspaced.distance
    rw [Nat.zero_mul, UInt64.toNat_sub] at hzero
    have hwrite := (writeIndex o).toNat_lt
    have hread := (readIndex o).toNat_lt
    exact UInt64.toNat_inj.1 (by omega)
  have hlock : o.lock ≠ .broken := by rw [hspaced.lock]; decide
  have hroom : ¬ g.bandSize ≤ writeIndex o - readIndex o := fun hfull =>
    absurd ((hspaced.bandSize_le_sub_iff hv).1 hfull) (Nat.not_le.2 hv.capacity_pos)
  have hfits : e.length ≤ g.bandSize.toNat := he.trans_le hv.elementSize_le_bandSize
  have hplace : (writeIndex o % g.bandSize).toNat < g.bandSize.toNat := by
    rw [UInt64.toNat_mod]
    exact Nat.mod_lt _ hv.bandSize_pos
  have hcopied : ring = (copyIn g (writeIndex o % g.bandSize).toNat e o).setWord Header.writeIndex
      (writeIndex o + g.elementSize) := by
    rw [← hring, enqueue, if_neg (not_not.2 he), if_neg hlock]
    exact congrArg Prod.snd (if_neg hroom)
  rw [hcopied, readIndex_setWriteIndex, (header_copyIn hplace hfits).1, ← hlevel, ← he]
  refine Eq.trans (window_congr fun i _ => bandByte_setWriteIndex) ?_
  rw [UInt64.toNat_mod]
  exact window_copyIn_self hv.bandSize_pos hfits

/-- **Nothing is taken out of an empty ring.** -/
theorem not_taken (h : Carries g o none) (hv : g.Valid) (hb : b.length = g.elementSize.toNat) :
    serve .reader g b o ≠ (.moved, after, ring) := fun hserve => by
  have hspaced := h.spaced (lock_of_moved hserve)
  by_cases hwrapped : writeIndex o < readIndex o
  · exact absurd (hspaced.pos_of_wrapped hwrapped) (Nat.lt_irrefl 0)
  · have hrefused := hspaced.dequeue_of_empty hv hb rfl (UInt64.not_lt.1 hwrapped)
    rw [serve, hrefused] at hserve
    cases hserve

/-- **What is taken out of a ring is the element in it.** -/
theorem take (h : Carries g o (some e)) (hv : g.Valid) (hb : b.length = g.elementSize.toNat)
    (hserve : serve .reader g b o = (.moved, after, ring)) :
    after = e ∧ Carries g ring none := by
  obtain ⟨hspaced, hwindow⟩ := h
  by_cases hwrapped : writeIndex o < readIndex o
  · rw [serve, hspaced.dequeue_of_wrapped hb hwrapped] at hserve
    cases hserve
  have hle := UInt64.not_lt.1 hwrapped
  obtain ⟨horderly, hcount⟩ := hspaced.orderly hv hle
  have hcontents : contents g o = [e] := by
    rw [contents, hcount, elements, elements, hwindow]
  have htaken := dequeue_of_cons hv horderly hb hcontents
  have hspaced' := (hspaced.dequeue_of_unread hv hb Nat.one_pos hle).2
  rw [serve] at hserve
  rw [hserve] at htaken hspaced'
  exact ⟨congrArg (·.2.1) htaken, .inr hspaced'⟩

end Carries

end Ring

end TwinRing
