import Mathlib.Algebra.Group.Nat.Defs
import Mathlib.Data.List.GetD
import TwinRing.Segment.Lock
/-!
# Memory — what a write leaves where

An object's memory is read through `byteAt`. `byteAt_write` says what a
write does to it: the bytes written are there, and every other byte is as
it was. The frame facts of words, runs of bytes and the lock are read off
that one equation, and nothing after this file looks at the stored cells.
-/

namespace TwinRing

/-! ## Words and their bytes -/

namespace Word

@[simp] theorem length_digits (count n : Nat) : (digits count n).length = count := by
  induction count generalizing n with
  | zero => rfl
  | succ count ih => simp only [digits, List.length_cons, ih]

@[simp] theorem length_toBytes (w : UInt64) : (toBytes w).length = 8 := length_digits 8 _

/-- The digits stand for the number, up to what they have no place for. -/
theorem value_digits (count n : Nat) : value (digits count n) = n % 256 ^ count := by
  induction count generalizing n with
  | zero => rw [digits, value, Nat.pow_zero, Nat.mod_one]
  | succ count ih =>
    have place : 256 ^ (count + 1) = 256 * 256 ^ count := Nat.pow_succ'
    rw [digits, value, ih, UInt8.toNat_ofNat', place, Nat.mod_mul]

/-- **A word is what its bytes stand for.** -/
@[simp] theorem ofBytes_toBytes (w : UInt64) : ofBytes (toBytes w) = w := by
  have bounded : w.toNat < 256 ^ 8 := w.toNat_lt
  rw [ofBytes, toBytes, value_digits, Nat.mod_eq_of_lt bounded, UInt64.ofNat_toNat]

end Word

namespace Object

/-! ## Stored cells -/

/-- Nothing changes before or after the bytes that are laid over. -/
theorem getD_overlay_of_outside {cells : Array UInt8} {offset i : Nat} {bytes : Bytes}
    (outside : i < offset ∨ offset + bytes.length ≤ i) :
    (overlay cells offset bytes).getD i 0 = cells.getD i 0 := by
  induction bytes generalizing cells offset with
  | nil => rfl
  | cons b rest ih =>
    simp only [List.length_cons] at outside
    rw [overlay, ih (by omega), Array.getD_eq_getD_getElem?, Array.getD_eq_getD_getElem?,
      Array.getElem?_setIfInBounds_ne (by omega)]

/-- The bytes that are laid over are there, if the cells reach that far. -/
theorem getD_overlay_of_inside {cells : Array UInt8} {offset i : Nat} {bytes : Bytes}
    (room : offset + bytes.length ≤ cells.size) (hi : i < bytes.length) :
    (overlay cells offset bytes).getD (offset + i) 0 = bytes.getD i 0 := by
  induction bytes generalizing cells offset i with
  | nil => simp at hi
  | cons b rest ih =>
    simp only [List.length_cons] at room hi
    rw [overlay]
    cases i with
    | zero =>
      rw [getD_overlay_of_outside (by omega), Array.getD_eq_getD_getElem?, Nat.add_zero,
        Array.getElem?_setIfInBounds_self_of_lt (by omega)]
      rfl
    | succ i =>
      have next : (overlay (cells.setIfInBounds offset b) (offset + 1) rest).getD
          (offset + 1 + i) 0 = rest.getD i 0 :=
        ih (by rw [Array.size_setIfInBounds]; omega) (by omega)
      rw [show offset + (i + 1) = offset + 1 + i by omega, next]
      rfl

/-- Zeros at the end are what bytes that were never stored read as. -/
theorem getD_padded (cells : Array UInt8) (length i : Nat) :
    (padded cells length).getD i 0 = cells.getD i 0 := by
  unfold padded
  split
  · rw [Array.getD_eq_getD_getElem?, Array.getD_eq_getD_getElem?, Array.getElem?_append]
    by_cases inside : i < cells.size
    · rw [if_pos inside]
    · rw [if_neg inside, Array.getElem?_replicate, Array.getElem?_eq_none (by omega)]
      split <;> rfl
  · rfl

theorem le_size_padded (cells : Array UInt8) (length : Nat) :
    length ≤ (padded cells length).size := by
  unfold padded
  split
  · rw [Array.size_append, Array.size_replicate]; omega
  · omega

/-! ## Writing -/

variable {o : Object} {offset i : Nat} {bytes : Bytes}

/-- **A byte that was written is there.** -/
theorem byteAt_write_of_lt (hi : i < bytes.length) :
    (o.write offset bytes).byteAt (offset + i) = bytes.getD i 0 :=
  getD_overlay_of_inside (le_size_padded _ _) hi

/-- **A byte outside of what was written is as it was.** -/
theorem byteAt_write_of_outside (outside : i < offset ∨ offset + bytes.length ≤ i) :
    (o.write offset bytes).byteAt i = o.byteAt i := by
  unfold byteAt write
  rw [getD_overlay_of_outside outside, getD_padded]

/-- A write does not change how many bytes an object has. -/
@[simp] theorem size_write (offset : Nat) (bytes : Bytes) :
    (o.write offset bytes).size = o.size := rfl

/-! ## Reading -/

@[simp] theorem length_read (o : Object) (offset length : Nat) :
    (o.read offset length).length = length := by
  simp only [read, List.length_map, List.length_range]

theorem read_eq_read {o o' : Object} {offset length : Nat}
    (same : ∀ i < length, o.byteAt (offset + i) = o'.byteAt (offset + i)) :
    o.read offset length = o'.read offset length :=
  List.map_congr_left fun i hi => same i (List.mem_range.1 hi)

@[simp] theorem read_write_self (o : Object) (offset : Nat) (bytes : Bytes) :
    (o.write offset bytes).read offset bytes.length = bytes := by
  apply List.ext_getElem
  · rw [length_read]
  · intro i hi hi'
    simp only [read, List.getElem_map, List.getElem_range]
    rw [byteAt_write_of_lt hi', List.getD_eq_getElem _ _ hi']

/-- A run of bytes apart from what was written reads as it did. -/
theorem read_write_of_disjoint {from' length : Nat}
    (apart : from' + length ≤ offset ∨ offset + bytes.length ≤ from') :
    (o.write offset bytes).read from' length = o.read from' length :=
  read_eq_read fun i hi => byteAt_write_of_outside (by omega)

/-! ## Words -/

variable {w : UInt64}

@[simp] theorem size_setWord (offset : Nat) (w : UInt64) :
    (o.setWord offset w).size = o.size := size_write ..

@[simp] theorem wordAt_setWord_self (o : Object) (offset : Nat) (w : UInt64) :
    (o.setWord offset w).wordAt offset = w := by
  have h := read_write_self o offset (Word.toBytes w)
  rw [Word.length_toBytes] at h
  rw [wordAt, setWord, h, Word.ofBytes_toBytes]

/-- A word apart from what was written reads as it did. -/
theorem wordAt_write_of_disjoint {at' : Nat}
    (apart : at' + 8 ≤ offset ∨ offset + bytes.length ≤ at') :
    (o.write offset bytes).wordAt at' = o.wordAt at' := by
  rw [wordAt, wordAt, read_write_of_disjoint apart]

theorem wordAt_setWord_of_disjoint {at' : Nat} (apart : at' + 8 ≤ offset ∨ offset + 8 ≤ at') :
    (o.setWord offset w).wordAt at' = o.wordAt at' :=
  wordAt_write_of_disjoint (by rwa [Word.length_toBytes])

theorem byteAt_setWord_of_outside (outside : i < offset ∨ offset + 8 ≤ i) :
    (o.setWord offset w).byteAt i = o.byteAt i :=
  byteAt_write_of_outside (by rwa [Word.length_toBytes])

/-! ## The lock -/

/-- **Whether a lock can be taken is read off its kind**, so a write past
the lock does not change it. -/
theorem lock_write_of_le (past : Lock.size ≤ offset) : (o.write offset bytes).lock = o.lock := by
  unfold Lock.size at past
  rw [lock, lock, byteAt_write_of_outside (.inl (by unfold Lock.kindOffset; omega))]

theorem lock_setWord_of_le (past : Lock.size ≤ offset) : (o.setWord offset w).lock = o.lock :=
  lock_write_of_le past

variable {kind : UInt8}

@[simp] theorem size_makeLock (kind : UInt8) : (o.makeLock kind).size = o.size := size_write ..

/-- To make a lock is to write no further than the lock reaches. -/
theorem byteAt_makeLock_of_le (past : Lock.size ≤ i) :
    (o.makeLock kind).byteAt i = o.byteAt i :=
  byteAt_write_of_outside (.inr (by rwa [Nat.zero_add]))

theorem wordAt_makeLock_of_le {at' : Nat} (past : Lock.size ≤ at') :
    (o.makeLock kind).wordAt at' = o.wordAt at' :=
  wordAt_write_of_disjoint (.inr (by rwa [Nat.zero_add]))

/-- **A lock that was made can be taken.** -/
theorem lock_makeLock (hkind : kind = Lock.sharedKind ∨ kind = Lock.plainKind) :
    (o.makeLock kind).lock = .sound := by
  have hbyte : (o.makeLock kind).byteAt (0 + Lock.kindOffset) =
      (Lock.made kind).getD Lock.kindOffset 0 :=
    byteAt_write_of_lt (by simp [Lock.made, Lock.kindOffset])
  rw [Nat.zero_add] at hbyte
  rw [lock, hbyte]
  rcases hkind with rfl | rfl <;> decide

end Object

end TwinRing
