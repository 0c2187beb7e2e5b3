import TwinRing.Proofs.Ring.Fifo
/-!
# Rings — every access in its place

The memory of a ring is shared, and nothing in it can be relied on: the
indices are whatever words the last writer left. So where an operation
reads and writes must follow from its own arithmetic. `Strict` runs the
operations on a memory that refuses every access outside of the part it
is meant for, with arithmetic that refuses to run over, to run under and
to divide by nothing. The one fact about a ring that goes into it is that
the mapping has the size that the geometry asks for and the object has no
less; `Strict.perform_eq` says that nothing is refused then, and that the
answers are those of the ring itself.
-/

namespace TwinRing

/-! ## A memory that refuses -/

/-- The two parts of a segment. -/
inductive Zone
  | header
  | band

/-- **What a strict memory refuses.** -/
inductive Breach
  /-- Bytes that are not in the part that they are to be in. -/
  | outside (offset length : Nat)
  /-- A product or a sum that is no word. -/
  | overflow
  /-- A difference below zero. -/
  | underflow
  /-- A quotient or a remainder by zero. -/
  | byZero

namespace Strict

/-- **Whether so many bytes from an offset on may be touched**: they are
in their part of the segment, they are mapped, and the object has them. -/
def Within (g : Geometry) (mapped : Nat) (o : Object) (zone : Zone) (offset length : Nat) : Prop :=
  (match zone with
    | .header => offset + length ≤ Header.size
    | .band => Header.size ≤ offset ∧
        offset + length ≤ Header.size + g.capacity.toNat * g.elementSize.toNat) ∧
    offset + length ≤ mapped ∧ mapped ≤ o.size

instance (g : Geometry) (mapped : Nat) (o : Object) (zone : Zone) (offset length : Nat) :
    Decidable (Within g mapped o zone offset length) := by
  unfold Within
  cases zone <;> infer_instance

variable (g : Geometry) (mapped : Nat)

def read (zone : Zone) (offset length : Nat) (o : Object) : Except Breach Bytes :=
  if Within g mapped o zone offset length then .ok (o.read offset length)
  else .error (.outside offset length)

def write (zone : Zone) (offset : Nat) (bytes : Bytes) (o : Object) : Except Breach Object :=
  if Within g mapped o zone offset bytes.length then .ok (o.write offset bytes)
  else .error (.outside offset bytes.length)

/-- A word of the header. -/
def word (offset : Nat) (o : Object) : Except Breach UInt64 :=
  (read g mapped .header offset 8 o).map Word.ofBytes

def setWord (offset : Nat) (w : UInt64) (o : Object) : Except Breach Object :=
  write g mapped .header offset (Word.toBytes w) o

/-- Take the lock, which is to look at all of it. -/
def lock (o : Object) : Except Breach Lock :=
  (read g mapped .header Header.lock Lock.size o).map fun bytes =>
    Lock.ofKind (bytes.getD Lock.kindOffset 0)

/-! ## Arithmetic that refuses -/

def mul (a b : Nat) : Except Breach Nat :=
  if a * b < UInt64.size then .ok (a * b) else .error .overflow

def add (a b : Nat) : Except Breach Nat :=
  if a + b < UInt64.size then .ok (a + b) else .error .overflow

def sub (a b : Nat) : Except Breach Nat := if b ≤ a then .ok (a - b) else .error .underflow

def mod (a b : Nat) : Except Breach Nat := if b = 0 then .error .byZero else .ok (a % b)

def div (a b : Nat) : Except Breach Nat := if b = 0 then .error .byZero else .ok (a / b)

/-! ## The operations -/

/-- The size of the band. -/
def bandSize : Except Breach Nat := mul g.capacity.toNat g.elementSize.toNat

/-- Write bytes into the band from a position on. -/
def copyIn (band position : Nat) (bytes : Bytes) (o : Object) : Except Breach Object := do
  let room ← sub band position
  let n := min room bytes.length
  let start ← add Header.size position
  let o ← write g mapped .band start (bytes.take n) o
  if n < bytes.length then
    let rest ← sub bytes.length n
    write g mapped .band Header.size ((bytes.drop n).take rest) o
  else pure o

/-- Read so many bytes of the band from a position on. -/
def copyOut (band position length : Nat) (o : Object) : Except Breach Bytes := do
  let room ← sub band position
  let n := min room length
  let start ← add Header.size position
  let first ← read g mapped .band start n o
  if n < length then
    let rest ← sub length n
    let second ← read g mapped .band Header.size rest o
    pure (first ++ second)
  else pure first

/-- Put one element in. The indices are meant to run over, so their
distance and the new index are taken modulo the word. -/
def enqueue (element : Bytes) (o : Object) : Except Breach (Attempt × Object) := do
  if element.length ≠ g.elementSize.toNat then pure (.wrongLength, o)
  else if (← lock g mapped o) = .broken then pure (.lockFailed, o)
  else
    let read ← word g mapped Header.readIndex o
    let write ← word g mapped Header.writeIndex o
    let band ← bandSize g
    if band ≤ (write - read).toNat then pure (.refused, o)
    else
      let position ← mod write.toNat band
      let o ← copyIn g mapped band position element o
      let o ← setWord g mapped Header.writeIndex (write + g.elementSize) o
      pure (.moved, o)

/-- Take the oldest element out into a buffer. -/
def dequeue (buffer : Bytes) (o : Object) : Except Breach (Attempt × Bytes × Object) := do
  if buffer.length ≠ g.elementSize.toNat then pure (.wrongLength, buffer, o)
  else if (← lock g mapped o) = .broken then pure (.lockFailed, buffer, o)
  else
    let read ← word g mapped Header.readIndex o
    let write ← word g mapped Header.writeIndex o
    if write ≤ read then pure (.refused, buffer, o)
    else
      let band ← bandSize g
      let position ← mod read.toNat band
      let element ← copyOut g mapped band position buffer.length o
      let o ← setWord g mapped Header.readIndex (read + g.elementSize) o
      pure (.moved, element, o)

/-- Discard all that is unread. -/
def clear (o : Object) : Except Breach Object := do
  if (← lock g mapped o) = .broken then pure o
  else
    let write ← word g mapped Header.writeIndex o
    setWord g mapped Header.readIndex write o

/-- How many elements are unread. -/
def length (o : Object) : Except Breach Nat := do
  if (← lock g mapped o) = .broken then pure 0
  else
    let write ← word g mapped Header.writeIndex o
    let read ← word g mapped Header.readIndex o
    div (write - read).toNat g.elementSize.toNat

/-- A call on the object. -/
def perform (call : RingCall) (o : Object) : Except Breach (RingAnswer × Object) :=
  match call with
  | .enqueue element => do
    let (attempt, o) ← enqueue g mapped element o
    pure (.put attempt.isMoved, o)
  | .dequeue buffer => do
    let (attempt, buffer, o) ← dequeue g mapped buffer o
    pure (.taken attempt.isMoved buffer, o)
  | .clear => do
    let o ← clear g mapped o
    pure (.done, o)
  | .length => do
    let n ← length g mapped o
    pure (.count n, o)
  | .isEmpty => do
    let n ← length g mapped o
    pure (.flag (decide (n = 0)), o)
  | .isFull => do
    let n ← length g mapped o
    pure (.flag (decide (g.capacity.toNat ≤ n)), o)

/-! ## Nothing is refused -/

/-- **A mapping that fits**: it is as large as the geometry asks for, and
the object behind it has that many bytes. -/
structure Fits (g : Geometry) (mapped : Nat) (o : Object) : Prop where
  valid : g.Valid
  mapped_eq : mapped = Header.size + g.capacity.toNat * g.elementSize.toNat
  /-- The object has what is mapped. -/
  mapped_le : mapped ≤ o.size

/-- A step that is not refused goes on with what it came to. -/
theorem ok_bind {α β : Type} (a : α) (f : α → Except Breach β) : (Except.ok a >>= f) = f a := rfl

section Zones

variable {g : Geometry} {mapped : Nat} {o : Object} {offset len : Nat}

/-- What fits an object fits it after a write. -/
theorem Fits.after_write (h : Fits g mapped o) (offset : Nat) (bytes : Bytes) :
    Fits g mapped (o.write offset bytes) :=
  ⟨h.valid, h.mapped_eq, h.mapped_le⟩

variable (h : Fits g mapped o)
include h

theorem Fits.within_header (hin : offset + len ≤ Header.size) :
    Within g mapped o .header offset len := by
  have hmapped := h.mapped_eq
  exact ⟨hin, by omega, h.mapped_le⟩

theorem Fits.within_band (hstart : Header.size ≤ offset)
    (hend : offset + len ≤ Header.size + g.capacity.toNat * g.elementSize.toNat) :
    Within g mapped o .band offset len :=
  ⟨⟨hstart, hend⟩, by rw [h.mapped_eq]; exact hend, h.mapped_le⟩

theorem Fits.word_eq (hin : offset + 8 ≤ Header.size) :
    word g mapped offset o = .ok (o.wordAt offset) := by
  rw [word, read, if_pos (h.within_header hin)]
  rfl

theorem Fits.readIndex_eq : word g mapped Header.readIndex o = .ok (Ring.readIndex o) :=
  h.word_eq (by decide)

theorem Fits.writeIndex_eq : word g mapped Header.writeIndex o = .ok (Ring.writeIndex o) :=
  h.word_eq (by decide)

theorem Fits.setWord_eq (hin : offset + 8 ≤ Header.size) (w : UInt64) :
    setWord g mapped offset w o = .ok (o.setWord offset w) := by
  have hwithin : Within g mapped o .header offset (Word.toBytes w).length :=
    h.within_header (by rwa [Word.length_toBytes])
  rw [setWord, write, if_pos hwithin]
  rfl

theorem Fits.lock_eq : lock g mapped o = .ok o.lock := by
  have hkind :
      (o.read Header.lock Lock.size).getD Lock.kindOffset 0 = o.byteAt Lock.kindOffset := by
    rw [Object.read, List.getD_eq_getElem _ _ (by simp [Lock.size, Lock.kindOffset])]
    simp [Header.lock]
  rw [lock, read, if_pos (h.within_header (by decide))]
  exact congrArg (fun kind => Except.ok (Lock.ofKind kind)) hkind

theorem Fits.bandSize_eq : bandSize g = .ok g.bandSize.toNat := by
  have hlt := h.valid.total_lt
  rw [bandSize, mul, if_pos (by omega), h.valid.bandSize_toNat]

end Zones

/-! ### The copies -/

section Copies

variable {g : Geometry} {mapped : Nat} {o : Object} {position len : Nat} {bytes : Bytes}

/-- **Copying in stays in the band**, in one run of bytes or in two. -/
theorem Fits.copyIn_eq (h : Fits g mapped o) (hp : position < g.bandSize.toNat)
    (hl : bytes.length ≤ g.bandSize.toNat) :
    copyIn g mapped g.bandSize.toNat position bytes o = .ok (Ring.copyIn g position bytes o) := by
  have hband := h.valid.bandSize_toNat
  have htotal := h.valid.total_lt
  have hfit : g.fitting position bytes.length =
      min (g.bandSize.toNat - position) bytes.length := rfl
  have htake : (bytes.take (g.fitting position bytes.length)).length =
      g.fitting position bytes.length := by rw [List.length_take]; omega
  have hfirst : write g mapped .band (Header.size + position)
      (bytes.take (g.fitting position bytes.length)) o = .ok (o.write (Header.size + position)
        (bytes.take (g.fitting position bytes.length))) :=
    if_pos (h.within_band (by omega) (by rw [htake]; omega))
  rw [copyIn, sub, if_pos (by omega), ok_bind, add, if_pos (by omega), ok_bind, ← hfit, hfirst,
    ok_bind, Ring.copyIn]
  by_cases hwraps : g.fitting position bytes.length < bytes.length
  · -- what does not fit before the end of the band goes to its start
    have hrest : (bytes.drop (g.fitting position bytes.length)).take
        (bytes.length - g.fitting position bytes.length) =
          bytes.drop (g.fitting position bytes.length) :=
      List.take_of_length_le (by rw [List.length_drop])
    have hsecond : Within g mapped (o.write (Header.size + position)
        (bytes.take (g.fitting position bytes.length))) .band Header.size
          (bytes.drop (g.fitting position bytes.length)).length :=
      (h.after_write _ _).within_band (Nat.le_refl _) (by rw [List.length_drop]; omega)
    rw [if_pos hwraps, sub, if_pos (by omega), ok_bind, hrest, write, if_pos hsecond]
    exact congrArg Except.ok (if_pos hwraps).symm
  · rw [if_neg hwraps]
    exact congrArg Except.ok (if_neg hwraps).symm

/-- **Copying out stays in the band.** -/
theorem Fits.copyOut_eq (h : Fits g mapped o) (hp : position < g.bandSize.toNat)
    (hl : len ≤ g.bandSize.toNat) :
    copyOut g mapped g.bandSize.toNat position len o = .ok (Ring.copyOut g position len o) := by
  have hband := h.valid.bandSize_toNat
  have htotal := h.valid.total_lt
  have hfit : g.fitting position len = min (g.bandSize.toNat - position) len := rfl
  have hfirst : read g mapped .band (Header.size + position) (g.fitting position len) o =
      .ok (o.read (Header.size + position) (g.fitting position len)) :=
    if_pos (h.within_band (by omega) (by omega))
  rw [copyOut, sub, if_pos (by omega), ok_bind, add, if_pos (by omega), ok_bind, ← hfit, hfirst,
    ok_bind, Ring.copyOut]
  by_cases hwraps : g.fitting position len < len
  · have hsecond : Within g mapped o .band Header.size (len - g.fitting position len) :=
      h.within_band (Nat.le_refl _) (by omega)
    rw [if_pos hwraps, sub, if_pos (by omega), ok_bind, read, if_pos hsecond]
    rfl
  · have hnone : len - g.fitting position len = 0 := by omega
    rw [if_neg hwraps, hnone]
    exact congrArg Except.ok (List.append_nil _).symm

end Copies

/-! ### The operations -/

section Operations

variable {g : Geometry} {mapped : Nat} {o : Object}

/-- A counter modulo the size of the band, which is not zero. -/
theorem Fits.mod_eq (h : Fits g mapped o) (counter : UInt64) :
    mod counter.toNat g.bandSize.toNat = .ok (counter % g.bandSize).toNat := by
  have hpos := h.valid.bandSize_pos
  rw [mod, if_neg (by omega), UInt64.toNat_mod]

theorem Fits.mod_lt (h : Fits g mapped o) (counter : UInt64) :
    (counter % g.bandSize).toNat < g.bandSize.toNat := by
  rw [UInt64.toNat_mod]
  exact Nat.mod_lt _ h.valid.bandSize_pos

theorem Fits.enqueue_eq (h : Fits g mapped o) (element : Bytes) :
    enqueue g mapped element o = .ok (Ring.enqueue g element o) := by
  simp only [enqueue, Ring.enqueue]
  by_cases hx : element.length = g.elementSize.toNat
  · rw [if_neg (not_not.2 hx), if_neg (not_not.2 hx), h.lock_eq, ok_bind]
    by_cases hlock : o.lock = .broken
    · rw [if_pos hlock, if_pos hlock]
      rfl
    · rw [if_neg hlock, if_neg hlock, h.readIndex_eq, ok_bind, h.writeIndex_eq, ok_bind,
        h.bandSize_eq, ok_bind]
      by_cases hroom : g.bandSize ≤ Ring.writeIndex o - Ring.readIndex o
      · rw [if_pos (UInt64.le_iff_toNat_le.1 hroom), if_pos hroom]
        rfl
      · have hfits : element.length ≤ g.bandSize.toNat := by
          rw [hx]; exact h.valid.elementSize_le_bandSize
        have hcopied : Fits g mapped (Ring.copyIn g
            (Ring.writeIndex o % g.bandSize).toNat element o) := by
          unfold Ring.copyIn
          dsimp only
          split
          · exact (h.after_write _ _).after_write _ _
          · exact h.after_write _ _
        rw [if_neg fun hfull => hroom (UInt64.le_iff_toNat_le.2 hfull), if_neg hroom, h.mod_eq,
          ok_bind, h.copyIn_eq (h.mod_lt _) hfits, ok_bind, hcopied.setWord_eq (by decide), ok_bind]
        rfl
  · rw [if_pos hx, if_pos hx]
    rfl

theorem Fits.dequeue_eq (h : Fits g mapped o) (buffer : Bytes) :
    dequeue g mapped buffer o = .ok (Ring.dequeue g buffer o) := by
  simp only [dequeue, Ring.dequeue]
  by_cases hb : buffer.length = g.elementSize.toNat
  · rw [if_neg (not_not.2 hb), if_neg (not_not.2 hb), h.lock_eq, ok_bind]
    by_cases hlock : o.lock = .broken
    · rw [if_pos hlock, if_pos hlock]
      rfl
    · rw [if_neg hlock, if_neg hlock, h.readIndex_eq, ok_bind, h.writeIndex_eq, ok_bind]
      by_cases hnone : Ring.writeIndex o ≤ Ring.readIndex o
      · rw [if_pos hnone, if_pos hnone]
        rfl
      · have hfits : buffer.length ≤ g.bandSize.toNat := by
          rw [hb]; exact h.valid.elementSize_le_bandSize
        rw [if_neg hnone, if_neg hnone, h.bandSize_eq, ok_bind, h.mod_eq, ok_bind,
          h.copyOut_eq (h.mod_lt _) hfits, ok_bind, h.setWord_eq (by decide), ok_bind]
        rfl
  · rw [if_pos hb, if_pos hb]
    rfl

theorem Fits.clear_eq (h : Fits g mapped o) : clear g mapped o = .ok (Ring.clear o) := by
  unfold clear Ring.clear
  rw [h.lock_eq, ok_bind]
  by_cases hlock : o.lock = .broken
  · rw [if_pos hlock, if_pos hlock]
    rfl
  · rw [if_neg hlock, if_neg hlock, h.writeIndex_eq, ok_bind, h.setWord_eq (by decide)]

theorem Fits.length_eq (h : Fits g mapped o) : length g mapped o = .ok (Ring.length g o).toNat := by
  have hsize := h.valid.elementSize_pos
  unfold length Ring.length
  rw [h.lock_eq, ok_bind]
  by_cases hlock : o.lock = .broken
  · rw [if_pos hlock, if_pos hlock]
    rfl
  · rw [if_neg hlock, if_neg hlock, h.writeIndex_eq, ok_bind, h.readIndex_eq, ok_bind,
      div, if_neg (by omega), UInt64.toNat_div]

/-- **No call is refused anything**, and it does what the ring does. -/
theorem Fits.perform_eq (h : Fits g mapped o) (call : RingCall) :
    perform g mapped call o = .ok (Ring.perform g call o) := by
  cases call with
  | enqueue element => rw [perform, h.enqueue_eq]; rfl
  | dequeue buffer => rw [perform, h.dequeue_eq]; rfl
  | clear => rw [perform, h.clear_eq]; rfl
  | length => rw [perform, h.length_eq]; rfl
  | isEmpty =>
    have hflag : decide ((Ring.length g o).toNat = 0) = Ring.isEmpty g o := by
      rw [Ring.isEmpty, beq_eq_decide, decide_eq_decide, ← UInt64.toNat_inj]
      rfl
    rw [perform, h.length_eq, ok_bind, hflag]
    rfl
  | isFull =>
    have hflag : decide (g.capacity.toNat ≤ (Ring.length g o).toNat) = Ring.isFull g o :=
      decide_eq_decide.2 UInt64.le_iff_toNat_le.symm
    rw [perform, h.length_eq, ok_bind, hflag]
    rfl

end Operations

end Strict

end TwinRing
