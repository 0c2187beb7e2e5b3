import TwinRing.Proofs.Ring.Fifo
import TwinRing.Proofs.Ring.Undoing
/-!
# Rings — from one worker to another

A ring between two workers holds what one has put in and the other has not
taken out yet: `Conduit` says so of two lists, and that the write index
counts the bytes of the first. It is kept by whatever a worker does at the
ring (`Conduit.put`, `Conduit.take`), as long as those bytes fit the index.
-/

namespace TwinRing

namespace Ring

variable {g : Geometry} {sent taken : List Bytes} {o : Object}

/-- **A ring that holds what was put in and not taken out.** -/
structure Conduit (g : Geometry) (sent taken : List Bytes) (o : Object) : Prop where
  orderly : Orderly g o
  sequence : sent = taken ++ contents g o
  written : (writeIndex o).toNat = sent.flatten.length

namespace Conduit

/-- A fresh ring is one from which nothing has gone to anywhere. -/
theorem of_fresh (hv : g.Valid) (h : Fresh o) : Conduit g [] [] o where
  orderly := orderly_of_readIndex_eq hv h.lock (h.zeroed.1.trans h.zeroed.2.symm)
  sequence := (contents_of_readIndex_eq (h.zeroed.1.trans h.zeroed.2.symm)).symm
  written := by
    rw [h.zeroed.2]
    rfl

/-- To clear a ring that nothing was put in changes nothing. -/
theorem clear (hv : g.Valid) (h : Conduit g [] taken o) : Conduit g [] taken (clear o) := by
  obtain ⟨hread, hwrite, hlock⟩ := readIndex_clear h.orderly.lock
  have hlevel := hread.trans hwrite.symm
  have htaken : taken = [] := (List.append_eq_nil_iff.1 h.sequence.symm).1
  refine ⟨orderly_of_readIndex_eq hv hlock hlevel, ?_, by rw [hwrite, h.written]⟩
  rw [htaken, contents_of_readIndex_eq hlevel]
  rfl

variable {buffer after : Bytes} {attempt : Attempt} {o' : Object}

/-- **A change that leaves the indices and the band alone**, and the lock
free, is not seen. -/
theorem congr (h : Conduit g sent taken o) (hlock : o'.lock = .sound)
    (hread : readIndex o' = readIndex o) (hwrite : writeIndex o' = writeIndex o)
    (hband : ∀ k, bandByte g o' k = bandByte g o k) : Conduit g sent taken o' := by
  have hcount : unreadCount g o' = unreadCount g o := by
    rw [unreadCount, unreadCount, hread, hwrite]
  have hcontents : contents g o' = contents g o := by
    rw [contents, contents, hcount, hread]
    exact elements_congr fun i _ => window_congr fun j _ => hband _
  refine ⟨⟨hlock, ?_, ?_⟩, ?_, ?_⟩
  · rw [hwrite, hread, hcount, h.orderly.distance]
  · rw [hcount]
    exact h.orderly.room
  · rw [hcontents]
    exact h.sequence
  · rw [hwrite]
    exact h.written

/-- The size of the object is not seen. -/
theorem resize (h : Conduit g sent taken o) (size : Nat) :
    Conduit g sent taken { o with size } :=
  h.congr h.orderly.lock rfl rfl fun _ => rfl

/-- Nor is it seen that the lock is made anew. -/
theorem makeLock (h : Conduit g sent taken o) {kind : UInt8}
    (hkind : kind = Lock.sharedKind ∨ kind = Lock.plainKind) :
    Conduit g sent taken (o.makeLock kind) :=
  h.congr (Object.lock_makeLock hkind) (Object.wordAt_makeLock_of_le (by decide))
    (Object.wordAt_makeLock_of_le (by decide)) fun _ =>
      Object.byteAt_makeLock_of_le (Nat.le_trans (by decide) (Nat.le_add_right ..))

/-- To set the indices to zero is to begin anew. -/
theorem zeroed (hv : g.Valid) (h : Conduit g sent taken o) :
    Conduit g [] [] (setIndices 0 0 o) :=
  of_fresh hv (fresh_of_lock h.orderly.lock)

/-- **What the writer's worker puts in is the last to be taken out.** -/
theorem put (hv : g.Valid) (h : Conduit g sent taken o)
    (hserved : serve .writer g buffer o = (attempt, after, o'))
    (hbound : (sent ++ if attempt.isMoved then [buffer] else []).flatten.length < UInt64.size) :
    Conduit g (sent ++ if attempt.isMoved then [buffer] else []) taken o' := by
  have hanswer : perform g (.enqueue buffer) o = (.put attempt.isMoved, o') := by
    have hattempt : (enqueue g buffer o).1 = attempt := congrArg (·.1) hserved
    have hobject : (enqueue g buffer o).2 = o' := congrArg (·.2.2) hserved
    rw [perform, hattempt, hobject]
  have hlength : attempt.isMoved = true → buffer.length = g.elementSize.toNat := by
    intro hmoved
    by_contra hne
    have hwrong : (enqueue g buffer o).1 = .wrongLength := by simp only [enqueue, if_pos hne]
    rw [show attempt = (enqueue g buffer o).1 from (congrArg (·.1) hserved).symm, hwrong] at hmoved
    exact Bool.noConfusion hmoved
  have hgrowth : (sent ++ if attempt.isMoved then [buffer] else []).flatten.length =
      sent.flatten.length + g.elementSize.toNat * (RingAnswer.put attempt.isMoved).puts := by
    cases hmoved : attempt.isMoved with
    | true => simp [hlength hmoved, RingAnswer.puts]
    | false => simp [RingAnswer.puts]
  have hfollows : Follows g o (.enqueue buffer) :=
    follows_enqueue hv h.orderly (by rw [hanswer, h.written, ← hgrowth]; exact hbound)
  obtain ⟨hlist, horderly, hcontents, hwritten⟩ := hfollows
  rw [hanswer] at hlist horderly hcontents hwritten
  refine ⟨horderly, ?_, by rw [hwritten, h.written, hgrowth]⟩
  have hsequence := h.sequence
  by_cases hput : buffer.length = g.elementSize.toNat ∧ (contents g o).length < g.capacity.toNat
  · rw [Fifo.perform, if_pos hput] at hlist hcontents
    rw [RingAnswer.put.inj hlist, if_pos rfl, hcontents, hsequence, List.append_assoc]
  · rw [Fifo.perform, if_neg hput] at hlist hcontents
    rw [RingAnswer.put.inj hlist, if_neg Bool.false_ne_true, List.append_nil, hcontents, hsequence]

/-- **What the reader's worker takes out is the first that is there.** -/
theorem take (hv : g.Valid) (h : Conduit g sent taken o)
    (hserved : serve .reader g buffer o = (attempt, after, o')) :
    Conduit g sent (taken ++ if attempt.isMoved then [after] else []) o' := by
  have hserved : dequeue g buffer o = (attempt, after, o') := hserved
  have hanswer : perform g (.dequeue buffer) o = (.taken attempt.isMoved after, o') := by
    rw [perform, hserved]
  have hfollows : Follows g o (.dequeue buffer) := follows_dequeue hv h.orderly
  obtain ⟨hlist, horderly, hcontents, hwritten⟩ := hfollows
  rw [hanswer] at hlist horderly hcontents hwritten
  rw [RingAnswer.puts, Nat.mul_zero, Nat.add_zero, h.written] at hwritten
  refine ⟨horderly, ?_, hwritten⟩
  have hsequence := h.sequence
  by_cases hb : buffer.length = g.elementSize.toNat
  · cases hq : contents g o with
    | nil =>
      have hnone : Fifo.perform g.capacity.toNat g.elementSize.toNat [] (.dequeue buffer) =
          (.taken false buffer, []) := if_pos hb
      rw [hq, hnone] at hlist hcontents
      rw [(RingAnswer.taken.inj hlist).1, if_neg Bool.false_ne_true, List.append_nil, hcontents,
        hsequence, hq]
    | cons x rest =>
      have hfirst : Fifo.perform g.capacity.toNat g.elementSize.toNat (x :: rest)
          (.dequeue buffer) = (.taken true x, rest) := if_pos hb
      rw [hq, hfirst] at hlist hcontents
      obtain ⟨hmoved, hafter⟩ := RingAnswer.taken.inj hlist
      rw [hmoved, if_pos rfl, hcontents, hafter, hsequence, hq, List.append_assoc]
      rfl
  · have hwrong : Fifo.perform g.capacity.toNat g.elementSize.toNat (contents g o)
        (.dequeue buffer) = (.taken false buffer, contents g o) := if_neg hb
    rw [hwrong] at hlist hcontents
    rw [(RingAnswer.taken.inj hlist).1, if_neg Bool.false_ne_true, List.append_nil, hcontents,
      hsequence]

end Conduit

end Ring

end TwinRing
