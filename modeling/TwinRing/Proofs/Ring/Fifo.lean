import TwinRing.Proofs.Ring.Contents
import TwinRing.Proofs.Segment.Objects
/-!
# Rings — a bounded queue for all who have it open

A segment that holds a ring may be open in many places at once. The calls
that are made on it through all of these views, in whatever order, are
answered as one list would answer them that is never longer than the
capacity: `answers_eq_fifo`. The list is `Fifo.perform`; what ties it to
the bytes is that the unread elements of the object are that list after
every call (`perform_contents`).
-/

namespace TwinRing

/-! ## Calls and answers -/

/-- **A call on an open ring.** -/
inductive RingCall
  | enqueue (element : Bytes)
  | dequeue (buffer : Bytes)
  | clear
  | length
  | isEmpty
  | isFull

/-- **What a call is answered.** -/
inductive RingAnswer
  /-- Whether the element was put in. -/
  | put (moved : Bool)
  /-- Whether an element was taken out, and the buffer afterwards. -/
  | taken (moved : Bool) (buffer : Bytes)
  | done
  | count (n : Nat)
  | flag (value : Bool)
  deriving DecidableEq

/-- A call as a view answers it. -/
def View.perform (v : View) : RingCall → Store → RingAnswer × Store
  | .enqueue element, s =>
    let (attempt, s) := v.enqueue element s
    (.put attempt.isMoved, s)
  | .dequeue buffer, s =>
    let (attempt, buffer, s) := v.dequeue buffer s
    (.taken attempt.isMoved buffer, s)
  | .clear, s => (.done, v.clear s)
  | .length, s =>
    let (n, s) := v.length s
    (.count n.toNat, s)
  | .isEmpty, s =>
    let (value, s) := v.isEmpty s
    (.flag value, s)
  | .isFull, s =>
    let (value, s) := v.isFull s
    (.flag value, s)

/-- Calls through any views, one after another. -/
def View.performAll : List (View × RingCall) → Store → List RingAnswer × Store
  | [], s => ([], s)
  | (v, call) :: rest, s =>
    let (answer, s) := v.perform call s
    let (answers, s) := performAll rest s
    (answer :: answers, s)

namespace Fifo

/-- **A call as a list of at most so many elements of one size answers
it.** -/
def perform (capacity elementSize : Nat) (q : List Bytes) : RingCall → RingAnswer × List Bytes
  | .enqueue element =>
    if element.length = elementSize ∧ q.length < capacity then (.put true, q ++ [element])
    else (.put false, q)
  | .dequeue buffer =>
    if buffer.length = elementSize then
      match q with
      | [] => (.taken false buffer, [])
      | x :: rest => (.taken true x, rest)
    else (.taken false buffer, q)
  | .clear => (.done, [])
  | .length => (.count q.length, q)
  | .isEmpty => (.flag q.isEmpty, q)
  | .isFull => (.flag (decide (capacity ≤ q.length)), q)

/-- Calls on a list, one after another. -/
def performAll (capacity elementSize : Nat) :
    List RingCall → List Bytes → List RingAnswer × List Bytes
  | [], q => ([], q)
  | call :: rest, q =>
    let (answer, q) := perform capacity elementSize q call
    let (answers, q) := performAll capacity elementSize rest q
    (answer :: answers, q)

end Fifo

/-- How many elements a call has put in, by its answer. -/
def RingAnswer.puts : RingAnswer → Nat
  | .put true => 1
  | .put false => 0
  | .taken _ _ => 0
  | .done => 0
  | .count _ => 0
  | .flag _ => 0

def putCount (answers : List RingAnswer) : Nat := (answers.map RingAnswer.puts).sum

/-! ## One call on the object -/

namespace Ring

/-- A call on the object itself. -/
def perform (g : Geometry) : RingCall → Object → RingAnswer × Object
  | .enqueue element, o => (.put (enqueue g element o).1.isMoved, (enqueue g element o).2)
  | .dequeue buffer, o =>
    (.taken (dequeue g buffer o).1.isMoved (dequeue g buffer o).2.1, (dequeue g buffer o).2.2)
  | .clear, o => (.done, clear o)
  | .length, o => (.count (length g o).toNat, o)
  | .isEmpty, o => (.flag (isEmpty g o), o)
  | .isFull, o => (.flag (isFull g o), o)

variable {g : Geometry} {o : Object} {element buffer : Bytes}

/-- The object after a call follows the list after it. -/
structure Follows (g : Geometry) (o : Object) (call : RingCall) : Prop where
  answer : (perform g call o).1 =
    (Fifo.perform g.capacity.toNat g.elementSize.toNat (contents g o) call).1
  orderly : Orderly g (perform g call o).2
  /-- The unread elements are the list. -/
  contents_eq : contents g (perform g call o).2 =
    (Fifo.perform g.capacity.toNat g.elementSize.toNat (contents g o) call).2
  /-- The write index has grown by what was put in. -/
  written : (writeIndex (perform g call o).2).toNat =
    (writeIndex o).toNat + g.elementSize.toNat * (perform g call o).1.puts

/-- A call that neither the ring nor the list takes note of. -/
theorem Follows.of_unchanged {call : RingCall} (ho : Orderly g o) (answer : RingAnswer)
    (hring : perform g call o = (answer, o)) (hputs : answer.puts = 0)
    (hlist : Fifo.perform g.capacity.toNat g.elementSize.toNat (contents g o) call =
      (answer, contents g o)) : Follows g o call where
  answer := by rw [hring, hlist]
  orderly := by rw [hring]; exact ho
  contents_eq := by rw [hring, hlist]
  written := by rw [hring, hputs, Nat.mul_zero, Nat.add_zero]

theorem follows_enqueue (hv : g.Valid) (ho : Orderly g o)
    (hbound : (writeIndex o).toNat +
      g.elementSize.toNat * (perform g (.enqueue element) o).1.puts < UInt64.size) :
    Follows g o (.enqueue element) := by
  by_cases hx : element.length = g.elementSize.toNat
  · by_cases hroom : (contents g o).length < g.capacity.toNat
    · have hmoved : (enqueue g element o).1 = .moved := by
        rw [enqueue_of_room hv ho hx hroom]
      have hanswer : (perform g (.enqueue element) o).1 = .put true := by
        rw [perform, hmoved]; rfl
      rw [hanswer, RingAnswer.puts, Nat.mul_one] at hbound
      obtain ⟨hord, hcontents, hwrite⟩ := contents_enqueue hv ho hx hroom hbound
      have hlist : Fifo.perform g.capacity.toNat g.elementSize.toNat (contents g o)
          (.enqueue element) = (.put true, contents g o ++ [element]) := if_pos ⟨hx, hroom⟩
      exact ⟨by rw [hanswer, hlist], hord, by rw [hlist]; exact hcontents,
        by rw [hanswer, RingAnswer.puts, Nat.mul_one]; exact hwrite⟩
    · refine .of_unchanged ho (.put false) ?_ rfl (if_neg fun h => hroom h.2)
      rw [perform, enqueue_of_full hv ho hx (Nat.le_of_not_lt hroom)]
      rfl
  · have hrefused : enqueue g element o = (.wrongLength, o) := if_pos hx
    refine .of_unchanged ho (.put false) ?_ rfl (if_neg fun h => hx h.1)
    rw [perform, hrefused]
    rfl

theorem follows_dequeue (hv : g.Valid) (ho : Orderly g o) : Follows g o (.dequeue buffer) := by
  by_cases hb : buffer.length = g.elementSize.toNat
  · cases hq : contents g o with
    | nil =>
      refine .of_unchanged ho (.taken false buffer) ?_ rfl ?_
      · rw [perform, dequeue_of_nil hv ho hb hq]
        rfl
      · rw [hq]
        exact if_pos hb
    | cons x rest =>
      obtain ⟨hord, hrest, hwrite⟩ := contents_dequeue hv ho hb hq
      have hanswer : (perform g (.dequeue buffer) o).1 = .taken true x := by
        rw [perform, dequeue_of_cons hv ho hb hq]; rfl
      have hlist : Fifo.perform g.capacity.toNat g.elementSize.toNat (contents g o)
          (.dequeue buffer) = (.taken true x, rest) := by
        rw [hq]; exact if_pos hb
      exact ⟨by rw [hanswer, hlist], hord, by rw [hlist]; exact hrest,
        by rw [hanswer, RingAnswer.puts, Nat.mul_zero, Nat.add_zero, ← hwrite]; rfl⟩
  · have hrefused : dequeue g buffer o = (.wrongLength, buffer, o) := if_pos hb
    refine .of_unchanged ho (.taken false buffer) ?_ rfl (if_neg hb)
    rw [perform, hrefused]
    rfl

theorem follows_clear (hv : g.Valid) (ho : Orderly g o) : Follows g o .clear := by
  obtain ⟨hread, hwrite, hlock⟩ := readIndex_clear ho.lock
  have hlevel := hread.trans hwrite.symm
  refine ⟨rfl, orderly_of_readIndex_eq hv hlock hlevel, contents_of_readIndex_eq hlevel, ?_⟩
  rw [perform, hwrite, RingAnswer.puts, Nat.mul_zero, Nat.add_zero]

theorem isEmpty_eq (hv : g.Valid) (ho : Orderly g o) : isEmpty g o = (contents g o).isEmpty := by
  have hlength := toNat_length hv ho
  rw [isEmpty, Bool.eq_iff_iff, beq_iff_eq, List.isEmpty_iff, ← List.length_eq_zero_iff,
    ← hlength, ← UInt64.toNat_inj]
  rfl

theorem isFull_eq (hv : g.Valid) (ho : Orderly g o) :
    isFull g o = decide (g.capacity.toNat ≤ (contents g o).length) := by
  rw [← toNat_length hv ho, isFull, decide_eq_decide, UInt64.le_iff_toNat_le]

/-- **Every call does to the unread elements what it does to the list**,
and the write index grows by the element that was put in. -/
theorem perform_contents (hv : g.Valid) (ho : Orderly g o) (call : RingCall)
    (hbound : (writeIndex o).toNat + g.elementSize.toNat * (perform g call o).1.puts <
      UInt64.size) : Follows g o call := by
  cases call with
  | enqueue element => exact follows_enqueue hv ho hbound
  | dequeue buffer => exact follows_dequeue hv ho
  | clear => exact follows_clear hv ho
  | length =>
    refine .of_unchanged ho _ rfl rfl ?_
    rw [Fifo.perform, toNat_length hv ho]
  | isEmpty =>
    refine .of_unchanged ho _ rfl rfl ?_
    rw [Fifo.perform, isEmpty_eq hv ho]
  | isFull =>
    refine .of_unchanged ho _ rfl rfl ?_
    rw [Fifo.perform, isFull_eq hv ho]

end Ring

/-! ## Calls through views -/

/-- **A view on the ring of an object**, as opening gives it: its shape is
one that a ring can have, and its object is there. -/
structure View.IsOn (v : View) (g : Geometry) (number : Nat) (s : Store) : Prop where
  /-- The shape it was opened with. -/
  geometry : v.geometry = g
  /-- The object it was opened on. -/
  object : v.handle.object = number
  /-- Opening accepts the shape. -/
  valid : g.Valid
  /-- The object is there. -/
  live : number < s.objects.size

namespace View

variable {v : View} {g : Geometry} {number : Nat} {s : Store}

/-- **A call through a view is the call on its object**, if that is there,
and takes no object away. -/
theorem perform_eq_of_live (live : v.handle.object < s.objects.size) (call : RingCall) :
    (v.perform call s).1 = (Ring.perform v.geometry call (s.object v.handle.object)).1 ∧
      (v.perform call s).2.object v.handle.object =
        (Ring.perform v.geometry call (s.object v.handle.object)).2 ∧
      (v.perform call s).2.objects.size = s.objects.size := by
  cases call with
  | enqueue element =>
    rw [perform, enqueue_eq]
    exact ⟨rfl, Store.object_setObject_self live, Store.size_setObject⟩
  | dequeue buffer =>
    rw [perform, dequeue_eq]
    exact ⟨rfl, Store.object_setObject_self live, Store.size_setObject⟩
  | clear => exact ⟨rfl, Store.object_setObject_self live, Store.size_setObject⟩
  | length => exact ⟨rfl, rfl, rfl⟩
  | isEmpty => exact ⟨rfl, rfl, rfl⟩
  | isFull => exact ⟨rfl, rfl, rfl⟩

theorem perform_eq (hon : v.IsOn g number s) (call : RingCall) :
    (v.perform call s).1 = (Ring.perform g call (s.object number)).1 ∧
      (v.perform call s).2.object number = (Ring.perform g call (s.object number)).2 ∧
      (v.perform call s).2.objects.size = s.objects.size := by
  obtain ⟨rfl, rfl, -, live⟩ := hon
  exact perform_eq_of_live live call

/-- **From any state in order, all calls are answered as the list answers
them**, and the unread elements are the list at the end. -/
theorem performAll_of_orderly {calls : List (View × RingCall)}
    (hon : ∀ c ∈ calls, c.1.IsOn g number s) (ho : Ring.Orderly g (s.object number))
    (hbound : (Ring.writeIndex (s.object number)).toNat +
      g.elementSize.toNat * putCount (performAll calls s).1 < UInt64.size) :
    (performAll calls s).1 = (Fifo.performAll g.capacity.toNat g.elementSize.toNat
        (calls.map Prod.snd) (Ring.contents g (s.object number))).1 ∧
      Ring.contents g ((performAll calls s).2.object number) =
        (Fifo.performAll g.capacity.toNat g.elementSize.toNat
          (calls.map Prod.snd) (Ring.contents g (s.object number))).2 := by
  induction calls generalizing s with
  | nil => exact ⟨rfl, rfl⟩
  | cons c rest ih =>
    obtain ⟨v, call⟩ := c
    have hv := hon _ (List.mem_cons_self ..)
    obtain ⟨hanswer, hobject, hsize⟩ := perform_eq hv call
    -- What is put in later is room that this call must leave below the word.
    have hcount : putCount (performAll ((v, call) :: rest) s).1 =
        (Ring.perform g call (s.object number)).1.puts +
          putCount (performAll rest (v.perform call s).2).1 := by
      rw [← hanswer]; exact List.sum_cons
    rw [hcount, Nat.mul_add] at hbound
    have hfollows := Ring.perform_contents hv.valid ho call (by omega)
    obtain ⟨hanswers, hcontents⟩ := ih (s := (v.perform call s).2)
      (fun c hc => by
        have h := hon c (List.mem_cons_of_mem _ hc)
        exact ⟨h.geometry, h.object, h.valid, by rw [hsize]; exact h.live⟩)
      (by rw [hobject]; exact hfollows.orderly)
      (by rw [hobject, hfollows.written]; omega)
    rw [hobject, hfollows.contents_eq] at hanswers hcontents
    refine ⟨?_, hcontents⟩
    change (v.perform call s).1 :: (performAll rest (v.perform call s).2).1 = _ :: _
    rw [hanswers, hanswer, hfollows.answer]
    rfl

/-- **A ring is a bounded queue for all who have it open.** Its indices
are equal at the start, wherever they stand, and its write index does not
run over. Then the calls made through any views on it, in any order, are
answered as by a list that is empty at the start and never longer than the
capacity; and that list is unread at the end. -/
theorem answers_eq_fifo {calls : List (View × RingCall)}
    (hon : ∀ c ∈ calls, c.1.IsOn g number s) (hlock : (s.object number).lock = .sound)
    (hlevel : Ring.readIndex (s.object number) = Ring.writeIndex (s.object number))
    (hbound : (Ring.writeIndex (s.object number)).toNat +
      g.elementSize.toNat * putCount (performAll calls s).1 < UInt64.size) :
    (performAll calls s).1 = (Fifo.performAll g.capacity.toNat g.elementSize.toNat
        (calls.map Prod.snd) []).1 ∧
      Ring.contents g ((performAll calls s).2.object number) =
        (Fifo.performAll g.capacity.toNat g.elementSize.toNat (calls.map Prod.snd) []).2 := by
  have hnil : Ring.contents g (s.object number) = [] := Ring.contents_of_readIndex_eq hlevel
  rw [← hnil]
  cases calls with
  | nil => exact ⟨rfl, rfl⟩
  | cons c rest =>
    have hv := (hon c (List.mem_cons_self ..)).valid
    exact performAll_of_orderly hon (Ring.orderly_of_readIndex_eq hv hlock hlevel) hbound

/-- A ring of two elements of three bytes, both indices at four: every
second element runs past the end of the band. -/
def askewStore : Store := { objects := #[Ring.setIndices 4 4 { size := 62 }] }

/-- A view on it, of its creator or of another. -/
def askewView (creator : Bool) (descriptor : Nat) : View :=
  ⟨⟨⟨['a'], List.cons_ne_nil _ _, List.forall_mem_singleton.2 ⟨by decide, by decide⟩⟩,
    62, creator, descriptor, 0⟩, ⟨2, 3⟩⟩

/-- Two views on it, more puts than it has room for, and a wrong buffer. -/
def askewCalls : List (View × RingCall) :=
  [(askewView true 0, .enqueue [1, 2, 3]), (askewView false 1, .enqueue [4, 5]),
    (askewView false 1, .enqueue [4, 5, 6]), (askewView true 0, .enqueue [7, 8, 9]),
    (askewView false 1, .isFull), (askewView true 0, .dequeue [0, 0, 0])]

theorem answers_eq_fifo_askew :
    (performAll askewCalls askewStore).1 = (Fifo.performAll 2 3 (askewCalls.map Prod.snd) []).1 ∧
      Ring.contents ⟨2, 3⟩ ((performAll askewCalls askewStore).2.object 0) =
        (Fifo.performAll 2 3 (askewCalls.map Prod.snd) []).2 := by
  have hvalid : Geometry.Valid ⟨2, 3⟩ := ⟨by decide, by decide, by decide⟩
  have hview : ∀ creator descriptor, (askewView creator descriptor).IsOn ⟨2, 3⟩ 0 askewStore :=
    fun _ _ => ⟨rfl, rfl, hvalid, by decide⟩
  have hon : ∀ c ∈ askewCalls, c.1.IsOn ⟨2, 3⟩ 0 askewStore := by
    intro c hc
    simp only [askewCalls, List.mem_cons, List.not_mem_nil, or_false] at hc
    rcases hc with rfl | rfl | rfl | rfl | rfl | rfl <;> exact hview _ _
  exact answers_eq_fifo hon (by decide +kernel) (by decide +kernel) (by decide +kernel)

end View

end TwinRing
