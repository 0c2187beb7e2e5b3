import TwinRing.Proofs.Ring.Conduit
/-!
# Opening a ring together — several processes and one name

Any number of processes open a ring under one name. Each takes the steps
of `RingOpening.step` one at a time, and puts in and takes out through the
view that it gets at their end. A `Race` is where all of them stand, with
the store that they share, and a `Move` is one step of one of them. What
holds after every list of moves holds in every order in which they can
act.

Beside that a race keeps a record of what was done to the object. No step
reads it. `Account` ties it to the ring: what was put in is what was taken
out and what is unread, counted anew from the moment that the indices were
set to zero (`Account.kept_iff`).
-/

namespace TwinRing

namespace Race

/-- **One step of one process.** -/
inductive Move (ι : Type)
  /-- It takes the next step of its open. -/
  | advance (p : ι)
  /-- It puts an element in, if it has its view. -/
  | enqueue (p : ι) (element : Bytes)
  /-- It takes an element out, if it has its view. -/
  | dequeue (p : ι) (buffer : Bytes)
  deriving DecidableEq

/-- **What was done at a move.** -/
inductive Note (ι : Type)
  /-- The object was given its size. -/
  | sized (p : ι)
  /-- The object was measured. -/
  | measured (p : ι)
  /-- The indices were set to zero. -/
  | zeroed (p : ι)
  /-- An element was put in. -/
  | put (p : ι) (element : Bytes)
  /-- An element was taken out. -/
  | took (p : ι) (element : Bytes)

end Race

/-- **Where all stand who open a ring under one name.** -/
structure Race (ι : Type) where
  store : Store
  /-- How far each of them has come. -/
  opening : ι → RingOpening := fun _ => .segment .creating
  /-- What was done so far, oldest first. -/
  record : List (Race.Note ι) := []

namespace RingOpening

/-- An open that has no steps left has its view or has failed. -/
theorem stepsLeft_eq_zero_iff {o : RingOpening} :
    o.stepsLeft = 0 ↔ (∃ v, o = .opened v) ∨ ∃ cause, o = .failed cause := by
  cases o <;> simp [stepsLeft]

/-- The view that an open has come to. -/
def view? : RingOpening → Option View
  | .opened v => some v
  | _ => none

theorem view?_eq_some_iff {o : RingOpening} {v : View} : o.view? = some v ↔ o = .opened v := by
  cases o <;> simp [view?]

/-- What the step from one place to the next does to the object. -/
def notes {ι : Type} (p : ι) : RingOpening → RingOpening → List (Race.Note ι)
  | .segment (.sizing _), .segment (.mapping _ _) => [.sized p]
  | .segment (.measuring _), _ => [.measured p]
  | .zeroing _, _ => [.zeroed p]
  | _, _ => []

end RingOpening

namespace Race

variable {ι : Type}

/-- All are about to open, and nothing was done. -/
def start (s : Store) : Race ι := { store := s }

/-- **Let one process take its step.** -/
def move [DecidableEq ι] (name : SegmentName) (g : Geometry) (size : UInt64) (r : Race ι) :
    Move ι → Race ι
  | .advance p =>
    let (o, s) := (r.opening p).step name g size r.store
    { store := s
      opening := Function.update r.opening p o
      record := r.record ++ (r.opening p).notes p o }
  | .enqueue p element =>
    match (r.opening p).view? with
    | none => r
    | some v =>
      let (attempt, s) := v.enqueue element r.store
      { r with
        store := s
        record := r.record ++ if attempt.isMoved then [.put p element] else [] }
  | .dequeue p buffer =>
    match (r.opening p).view? with
    | none => r
    | some v =>
      let (attempt, element, s) := v.dequeue buffer r.store
      { r with
        store := s
        record := r.record ++ if attempt.isMoved then [.took p element] else [] }

/-- Moves one after another. -/
def run [DecidableEq ι] (name : SegmentName) (g : Geometry) (size : UInt64) (r : Race ι)
    (moves : List (Move ι)) : Race ι :=
  moves.foldl (move name g size) r

/-! ## Reading the record -/

/-- The element that was put in. -/
def Note.put? : Note ι → Option Bytes
  | .put _ x => some x
  | _ => none

/-- The element that was taken out. -/
def Note.took? : Note ι → Option Bytes
  | .took _ x => some x
  | _ => none

/-- What was put in, oldest first. -/
def puts (record : List (Note ι)) : List Bytes := record.filterMap Note.put?

/-- What was taken out, oldest first. -/
def takes (record : List (Note ι)) : List Bytes := record.filterMap Note.took?

/-- Someone has given the object its size. -/
def Sized (record : List (Note ι)) : Prop := ∃ p, .sized p ∈ record

/-- Nobody has set the indices to zero. -/
def Unzeroed (record : List (Note ι)) : Prop := ∀ p, .zeroed p ∉ record

/-- **A process has measured the object before it was given its size.** -/
def MeasuredEarly (p : ι) (record : List (Note ι)) : Prop :=
  ∃ before after, record = before ++ .measured p :: after ∧ ¬ Sized before

/-- **Whenever the indices were set to zero, nothing was unread**: all that
was put in by then had been taken out. -/
def ZeroedDry (record : List (Note ι)) : Prop :=
  ∀ before p after, record = before ++ .zeroed p :: after → puts before = takes before

variable {record recent : List (Note ι)} {p q : ι}

@[simp] theorem puts_append : puts (record ++ recent) = puts record ++ puts recent :=
  List.filterMap_append

@[simp] theorem takes_append : takes (record ++ recent) = takes record ++ takes recent :=
  List.filterMap_append

theorem puts_cut : puts (record ++ .zeroed p :: recent) = puts record ++ puts recent :=
  puts_append

theorem takes_cut : takes (record ++ .zeroed p :: recent) = takes record ++ takes recent :=
  takes_append

section Transfers

variable {moved : Bool} {x : Bytes}

theorem puts_put : puts (if moved then [Note.put p x] else []) = if moved then [x] else [] := by
  cases moved <;> rfl

theorem takes_put : takes (if moved then [Note.put p x] else []) = [] := by
  cases moved <;> rfl

theorem puts_took : puts (if moved then [Note.took p x] else []) = [] := by
  cases moved <;> rfl

theorem takes_took : takes (if moved then [Note.took p x] else []) = if moved then [x] else [] := by
  cases moved <;> rfl

end Transfers

theorem Unzeroed.ne_cut (h : Unzeroed record) {before after : List (Note ι)} :
    record ≠ before ++ .zeroed p :: after := by
  rintro rfl
  exact h p (List.mem_append_right _ (List.mem_cons_self ..))

theorem Unzeroed.append (h : Unzeroed record) (h' : Unzeroed recent) :
    Unzeroed (record ++ recent) := fun p hp =>
  (List.mem_append.1 hp).elim (h p) (h' p)

theorem sized_append : Sized (record ++ recent) ↔ Sized record ∨ Sized recent := by
  simp only [Sized, List.mem_append, exists_or]

theorem not_measuredEarly_nil : ¬ MeasuredEarly p [] := by
  rintro ⟨before, after, hrecord, -⟩
  exact List.append_ne_nil_of_right_ne_nil _ (List.cons_ne_nil _ _) hrecord.symm

/-- One more note tells of an early measuring if it is one itself. -/
theorem measuredEarly_concat {e : Note ι} :
    MeasuredEarly p (record ++ [e]) ↔
      MeasuredEarly p record ∨ e = .measured p ∧ ¬ Sized record := by
  constructor
  · rintro ⟨before, after, h, hsized⟩
    rcases List.eq_nil_or_concat after with rfl | ⟨rest, last, rfl⟩
    · obtain ⟨rfl, he⟩ := List.append_inj' h rfl
      exact .inr ⟨List.singleton_inj.1 he, hsized⟩
    · have h' : record ++ [e] = (before ++ .measured p :: rest) ++ [last] := by
        rw [h, List.concat_eq_append, List.append_assoc, List.cons_append]
      exact .inl ⟨before, rest, (List.append_inj' h' rfl).1, hsized⟩
  · rintro (⟨before, after, rfl, hsized⟩ | ⟨rfl, hsized⟩)
    · exact ⟨before, after ++ [e], by rw [List.append_assoc, List.cons_append], hsized⟩
    · exact ⟨record, [], rfl, hsized⟩

/-- Where the indices were set to zero once, the record is cut in one way. -/
theorem eq_of_zeroed {before before' after after' : List (Note ι)} (hbefore : Unzeroed before)
    (hafter : Unzeroed after)
    (h : before ++ .zeroed p :: after = before' ++ .zeroed q :: after') :
    before' = before ∧ after' = after := by
  rcases List.append_eq_append_iff.1 h with ⟨middle, rfl, hrest⟩ | ⟨middle, rfl, hrest⟩
  · cases middle with
    | nil => exact ⟨List.append_nil _, (List.cons.inj hrest).2.symm⟩
    | cons x middle => exact absurd (List.cons.inj hrest).2 hafter.ne_cut
  · cases middle with
    | nil => exact ⟨(List.append_nil _).symm, (List.cons.inj hrest).2⟩
    | cons x middle =>
      refine absurd ?_ (hbefore q)
      rw [(List.cons.inj hrest).1]
      exact List.mem_append_right _ (List.mem_cons_self ..)

/-! ## What the ring holds of it -/

variable {g : Geometry} {o o' : Object}

/-- **The ring holds what was put in and not taken out**, counted from the
moment that its indices were set to zero. What was unread at that moment
is lost. -/
inductive Account (g : Geometry) : List (Note ι) → Object → Prop
  | unzeroed {record : List (Note ι)} {o : Object} (hrecord : Unzeroed record)
      (ring : Ring.Conduit g (puts record) (takes record) o) : Account g record o
  | zeroed {before after : List (Note ι)} {p : ι} {lost : List Bytes} {o : Object}
      (hbefore : Unzeroed before) (hafter : Unzeroed after)
      (hlost : puts before = takes before ++ lost)
      (ring : Ring.Conduit g (puts after) (takes after) o) :
      Account g (before ++ .zeroed p :: after) o

namespace Account

/-- **What the ring does is put to the account.** The ring need only be
followed from where it is counted, and has taken no more bytes since. -/
theorem append (h : Account g record o) (hrecent : Unzeroed recent)
    (follow : ∀ counted, (puts counted).flatten.length ≤ (puts record).flatten.length →
      Ring.Conduit g (puts counted) (takes counted) o →
      Ring.Conduit g (puts (counted ++ recent)) (takes (counted ++ recent)) o') :
    Account g (record ++ recent) o' := by
  cases h with
  | unzeroed hrecord ring => exact .unzeroed (hrecord.append hrecent) (follow _ le_rfl ring)
  | @zeroed before after p lost _ hbefore hafter hlost ring =>
    rw [List.append_assoc, List.cons_append]
    refine .zeroed hbefore (hafter.append hrecent) hlost (follow _ ?_ ring)
    rw [puts_cut, List.flatten_append, List.length_append]
    exact Nat.le_add_left ..

/-- A change of the object that the ring does not see. -/
theorem unseen (h : Account g record o) (hrecent : Unzeroed recent)
    (hputs : puts recent = []) (htakes : takes recent = [])
    (ring : ∀ sent taken, Ring.Conduit g sent taken o → Ring.Conduit g sent taken o') :
    Account g (record ++ recent) o' := by
  refine h.append hrecent fun counted _ hring => ?_
  rw [puts_append, takes_append, hputs, htakes, List.append_nil, List.append_nil]
  exact ring _ _ hring

/-- **The count begins anew** when the indices are set to zero. -/
theorem restart (h : Account g record o) (hrecord : Unzeroed record)
    (ring : ∀ sent taken, Ring.Conduit g sent taken o → Ring.Conduit g [] [] o') :
    Account g (record ++ [.zeroed p]) o' := by
  cases h with
  | unzeroed _ hring =>
    exact .zeroed hrecord (fun _ => List.not_mem_nil) hring.sequence (ring _ _ hring)
  | zeroed => exact absurd rfl hrecord.ne_cut

variable (h : Account g record o)
include h

/-- **What was put in after the indices were set to zero is kept.** -/
theorem kept_after {before after : List (Note ι)}
    (hsplit : record = before ++ .zeroed p :: after) :
    puts after = takes after ++ Ring.contents g o := by
  cases h with
  | unzeroed hrecord _ => exact absurd hsplit hrecord.ne_cut
  | zeroed hbefore hafter _ ring =>
    obtain ⟨-, rfl⟩ := eq_of_zeroed hbefore hafter hsplit
    exact ring.sequence

/-- **All that was put in was taken out or is unread, exactly if nothing
was unread when the indices were set to zero.** -/
theorem kept_iff : puts record = takes record ++ Ring.contents g o ↔ ZeroedDry record := by
  cases h with
  | unzeroed hrecord ring =>
    exact iff_of_true ring.sequence fun _ _ _ hsplit => absurd hsplit hrecord.ne_cut
  | @zeroed before after p lost _ hbefore hafter hlost ring =>
    have hdry : ZeroedDry (before ++ .zeroed p :: after) ↔ lost = [] := by
      constructor
      · intro hdry
        exact List.append_right_eq_self.1 (hlost.symm.trans (hdry _ _ _ rfl))
      · rintro rfl before' q after' hsplit
        obtain ⟨rfl, -⟩ := eq_of_zeroed hbefore hafter hsplit
        rw [hlost, List.append_nil]
    rw [hdry, puts_cut, takes_cut, hlost, ring.sequence]
    constructor
    · -- the lost elements are what makes the one list longer than the other
      intro heq
      have hlength := congrArg List.length heq
      simp only [List.length_append] at hlength
      exact List.length_eq_zero_iff.1 (by omega)
    · rintro rfl
      rw [List.append_nil, List.append_assoc]

end Account

end Race

end TwinRing
