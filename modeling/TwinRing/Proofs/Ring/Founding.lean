import Mathlib.Data.List.Induction
import TwinRing.Proofs.Ring.Mapping
import TwinRing.Proofs.Ring.Race
import TwinRing.Proofs.Segment.Unfailing
/-!
# Opening a ring together — what it comes to

The first process to move creates the name, and is the founder: it gives
the object its size, zeroes the indices and makes the lock. All others
find the name bound. But they find it bound from the first step on, and
all that they ask of the object is its size. So a process that measures
the object before the founder has given it a size fails, and one that
measures it after that has its view while the indices are still to be set
to zero. `outcome_of_run` says what becomes of a race in either case:
every open succeeds exactly if none measured early, and nothing is lost
exactly if nothing was unread when the indices were set to zero.

`Founded` is what all that rests on: where the founder and the others may
stand, and how that is tied to the object.
-/

namespace TwinRing

namespace Race

variable {ι : Type} {name : SegmentName} {g : Geometry} {size : UInt64} {n : Nat} {s : Store}

/-- **Nothing stands in the way of an open**: no call is to fail, and the
system takes the name and the size. -/
structure Unhindered (name : SegmentName) (g : Geometry) (size : UInt64) (s : Store) : Prop where
  geometry : g.segmentSize = .ok size
  /-- So many bytes can be mapped. -/
  fits : size.toNat < Store.addressSpan
  /-- The name can be created. -/
  permitted : name.createRefusal? = none
  /-- Nobody has created it. -/
  absent : s.lookup name = none
  /-- No call is to fail. -/
  faultless : s.faults = []

namespace Unhindered

variable (h : Unhindered name g size s)
include h

theorem valid : g.Valid := (Geometry.segmentSize_eq_ok_iff.1 h.geometry).1

theorem size_pos : 0 < size.toNat := by
  rw [(Geometry.segmentSize_eq_ok_iff.1 h.geometry).2]
  exact Nat.lt_of_lt_of_le (by decide) (Nat.le_add_left ..)

theorem size_ne_zero : size ≠ 0 := fun hzero => by
  have hpos := h.size_pos
  rw [hzero] at hpos
  exact Nat.lt_irrefl _ hpos

theorem size_lt_bound : size.toNat < Store.sizeBound := Nat.lt_trans h.fits (by decide)

end Unhindered

/-- Why a process fails that has measured early. -/
def tooEarly (name : SegmentName) (size : UInt64) : SegmentError :=
  .sizeMismatch name.full size.toNat 0

/-! ## Where the processes stand -/

/-- **Where the founder may stand**, and that the indices are not zeroed
before it comes to that. -/
def FounderAt (g : Geometry) (n : Nat) (record : List (Note ι)) : RingOpening → Prop
  | .segment (.sizing d) => d.object = n ∧ Unzeroed record
  | .segment (.mapping d creator) => d.object = n ∧ creator = true ∧ Unzeroed record
  | .zeroing h => h.object = n ∧ h.creator = true ∧ Unzeroed record
  | .locking h => h.object = n ∧ h.creator = true
  | .opened v => v.handle.object = n ∧ v.geometry = g ∧ v.handle.creator = true
  | _ => False

/-- **Where the others may stand.** -/
def JoinerAt (name : SegmentName) (g : Geometry) (size : UInt64) (n : Nat) : RingOpening → Prop
  | .segment .creating => True
  | .segment .joining => True
  | .segment (.measuring d) => d.object = n
  | .segment (.mapping d creator) => d.object = n ∧ creator = false
  | .opened v => v.handle.object = n ∧ v.geometry = g ∧ v.handle.creator = false
  | .failed cause => cause = tooEarly name size
  | _ => False

/-- The name stands for the object, which is there, and no call is to
fail. -/
structure Ground (name : SegmentName) (n : Nat) (s : Store) : Prop where
  faultless : s.faults = []
  bound : s.lookup name = some n
  live : n < s.objects.size

theorem Ground.of_eq {s' : Store} (h : Ground name n s) (hfaults : s'.faults = s.faults)
    (hnames : s'.names = s.names) (hsize : s'.objects.size = s.objects.size) :
    Ground name n s' where
  faultless := hfaults.trans h.faultless
  bound := by rw [Store.lookup, hnames]; exact h.bound
  live := Nat.lt_of_lt_of_eq h.live hsize.symm

/-- **A race that has its founder.** -/
structure Founded (name : SegmentName) (g : Geometry) (size : UInt64) (n : Nat) (c : ι)
    (r : Race ι) : Prop where
  ground : Ground name n r.store
  founder : FounderAt g n r.record (r.opening c)
  joiners : ∀ p, p ≠ c → JoinerAt name g size n (r.opening p)
  /-- Those have failed who measured early. -/
  early : ∀ p, MeasuredEarly p r.record ↔ r.opening p = .failed (tooEarly name size)
  /-- The object is empty until it is given its size. -/
  sized : (Sized r.record ∧ (r.store.object n).size = size.toNat) ∨
    (¬ Sized r.record ∧ (r.store.object n).size = 0)
  /-- As long as the indices count what was put in, the ring can be
  followed. -/
  account : (puts r.record).flatten.length < UInt64.size →
    Account g r.record (r.store.object n)

section Places

variable {record recent : List (Note ι)} {o : RingOpening}

theorem FounderAt.append (h : FounderAt g n record o) (hrecent : Unzeroed recent) :
    FounderAt g n (record ++ recent) o := by
  cases o with
  | segment o =>
    cases o with
    | sizing d => exact ⟨h.1, h.2.append hrecent⟩
    | mapping d creator => exact ⟨h.1, h.2.1, h.2.2.append hrecent⟩
    | creating => exact h
    | joining => exact h
    | measuring d => exact h
    | opened k => exact h
    | failed cause => exact h
  | zeroing k => exact ⟨h.1, h.2.1, h.2.2.append hrecent⟩
  | locking k => exact h
  | opened v => exact h
  | failed cause => exact h

theorem FounderAt.ne_failed {cause : SegmentError} (h : FounderAt g n record o) :
    o ≠ .failed cause := by
  rintro rfl
  exact h

/-- Only a measuring can be an early one. -/
theorem measuredEarly_append {p : ι} (hrecent : ∀ q, .measured q ∉ recent) :
    MeasuredEarly p (record ++ recent) ↔ MeasuredEarly p record := by
  induction recent using List.reverseRecOn with
  | nil => rw [List.append_nil]
  | append_singleton recent e ih =>
    rw [← List.append_assoc, measuredEarly_concat,
      ih fun q hq => hrecent q (List.mem_append_left _ hq)]
    refine or_iff_left fun hlast => hrecent p (List.mem_append_right _ ?_)
    rw [hlast.1]
    exact List.mem_singleton_self _

end Places

/-! ## Opening -/

section Opening

variable [DecidableEq ι] {c p : ι} {r : Race ι} {o : RingOpening} {s' : Store}
  {recent : List (Note ι)}

theorem move_advance (h : (r.opening p).step name g size r.store = (o, s')) :
    r.move name g size (.advance p) =
      { store := s'
        opening := Function.update r.opening p o
        record := r.record ++ (r.opening p).notes p o } := by
  simp only [move, h]

/-- A process that has come to the end of its open stays there. -/
theorem move_advance_of_ended (h : (r.opening p).step name g size r.store = (r.opening p, r.store))
    (hnotes : (r.opening p).notes p (r.opening p) = []) : r.move name g size (.advance p) = r := by
  rw [move_advance h, hnotes, List.append_nil, Function.update_eq_self]

theorem move_enqueue {v : View} {element : Bytes} (hview : (r.opening p).view? = some v) :
    r.move name g size (.enqueue p element) =
      { r with
        store := (v.enqueue element r.store).2
        record := r.record ++
          if (v.enqueue element r.store).1.isMoved then [.put p element] else [] } := by
  simp only [move, hview]

theorem move_dequeue {v : View} {buffer : Bytes} (hview : (r.opening p).view? = some v) :
    r.move name g size (.dequeue p buffer) =
      { r with
        store := (v.dequeue buffer r.store).2.2
        record := r.record ++ if (v.dequeue buffer r.store).1.isMoved then
          [.took p (v.dequeue buffer r.store).2.1] else [] } := by
  simp only [move, hview]

/-- Without a view there is nothing to call on. -/
theorem move_of_view?_eq_none {m : Move ι}
    (hm : (∃ element, m = .enqueue p element) ∨ ∃ buffer, m = .dequeue p buffer)
    (hview : (r.opening p).view? = none) : r.move name g size m = r := by
  rcases hm with ⟨element, rfl⟩ | ⟨buffer, rfl⟩ <;> simp only [move, hview]

/-- **The first to move is the founder.** -/
theorem founded_of_start (hu : Unhindered name g size s) :
    Founded name g size s.objects.size p ((start s).move name g size (.advance p)) := by
  rw [move_advance (RingOpening.step_creating_of_absent hu.faultless hu.permitted hu.absent)]
  set s' : Store := { s with
    names := (name, s.objects.size) :: s.names
    objects := s.objects.push {}
    descriptors := s.nextDescriptor :: s.descriptors
    nextDescriptor := s.nextDescriptor + 1 } with hs'
  have hnew : s'.object s.objects.size = {} := by simp [hs', Store.object]
  refine ⟨⟨hu.faultless, List.lookup_cons_self, ?_⟩, ?_, fun q hq => ?_, fun q => ?_, .inr ⟨?_, ?_⟩,
    fun _ => .unzeroed (fun _ => List.not_mem_nil) ?_⟩ <;> dsimp only
  · rw [hs', Array.size_push]
    exact Nat.lt_succ_self _
  · rw [Function.update_self]
    exact ⟨rfl, fun _ => List.not_mem_nil⟩
  · rw [Function.update_of_ne hq]
    trivial
  · refine iff_of_false not_measuredEarly_nil fun hfailed => ?_
    by_cases hq : q = p
    · rw [hq, Function.update_self] at hfailed
      cases hfailed
    · rw [Function.update_of_ne hq] at hfailed
      cases hfailed
  · rintro ⟨q, hq⟩
    exact List.not_mem_nil hq
  · exact congrArg Object.size hnew
  · rw [hnew]
    exact .of_fresh hu.valid ⟨⟨by decide, by decide⟩, by decide⟩

namespace Founded

variable (h : Founded name g size n c r)
include h

/-- What a step of the founder has to leave. It never measures, and puts
nothing in. -/
theorem founder_moved (recent : List (Note ι)) {from' : RingOpening}
    (hopening : r.opening c = from') (hstep : from'.step name g size r.store = (o, s'))
    (hnotes : from'.notes c o = recent)
    (hmeasured : ∀ q, .measured q ∉ recent)
    (hputs : puts recent = []) (ground : Ground name n s')
    (founder : FounderAt g n (r.record ++ recent) o)
    (sized : (Sized (r.record ++ recent) ∧ (s'.object n).size = size.toNat) ∨
      (¬ Sized (r.record ++ recent) ∧ (s'.object n).size = 0))
    (account : Account g r.record (r.store.object n) →
      Account g (r.record ++ recent) (s'.object n)) :
    Founded name g size n c (r.move name g size (.advance c)) := by
  subst hopening
  rw [move_advance hstep, hnotes]
  refine ⟨ground, ?_, fun p hp => ?_, fun p => ?_, sized, fun hbound => account (h.account ?_)⟩ <;>
    dsimp only at *
  · rw [Function.update_self]
    exact founder
  · rw [Function.update_of_ne hp]
    exact h.joiners p hp
  · rw [measuredEarly_append hmeasured, h.early p]
    by_cases hp : p = c
    · subst hp
      rw [Function.update_self]
      exact iff_of_false h.founder.ne_failed founder.ne_failed
    · rw [Function.update_of_ne hp]
  · rwa [puts_append, hputs, List.append_nil] at hbound

theorem advance_founder (hu : Unhindered name g size s) :
    Founded name g size n c (r.move name g size (.advance c)) := by
  have hfounder := h.founder
  have hlive := h.ground.live
  cases hopening : r.opening c with
  | segment o =>
    rw [hopening] at hfounder
    cases o with
    | sizing d =>
      obtain ⟨rfl, hunzeroed⟩ := hfounder
      have quiet : Unzeroed [Note.sized c] := by simp [Unzeroed]
      refine h.founder_moved [.sized c] hopening
        (RingOpening.step_sizing h.ground.faultless hu.size_lt_bound) rfl (by simp) rfl
        (h.ground.of_eq rfl rfl Store.size_modifyObject) ⟨rfl, rfl, hunzeroed.append quiet⟩
        (.inl ⟨?_, ?_⟩) fun haccount => ?_
      · exact sized_append.2 (.inr ⟨c, List.mem_singleton_self _⟩)
      · rw [Store.object_modifyObject_self hlive]
      · rw [Store.object_modifyObject_self hlive]
        exact haccount.unseen quiet rfl rfl fun _ _ ring => ring.resize _
    | mapping d creator =>
      obtain ⟨rfl, rfl, hunzeroed⟩ := hfounder
      refine h.founder_moved [] (o := .zeroing ⟨name, size, true, d.number, d.object⟩) hopening
        (RingOpening.step_mapping h.ground.faultless hu.size_ne_zero hu.fits true)
        rfl (fun _ => List.not_mem_nil) rfl (h.ground.of_eq rfl rfl rfl) ⟨rfl, rfl, ?_⟩ ?_
        fun haccount => ?_ <;> rw [List.append_nil]
      · exact hunzeroed
      · exact h.sized
      · exact haccount
    | creating => exact hfounder.elim
    | joining => exact hfounder.elim
    | measuring d => exact hfounder.elim
    | opened k => exact hfounder.elim
    | failed cause => exact hfounder.elim
  | zeroing k =>
    rw [hopening] at hfounder
    obtain ⟨rfl, hcreator, hunzeroed⟩ := hfounder
    refine h.founder_moved [.zeroed c] hopening rfl rfl (by simp) rfl
      (h.ground.of_eq rfl rfl Store.size_modifyObject) ⟨rfl, hcreator⟩ ?_ fun haccount => ?_ <;>
      rw [Store.object_modifyObject_self hlive]
    · rw [RingOpening.size_setIndices, sized_append,
        or_iff_left (show ¬ Sized [Note.zeroed c] by simp [Sized])]
      exact h.sized
    · exact haccount.restart hunzeroed fun _ _ ring => ring.zeroed hu.valid
  | locking k =>
    rw [hopening] at hfounder
    obtain ⟨rfl, hcreator⟩ := hfounder
    refine h.founder_moved [] hopening (RingOpening.step_locking h.ground.faultless k) rfl
      (fun _ => List.not_mem_nil) rfl (h.ground.of_eq rfl rfl Store.size_modifyObject)
      ⟨rfl, rfl, hcreator⟩ ?_ fun haccount => ?_ <;> rw [Store.object_modifyObject_self hlive]
    · rw [Object.size_makeLock, List.append_nil]
      exact h.sized
    · exact haccount.unseen (fun _ => List.not_mem_nil) rfl rfl fun _ _ ring =>
        ring.makeLock (.inl rfl)
  | opened v =>
    rw [move_advance_of_ended (by rw [hopening]; rfl) (by rw [hopening]; rfl)]
    exact h
  | failed cause => exact absurd hopening hfounder.ne_failed

/-- What a step of another has to leave. It changes nothing about the
object. -/
theorem joiner_moved (hp : p ≠ c) (recent : List (Note ι)) {from' : RingOpening}
    (hopening : r.opening p = from') (hstep : from'.step name g size r.store = (o, s'))
    (hnotes : from'.notes p o = recent) (hrecent : recent = [] ∨ recent = [.measured p])
    (ground : Ground name n s') (hobject : s'.object n = r.store.object n)
    (joiner : JoinerAt name g size n o)
    (early : ∀ q, MeasuredEarly q (r.record ++ recent) ↔
      Function.update r.opening p o q = .failed (tooEarly name size)) :
    Founded name g size n c (r.move name g size (.advance p)) := by
  subst hopening
  have hunzeroed : Unzeroed recent := by rcases hrecent with rfl | rfl <;> simp [Unzeroed]
  have hunsized : ¬ Sized recent := by rcases hrecent with rfl | rfl <;> simp [Sized]
  have hputs : puts recent = [] := by rcases hrecent with rfl | rfl <;> rfl
  have htakes : takes recent = [] := by rcases hrecent with rfl | rfl <;> rfl
  rw [move_advance hstep, hnotes]
  refine ⟨ground, ?_, fun q hq => ?_, early, ?_, fun hbound => ?_⟩ <;> dsimp only at *
  · rw [Function.update_of_ne hp.symm]
    exact h.founder.append hunzeroed
  · by_cases hqp : q = p
    · rw [hqp, Function.update_self]
      exact joiner
    · rw [Function.update_of_ne hqp]
      exact h.joiners q hq
  · rw [hobject, sized_append, or_iff_left hunsized]
    exact h.sized
  · rw [puts_append, hputs, List.append_nil] at hbound
    rw [hobject]
    exact (h.account hbound).unseen hunzeroed hputs htakes fun _ _ ring => ring

/-- Where nothing is measured, nobody fails. -/
theorem early_of_quiet (hfrom : r.opening p ≠ .failed (tooEarly name size))
    (hto : o ≠ .failed (tooEarly name size)) (q : ι) :
    MeasuredEarly q (r.record ++ []) ↔
      Function.update r.opening p o q = .failed (tooEarly name size) := by
  rw [List.append_nil, h.early q]
  by_cases hq : q = p
  · subst hq
    rw [Function.update_self]
    exact iff_of_false hfrom hto
  · rw [Function.update_of_ne hq]

/-- **A process that measures fails exactly if the object has no size
yet.** -/
theorem early_of_measured (hfrom : r.opening p ≠ .failed (tooEarly name size))
    (hto : o = .failed (tooEarly name size) ↔ ¬ Sized r.record) (q : ι) :
    MeasuredEarly q (r.record ++ [.measured p]) ↔
      Function.update r.opening p o q = .failed (tooEarly name size) := by
  rw [measuredEarly_concat, h.early q, Note.measured.injEq]
  by_cases hq : q = p
  · subst hq
    rw [Function.update_self, hto]
    exact ⟨fun hor => hor.elim (fun hf => absurd hf hfrom) And.right, fun hs => .inr ⟨rfl, hs⟩⟩
  · rw [Function.update_of_ne hq]
    exact or_iff_left fun hlast => hq hlast.1.symm

theorem advance_joiner (hu : Unhindered name g size s) (hp : p ≠ c) :
    Founded name g size n c (r.move name g size (.advance p)) := by
  have hjoiner := h.joiners p hp
  cases hopening : r.opening p with
  | segment o =>
    rw [hopening] at hjoiner
    have hfrom : r.opening p ≠ .failed (tooEarly name size) := by
      rw [hopening]
      exact RingOpening.noConfusion
    cases o with
    | creating =>
      exact h.joiner_moved hp [] hopening
        (RingOpening.step_creating_of_bound h.ground.faultless hu.permitted h.ground.bound) rfl
        (.inl rfl) h.ground rfl trivial (h.early_of_quiet hfrom RingOpening.noConfusion)
    | joining =>
      exact h.joiner_moved hp [] hopening
        (RingOpening.step_joining_of_bound h.ground.faultless hu.permitted h.ground.bound) rfl
        (.inl rfl) (h.ground.of_eq rfl rfl rfl) rfl rfl
        (h.early_of_quiet hfrom RingOpening.noConfusion)
    | measuring d =>
      obtain rfl := hjoiner
      rcases h.sized with ⟨hsized, hsize⟩ | ⟨hunsized, hsize⟩
      · exact h.joiner_moved hp [.measured p] hopening
          (RingOpening.step_measuring_of_le h.ground.faultless (Nat.le_of_eq hsize.symm)) rfl
          (.inr rfl) h.ground rfl ⟨rfl, rfl⟩
          (h.early_of_measured hfrom (iff_of_false RingOpening.noConfusion (not_not.2 hsized)))
      · -- the founder has not come to give the object its size
        have hstep : (RingOpening.segment (.measuring d)).step name g size r.store =
            (.failed (tooEarly name size), (r.store.close d.number).2) := by
          have hsmall : (r.store.object d.object).size < size.toNat := by
            rw [hsize]
            exact hu.size_pos
          rw [RingOpening.step_measuring_of_lt h.ground.faultless hsmall, hsize]
          rfl
        have hclose : Ground name d.object (r.store.close d.number).2 ∧
            (r.store.close d.number).2.object d.object = r.store.object d.object := by
          rcases r.store.close_cases d.number with hc | ⟨-, hc⟩ <;> rw [hc] <;>
            exact ⟨h.ground.of_eq rfl rfl rfl, rfl⟩
        exact h.joiner_moved hp [.measured p] hopening hstep rfl (.inr rfl) hclose.1 hclose.2 rfl
          (h.early_of_measured hfrom (iff_of_true rfl hunsized))
    | mapping d creator =>
      obtain ⟨rfl, rfl⟩ := hjoiner
      exact h.joiner_moved hp [] hopening
        (RingOpening.step_mapping h.ground.faultless hu.size_ne_zero hu.fits false) rfl
        (.inl rfl) (h.ground.of_eq rfl rfl rfl) rfl ⟨rfl, rfl, rfl⟩
        (h.early_of_quiet hfrom RingOpening.noConfusion)
    | sizing d => exact hjoiner.elim
    | opened k => exact hjoiner.elim
    | failed cause => exact hjoiner.elim
  | zeroing k =>
    rw [hopening] at hjoiner
    exact hjoiner.elim
  | locking k =>
    rw [hopening] at hjoiner
    exact hjoiner.elim
  | opened v =>
    rw [move_advance_of_ended (by rw [hopening]; rfl) (by rw [hopening]; rfl)]
    exact h
  | failed cause =>
    rw [move_advance_of_ended (by rw [hopening]; rfl) (by rw [hopening]; rfl)]
    exact h

theorem advance (hu : Unhindered name g size s) (p : ι) :
    Founded name g size n c (r.move name g size (.advance p)) := by
  by_cases hp : p = c
  · subst hp
    exact h.advance_founder hu
  · exact h.advance_joiner hu hp

/-! ## Putting in and taking out -/

theorem isOn_of_view? (hu : Unhindered name g size s) {v : View}
    (hview : (r.opening p).view? = some v) :
    v.IsOn g n r.store ∧ (v.handle.creator = true ↔ p = c) := by
  have hv := RingOpening.view?_eq_some_iff.1 hview
  by_cases hp : p = c
  · subst hp
    have hfounder := h.founder
    rw [hv] at hfounder
    exact ⟨⟨hfounder.2.1, hfounder.1, hu.valid, h.ground.live⟩, iff_of_true hfounder.2.2 rfl⟩
  · have hjoiner := h.joiners p hp
    rw [hv] at hjoiner
    exact ⟨⟨hjoiner.2.1, hjoiner.1, hu.valid, h.ground.live⟩,
      iff_of_false (fun hc => Bool.noConfusion (hjoiner.2.2.symm.trans hc)) hp⟩

omit [DecidableEq ι] in
/-- What a call through a view has to leave. -/
theorem called (hrecent : ∀ e ∈ recent, e.put?.isSome ∨ e.took?.isSome)
    (ground : Ground name n s') (hsize : (s'.object n).size = (r.store.object n).size)
    (account : Account g r.record (r.store.object n) →
      (puts (r.record ++ recent)).flatten.length < UInt64.size →
      Account g (r.record ++ recent) (s'.object n)) :
    Founded name g size n c { r with store := s', record := r.record ++ recent } := by
  have hunzeroed : Unzeroed recent := fun q hq => by
    simpa [Note.put?, Note.took?] using hrecent _ hq
  have hmeasured : ∀ q, .measured q ∉ recent := fun q hq => by
    simpa [Note.put?, Note.took?] using hrecent _ hq
  have hunsized : ¬ Sized recent := by
    rintro ⟨q, hq⟩
    simpa [Note.put?, Note.took?] using hrecent _ hq
  refine ⟨ground, h.founder.append hunzeroed, h.joiners,
    fun q => (measuredEarly_append hmeasured).trans (h.early q), ?_, fun hbound => ?_⟩
  · rw [hsize, sized_append, or_iff_left hunsized]
    exact h.sized
  · refine account (h.account (Nat.lt_of_le_of_lt ?_ hbound)) hbound
    rw [puts_append, List.flatten_append, List.length_append]
    exact Nat.le_add_right ..

theorem enqueue (hu : Unhindered name g size s) (p : ι) (element : Bytes) :
    Founded name g size n c (r.move name g size (.enqueue p element)) := by
  cases hview : (r.opening p).view? with
  | none =>
    rw [move_of_view?_eq_none (.inl ⟨element, rfl⟩) hview]
    exact h
  | some v =>
    obtain ⟨hon, -⟩ := h.isOn_of_view? hu hview
    obtain ⟨hanswer, hobject, hlength⟩ := View.perform_eq hon (.enqueue element)
    have hmoved : (v.enqueue element r.store).1.isMoved =
        (Ring.enqueue g element (r.store.object n)).1.isMoved := RingAnswer.put.inj hanswer
    have hafter : (v.enqueue element r.store).2.object n =
        (Ring.enqueue g element (r.store.object n)).2 := hobject
    rw [move_enqueue hview, hmoved]
    refine h.called ?_ (h.ground.of_eq ?_ ?_ hlength) ?_ fun haccount hbound => ?_
    · split <;> simp [Note.put?]
    · rw [View.enqueue_eq]
      rfl
    · rw [View.enqueue_eq]
      rfl
    · rw [hafter]
      exact Ring.size_perform g (.enqueue element) _
    · rw [hafter]
      refine haccount.append (by split <;> simp [Unzeroed]) fun counted hcounted ring => ?_
      rw [puts_append, puts_put, List.flatten_append, List.length_append] at hbound
      rw [puts_append, takes_append, puts_put, takes_put, List.append_nil]
      refine ring.put hu.valid rfl ?_
      rw [List.flatten_append, List.length_append]
      omega

theorem dequeue (hu : Unhindered name g size s) (p : ι) (buffer : Bytes) :
    Founded name g size n c (r.move name g size (.dequeue p buffer)) := by
  cases hview : (r.opening p).view? with
  | none =>
    rw [move_of_view?_eq_none (.inr ⟨buffer, rfl⟩) hview]
    exact h
  | some v =>
    obtain ⟨hon, -⟩ := h.isOn_of_view? hu hview
    obtain ⟨hanswer, hobject, hlength⟩ := View.perform_eq hon (.dequeue buffer)
    obtain ⟨hmoved, hbuffer⟩ : (v.dequeue buffer r.store).1.isMoved =
        (Ring.dequeue g buffer (r.store.object n)).1.isMoved ∧
        (v.dequeue buffer r.store).2.1 = (Ring.dequeue g buffer (r.store.object n)).2.1 :=
      RingAnswer.taken.inj hanswer
    have hafter : (v.dequeue buffer r.store).2.2.object n =
        (Ring.dequeue g buffer (r.store.object n)).2.2 := hobject
    rw [move_dequeue hview, hmoved, hbuffer]
    refine h.called ?_ (h.ground.of_eq ?_ ?_ hlength) ?_ fun haccount _ => ?_
    · split <;> simp [Note.took?]
    · rw [View.dequeue_eq]
      rfl
    · rw [View.dequeue_eq]
      rfl
    · rw [hafter]
      exact Ring.size_perform g (.dequeue buffer) _
    · rw [hafter]
      refine haccount.append (by split <;> simp [Unzeroed]) fun counted _ ring => ?_
      rw [puts_append, takes_append, puts_took, takes_took, List.append_nil]
      exact ring.take hu.valid rfl

theorem move (hu : Unhindered name g size s) (m : Move ι) :
    Founded name g size n c (r.move name g size m) := by
  cases m with
  | advance p => exact h.advance hu p
  | enqueue p element => exact h.enqueue hu p element
  | dequeue p buffer => exact h.dequeue hu p buffer

theorem run (hu : Unhindered name g size s) (moves : List (Move ι)) :
    Founded name g size n c (r.run name g size moves) := by
  induction moves generalizing r with
  | nil => exact h
  | cons m moves ih => exact ih (h.move hu m)

end Founded

/-! ## Every process comes to its end -/

theorem stepsLeft_advance (p : ι) :
    ((r.move name g size (.advance p)).opening p).stepsLeft ≤ (r.opening p).stepsLeft - 1 := by
  rw [move_advance rfl]
  dsimp only
  rw [Function.update_self]
  rcases Nat.eq_zero_or_pos (r.opening p).stepsLeft with hzero | hpos
  · rcases RingOpening.stepsLeft_eq_zero_iff.1 hzero with ⟨v, hv⟩ | ⟨cause, hcause⟩
    · rw [hv]
      exact Nat.le_refl _
    · rw [hcause]
      exact Nat.le_refl _
  · exact Nat.le_sub_one_of_lt (RingOpening.stepsLeft_step_lt name g size _ r.store hpos)

/-- The moves of the others bring a process no nearer and no farther. -/
theorem opening_move_of_ne {m : Move ι} (hm : m ≠ .advance p) :
    (r.move name g size m).opening p = r.opening p := by
  cases m with
  | advance q =>
    rw [move_advance rfl]
    exact Function.update_of_ne (fun hpq => hm (congrArg Move.advance hpq.symm)) _ _
  | enqueue q element =>
    simp only [Race.move]
    split <;> rfl
  | dequeue q buffer =>
    simp only [Race.move]
    split <;> rfl

theorem stepsLeft_run (moves : List (Move ι)) :
    ((r.run name g size moves).opening p).stepsLeft ≤
      (r.opening p).stepsLeft - moves.count (.advance p) := by
  induction moves generalizing r with
  | nil => exact Nat.le_refl _
  | cons m moves ih =>
    refine Nat.le_trans ih ?_
    by_cases hm : m = .advance p
    · have hstep : ((r.move name g size (.advance p)).opening p).stepsLeft ≤
          (r.opening p).stepsLeft - 1 := stepsLeft_advance p
      rw [hm, List.count_cons_self]
      omega
    · rw [List.count_cons_of_ne hm, opening_move_of_ne hm]

end Opening

end Race

end TwinRing
