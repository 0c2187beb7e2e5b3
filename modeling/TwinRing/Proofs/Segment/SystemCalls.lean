import TwinRing.Segment.Handle
/-!
# System calls by what they can come to

A system call on the store fails and changes nothing but the faults that
still wait, or it does its one thing. Each lemma here says which, with all
that the call has checked by then, so that no proof about an open or a
drop reads a call again.
-/

namespace TwinRing

namespace Store

variable (s : Store)

/-- **Whether or not a fault strikes, only the faults change.** -/
theorem exists_strike (call : SystemCall) :
    ∃ error? faults, s.strike call = (error?, { s with faults }) := ⟨_, _, rfl⟩

/-- **A name is created only if it is not bound**, for a new object. -/
theorem createName_cases (name : SegmentName) : ∃ faults,
    (∃ e, s.createName name = (.error e, { s with faults })) ∨
      s.lookup name = none ∧
        s.createName name = (.ok ⟨s.nextDescriptor, s.objects.size⟩,
          { s with
            faults
            names := (name, s.objects.size) :: s.names
            objects := s.objects.push {}
            descriptors := s.nextDescriptor :: s.descriptors
            nextDescriptor := s.nextDescriptor + 1 }) := by
  obtain ⟨error?, faults, hstrike⟩ := s.exists_strike .openName
  have hlookup : ({ s with faults } : Store).lookup name = s.lookup name := rfl
  refine ⟨faults, ?_⟩
  rw [createName, hstrike]
  cases error? with
  | some e => exact .inl ⟨e, rfl⟩
  | none =>
    dsimp only
    cases name.createRefusal? with
    | some e => exact .inl ⟨e, rfl⟩
    | none =>
      dsimp only
      rw [hlookup]
      cases s.lookup name with
      | some n => exact .inl ⟨.alreadyExists, rfl⟩
      | none => exact .inr ⟨rfl, rfl⟩

/-- **A name is opened only if it is bound**, and leads to the object it
stands for. -/
theorem openName_cases (name : SegmentName) : ∃ faults,
    (∃ e, s.openName name = (.error e, { s with faults })) ∨
      ∃ n, s.lookup name = some n ∧
        s.openName name = (.ok ⟨s.nextDescriptor, n⟩,
          { s with
            faults
            descriptors := s.nextDescriptor :: s.descriptors
            nextDescriptor := s.nextDescriptor + 1 }) := by
  obtain ⟨error?, faults, hstrike⟩ := s.exists_strike .openName
  have hlookup : ({ s with faults } : Store).lookup name = s.lookup name := rfl
  refine ⟨faults, ?_⟩
  rw [openName, hstrike]
  cases error? with
  | some e => exact .inl ⟨e, rfl⟩
  | none =>
    dsimp only
    cases name.openRefusal? with
    | some e => exact .inl ⟨e, rfl⟩
    | none =>
      dsimp only
      rw [hlookup]
      cases s.lookup name with
      | none => exact .inl ⟨.notFound, rfl⟩
      | some n => exact .inr ⟨n, rfl, rfl⟩

/-- **An object is given a size, or keeps the one it has.** -/
theorem truncate_cases (d : Descriptor) (size : UInt64) : ∃ faults,
    (∃ e, s.truncate d size = (.error e, { s with faults })) ∨
      size.toNat < sizeBound ∧
        s.truncate d size = (.ok (), ({ s with faults } : Store).modifyObject d.object
          fun o => { o with size := size.toNat }) := by
  obtain ⟨error?, faults, hstrike⟩ := s.exists_strike .truncate
  refine ⟨faults, ?_⟩
  rw [truncate, hstrike]
  cases error? with
  | some e => exact .inl ⟨e, rfl⟩
  | none =>
    by_cases hsize : sizeBound ≤ size.toNat
    · exact .inl ⟨.invalidArgument, if_pos hsize⟩
    · exact .inr ⟨Nat.lt_of_not_le hsize, if_neg hsize⟩

theorem measure_cases (d : Descriptor) : ∃ faults,
    (∃ e, s.measure d = (.error e, { s with faults })) ∨
      s.measure d = (.ok (s.object d.object).size, { s with faults }) := by
  obtain ⟨error?, faults, hstrike⟩ := s.exists_strike .measure
  refine ⟨faults, ?_⟩
  rw [measure, hstrike]
  cases error? with
  | some e => exact .inl ⟨e, rfl⟩
  | none => exact .inr rfl

/-- **So many bytes are mapped**, if they are some and not too many. -/
theorem map_cases (d : Descriptor) (size : UInt64) : ∃ faults,
    (∃ e, s.map d size = (.error e, { s with faults })) ∨
      size ≠ 0 ∧ size.toNat < addressSpan ∧
        s.map d size = (.ok (), { s with faults, mappings := d.object :: s.mappings }) := by
  obtain ⟨error?, faults, hstrike⟩ := s.exists_strike .map
  refine ⟨faults, ?_⟩
  rw [map, hstrike]
  cases error? with
  | some e => exact .inl ⟨e, rfl⟩
  | none =>
    by_cases hzero : size = 0
    · exact .inl ⟨.invalidArgument, if_pos hzero⟩
    · by_cases hspan : addressSpan ≤ size.toNat
      · exact .inl ⟨.outOfMemory, (if_neg hzero).trans (if_pos hspan)⟩
      · exact .inr ⟨hzero, Nat.lt_of_not_le hspan, (if_neg hzero).trans (if_neg hspan)⟩

/-- **A name is removed**, if it is bound. -/
theorem removeName_cases (name : SegmentName) : ∃ faults,
    (∃ e, s.removeName name = (.error e, { s with faults })) ∨
      (∃ n, s.lookup name = some n) ∧
        s.removeName name =
          (.ok (), { s with faults, names := s.names.filter fun b => b.1 ≠ name }) := by
  obtain ⟨error?, faults, hstrike⟩ := s.exists_strike .unlink
  have hlookup : ({ s with faults } : Store).lookup name = s.lookup name := rfl
  refine ⟨faults, ?_⟩
  rw [removeName, hstrike]
  cases error? with
  | some e => exact .inl ⟨e, rfl⟩
  | none =>
    dsimp only
    cases name.removeRefusal? with
    | some e => exact .inl ⟨e, rfl⟩
    | none =>
      dsimp only
      rw [hlookup]
      cases s.lookup name with
      | none => exact .inl ⟨.notFound, rfl⟩
      | some n => exact .inr ⟨⟨n, rfl⟩, rfl⟩

/-- **A call that gives its error as its result** fails, or tells whether
it did its work. -/
theorem perform_cases (call : SystemCall) : ∃ faults,
    (∃ e, s.perform call = (.error e, { s with faults })) ∨
      ∃ worked, s.perform call = (.ok worked, { s with faults }) := by
  obtain ⟨error?, faults, hstrike⟩ := s.exists_strike call
  refine ⟨faults, ?_⟩
  rw [perform, hstrike]
  cases error? with
  | none => exact .inr ⟨true, rfl⟩
  | some e =>
    by_cases he : e = .success
    · exact .inr ⟨false, if_pos he⟩
    · exact .inl ⟨e, if_neg he⟩

theorem close_cases (number : Nat) :
    s.close number = (.error .badDescriptor, s) ∨
      number ∈ s.descriptors ∧
        s.close number = (.ok (), { s with descriptors := s.descriptors.erase number }) := by
  by_cases hopen : number ∈ s.descriptors
  · exact .inr ⟨hopen, if_pos hopen⟩
  · exact .inl (if_neg hopen)

end Store

end TwinRing
