import TwinRing.Journal
import TwinRing.Segment.Fault
import TwinRing.Segment.Lock
/-!
# The store of segments

The names that are bound and the objects behind them, together with what
the caller holds of them: its open descriptors and its mappings. Each
system call is one function from a store to a store, which first looks
whether a fault strikes it and then does what the system would do.

An object outlives its name: removing a name takes away the binding, and
whoever holds the object goes on using it. So an object is known by its
number, and a name is bound to a number.
-/

namespace TwinRing

/-- **Segments and what the caller holds of them.** -/
structure Store where
  /-- The bound names, each with the number of its object. -/
  names : List (SegmentName × Nat) := []
  /-- The objects, by number. -/
  objects : Array Object := #[]
  /-- The open descriptors. -/
  descriptors : List Nat := []
  /-- The object of each live mapping. -/
  mappings : List Nat := []
  /-- The number for the next descriptor. -/
  nextDescriptor : Nat := 0
  /-- The calls that are still to fail. -/
  faults : List Fault := []
  /-- What was reported so far. -/
  journal : Journal := {}

/-- An open descriptor and the object it stands for. -/
structure Descriptor where
  /-- Its number. -/
  number : Nat
  /-- The number of its object. -/
  object : Nat
  deriving DecidableEq

namespace Store

/-! ## Looking -/

/-- The object bound to a name. -/
def lookup (s : Store) (name : SegmentName) : Option Nat := s.names.lookup name

/-- The object with a number; a number that was never given out has an
empty one. -/
def object (s : Store) (number : Nat) : Object := s.objects.getD number {}

/-! ## Changing -/

/-- The store with an object changed. -/
def modifyObject (s : Store) (number : Nat) (change : Object → Object) : Store :=
  { s with objects := s.objects.modify number change }

/-- The store with an object replaced. -/
def setObject (s : Store) (number : Nat) (o : Object) : Store :=
  s.modifyObject number fun _ => o

/-- What is put in place of an object last is what is there. -/
theorem setObject_setObject (s : Store) (number : Nat) (o o' : Object) :
    (s.setObject number o).setObject number o' = s.setObject number o' := by
  have modified : (s.objects.modify number fun _ => o).modify number (fun _ => o') =
      s.objects.modify number fun _ => o' := by
    apply Array.ext
    · simp only [Array.size_modify]
    · intro i _ _
      simp only [Array.getElem_modify]
      split <;> rfl
  simp only [setObject, modifyObject, modified]

/-- An object, and the store with an empty one in its place. -/
@[noinline] def detach (s : Store) (number : Nat) : Object × Store :=
  (s.object number, s.setObject number {})

/-- **Work on an object.** The store lets go of the object meanwhile, so
that it can be changed where it lies. -/
def updateObject {α : Type} (s : Store) (number : Nat) (work : Object → α × Object) :
    α × Store :=
  let (o, s) := s.detach number
  let (a, o) := work o
  (a, s.setObject number o)

/-- To work on an object is to put in its place what the work makes of it. -/
theorem updateObject_eq {α : Type} (s : Store) (number : Nat) (work : Object → α × Object) :
    s.updateObject number work =
      ((work (s.object number)).1, s.setObject number (work (s.object number)).2) := by
  simp only [updateObject, detach, setObject_setObject]

/-- The store with one more event of the caller's thread. -/
def report (s : Store) (e : Event) : Store := { s with journal := s.journal.add e }

/-- The store with one more event of the caller's thread, if there is one. -/
def report? (s : Store) (e? : Option Event) : Store := { s with journal := s.journal.add? e? }

/-- The store with the events of a worker that has ended. -/
def reportWorker (s : Store) (role : Role) (events : List Event) : Store :=
  { s with journal := s.journal.addWorker role events }

/-- The store with a call that is to fail, after all that wait already. -/
def addFault (s : Store) (f : Fault) : Store := { s with faults := s.faults ++ [f] }

/-- One use of a call: the error that strikes it, if one does. -/
def strike (s : Store) (call : SystemCall) : Option OsError × Store :=
  let (error?, faults) := Fault.strike call s.faults
  (error?, { s with faults })

/-- One use of a call that gives its error as its result: whether it did
its work, or the error. The number zero is no error, so a fault of that
number only keeps the call from its work. -/
def perform (s : Store) (call : SystemCall) : Except OsError Bool × Store :=
  match s.strike call with
  | (none, s) => (.ok true, s)
  | (some e, s) => if e = .success then (.ok false, s) else (.error e, s)

/-- The store with a new descriptor for an object. -/
def addDescriptor (s : Store) (object : Nat) : Descriptor × Store :=
  (⟨s.nextDescriptor, object⟩,
    { s with
      descriptors := s.nextDescriptor :: s.descriptors
      nextDescriptor := s.nextDescriptor + 1 })

/-! ## System calls -/

/-- **Create a name that must not be bound.** The new object is empty. -/
def createName (s : Store) (name : SegmentName) : Except OsError Descriptor × Store :=
  match s.strike .openName with
  | (some e, s) => (.error e, s)
  | (none, s) =>
    match name.createRefusal? with
    | some e => (.error e, s)
    | none =>
      match s.lookup name with
      | some _ => (.error .alreadyExists, s)
      | none =>
        let number := s.objects.size
        let (d, s) := { s with
          names := (name, number) :: s.names
          objects := s.objects.push {} }.addDescriptor number
        (.ok d, s)

/-- **Open a name that must be bound.** -/
def openName (s : Store) (name : SegmentName) : Except OsError Descriptor × Store :=
  match s.strike .openName with
  | (some e, s) => (.error e, s)
  | (none, s) =>
    match name.openRefusal? with
    | some e => (.error e, s)
    | none =>
      match s.lookup name with
      | none => (.error .notFound, s)
      | some number =>
        let (d, s) := s.addDescriptor number
        (.ok d, s)

/-- The first size that is none: sizes are signed to the system, so the
upper half of the words are not sizes. -/
def sizeBound : Nat := 0x8000000000000000

/-- The number of bytes that a process has addresses for. -/
def addressSpan : Nat := 0x800000000000

/-- **Give an object its size.** -/
def truncate (s : Store) (d : Descriptor) (size : UInt64) : Except OsError Unit × Store :=
  match s.strike .truncate with
  | (some e, s) => (.error e, s)
  | (none, s) =>
    if sizeBound ≤ size.toNat then (.error .invalidArgument, s)
    else (.ok (), s.modifyObject d.object fun o => { o with size := size.toNat })

/-- **Ask for the size of an object.** -/
def measure (s : Store) (d : Descriptor) : Except OsError Nat × Store :=
  match s.strike .measure with
  | (some e, s) => (.error e, s)
  | (none, s) => (.ok (s.object d.object).size, s)

/-- **Map so many bytes of an object.** No mapping is empty, and none
reaches beyond the addresses that a process has. -/
def map (s : Store) (d : Descriptor) (size : UInt64) : Except OsError Unit × Store :=
  match s.strike .map with
  | (some e, s) => (.error e, s)
  | (none, s) =>
    if size = 0 then (.error .invalidArgument, s)
    else if addressSpan ≤ size.toNat then (.error .outOfMemory, s)
    else (.ok (), { s with mappings := d.object :: s.mappings })

/-- **Give a mapping of an object back.** -/
def unmap (s : Store) (object : Nat) : Except OsError Unit × Store :=
  match s.strike .unmap with
  | (some e, s) => (.error e, s)
  | (none, s) => (.ok (), { s with mappings := s.mappings.erase object })

/-- **Close a descriptor**, which must be open. -/
def close (s : Store) (number : Nat) : Except OsError Unit × Store :=
  if number ∈ s.descriptors then
    (.ok (), { s with descriptors := s.descriptors.erase number })
  else (.error .badDescriptor, s)

/-- **Remove a name**, which must be bound. -/
def removeName (s : Store) (name : SegmentName) : Except OsError Unit × Store :=
  match s.strike .unlink with
  | (some e, s) => (.error e, s)
  | (none, s) =>
    match name.removeRefusal? with
    | some e => (.error e, s)
    | none =>
      match s.lookup name with
      | none => (.error .notFound, s)
      | some _ => (.ok (), { s with names := s.names.filter fun b => b.1 ≠ name })

/-! ## Removing a name for good -/

/-- Remove a canonical name and report it. -/
def unlinkName (s : Store) (name : SegmentName) : Except SegmentError Unit × Store :=
  match s.removeName name with
  | (.error e, s) => (.error (.unlinkFailed name.full e), s)
  | (.ok _, s) => (.ok (), s.report (.unlinked name))

/-- **Remove the name that a text gives.** Whoever holds the segment keeps
it; the next one to open the name gets a new segment. -/
def unlink (s : Store) (given : String) : Except SegmentError Unit × Store :=
  match SegmentName.ofString given with
  | .error e => (.error e, s)
  | .ok name => s.unlinkName name

end Store

end TwinRing
