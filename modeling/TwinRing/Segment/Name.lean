import TwinRing.Error
/-!
# Segment names

A segment is found by its name. A name may be given with or without a
slash in front of it; apart from that slash it holds at least one
character, no slash and no NUL. The canonical name is what remains without
the slash in front, so that two ways of giving a name agree exactly when
their canonical names do.
-/

namespace TwinRing

/-- **A canonical segment name**: what follows the slash. -/
structure SegmentName where
  /-- The characters after the slash. -/
  bare : List Char
  /-- There is at least one. -/
  bare_ne_nil : bare ≠ []
  /-- None of them is a slash or NUL. -/
  bare_clean : ∀ c ∈ bare, c ≠ '/' ∧ c ≠ '\x00'
  deriving DecidableEq

namespace SegmentName

/-- A text without the one slash that may stand in front of it. -/
def withoutSlash : List Char → List Char
  | '/' :: rest => rest
  | other => other

/-- Whether a name may hold a character. -/
def permits (c : Char) : Bool := c != '/' && c != '\x00'

/-- A name may hold whatever is neither a slash nor NUL. -/
theorem permits_iff {c : Char} : permits c = true ↔ c ≠ '/' ∧ c ≠ '\x00' := by
  simp [permits]

/-- The canonical name that a text gives, if it gives one. -/
def ofString? (given : String) : Option SegmentName :=
  match withoutSlash given.toList with
  | [] => none
  | c :: rest =>
    if clean : (c :: rest).all permits = true then
      some ⟨c :: rest, List.cons_ne_nil c rest,
        fun x hx => permits_iff.1 (List.all_eq_true.1 clean x hx)⟩
    else none

/-- The canonical name that a text gives; a text that gives none is
reported as it stands. -/
def ofString (given : String) : Except SegmentError SegmentName :=
  match ofString? given with
  | some name => .ok name
  | none => .error (.invalidName given)

/-- The full name: a slash, then the canonical name. -/
def full (name : SegmentName) : String := String.ofList ('/' :: name.bare)

/-- The bytes of the full name as a system call takes them: in UTF-8, with
a zero byte after them. -/
def terminated (name : SegmentName) : List UInt8 :=
  ('/' :: name.bare).flatMap String.utf8EncodeChar ++ [0]

/-- The length of the canonical name in bytes of UTF-8. -/
def byteLength (name : SegmentName) : Nat := (name.bare.flatMap String.utf8EncodeChar).length

/-- Whether the name is one of the two that every directory binds to
itself and to its parent. -/
def isDotted (name : SegmentName) : Bool := name.bare == ['.'] || name.bare == ['.', '.']

/-- How many bytes a directory entry has at most. -/
def entryLimit : Nat := 255

/-- How many bytes of a name reach the directory. Names of other things
get four letters in front, and there is always room for these. -/
def pathLimit : Nat := entryLimit + 4

/-- Why the system does not open a name of such a length. A name that is a
little too long for a directory entry reaches the directory and is refused
there; one that is much too long is refused before. -/
def lengthRefusal? (name : SegmentName) : Option OsError :=
  if name.byteLength ≤ entryLimit then none
  else if name.byteLength ≤ pathLimit then some .nameTooLong
  else some .invalidArgument

/-- **Why the system does not create a name**, whatever else is bound. The
dotted names are bound in every directory. -/
def createRefusal? (name : SegmentName) : Option OsError :=
  if name.isDotted then some .alreadyExists else name.lengthRefusal?

/-- **Why the system does not open a name**, whatever is bound. The dotted
names are those of directories, which are no segments. -/
def openRefusal? (name : SegmentName) : Option OsError :=
  if name.isDotted then some .invalidArgument else name.lengthRefusal?

/-- **Why the system does not remove a name**, whatever is bound. -/
def removeRefusal? (name : SegmentName) : Option OsError :=
  if name.isDotted then some .isDirectory
  else if name.byteLength ≤ entryLimit then none
  else if name.byteLength ≤ pathLimit then some .nameTooLong
  else some .notFound

/-! One condition lets a name through to all three: it is not dotted, and it
fits a directory entry. -/

variable {name : SegmentName}

/-- **The names that may be opened** are those that may be created. -/
theorem openRefusal?_eq_none_iff : name.openRefusal? = none ↔ name.createRefusal? = none := by
  unfold openRefusal? createRefusal?
  by_cases hdotted : name.isDotted = true
  · simp [hdotted]
  · rw [if_neg hdotted, if_neg hdotted]

/-- So are the names that may be removed. -/
theorem removeRefusal?_eq_none_iff : name.removeRefusal? = none ↔ name.createRefusal? = none := by
  unfold removeRefusal? createRefusal? lengthRefusal?
  by_cases hdotted : name.isDotted = true
  · simp [hdotted]
  · rw [if_neg hdotted, if_neg hdotted]
    split
    · exact Iff.rfl
    · -- a name that is too long is refused in one of two ways
      split <;> simp

end SegmentName

end TwinRing
