/-!
# Roles

A worker drives one side of a ring: it puts its caller's elements in, or
takes elements out for its caller.
-/

namespace TwinRing

/-- The side of a ring that a worker drives. -/
inductive Role
  /-- It puts the caller's element into the ring: the outbound side. -/
  | writer
  /-- It takes an element out into the caller's buffer: the inbound side. -/
  | reader
  deriving DecidableEq

namespace Role

/-- The word for a role. -/
def label : Role → String
  | .writer => "writer"
  | .reader => "reader"

end Role

end TwinRing
