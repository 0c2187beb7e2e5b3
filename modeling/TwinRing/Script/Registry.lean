import TwinRing.Text.Order
/-!
# Registries

What a script has open, each thing under an id of the script's choice.
-/

namespace TwinRing

namespace Script

/-- Things under ids, each id at most once. -/
abbrev Registry (α : Type) := List (String × α)

namespace Registry

variable {α : Type}

/-- What is under an id. -/
def find? (r : Registry α) (id : String) : Option α := r.lookup id

/-- The registry without what is under an id. -/
def remove (r : Registry α) (id : String) : Registry α := r.filter fun entry => entry.1 ≠ id

/-- The registry with something put under an id, in place of what was
there. -/
def put (r : Registry α) (id : String) (a : α) : Registry α := (id, a) :: r.remove id

/-- All that is open, in ascending order of ids. -/
def inOrder (r : Registry α) : List α :=
  (r.mergeSort fun a b => Text.inOrder a.1 b.1).map Prod.snd

end Registry

end Script

end TwinRing
