/-!
# The order of texts

Texts in ascending order: character by character, by code point, and a
text before all that it begins. Lists of texts are put in order the same
way, text by text.
-/

namespace TwinRing

namespace Text

/-- How two lists compare, given how their items do. -/
def compareLists {α : Type} (compareItems : α → α → Ordering) : List α → List α → Ordering
  | [], [] => .eq
  | [], _ :: _ => .lt
  | _ :: _, [] => .gt
  | a :: as, b :: bs =>
    match compareItems a b with
    | .eq => compareLists compareItems as bs
    | .lt => .lt
    | .gt => .gt

/-- How two characters compare: as their code points do. -/
def compareChars (a b : Char) : Ordering :=
  if a.toNat < b.toNat then .lt else if a.toNat = b.toNat then .eq else .gt

/-- How two texts compare. -/
def compareTexts (a b : String) : Ordering := compareLists compareChars a.toList b.toList

/-- Whether a text comes before another, or is the same. -/
def inOrder (a b : String) : Bool := compareTexts a b != .gt

/-- Whether a list of texts comes before another, or is the same. -/
def listsInOrder (a b : List String) : Bool := compareLists compareTexts a b != .gt

end Text

end TwinRing
