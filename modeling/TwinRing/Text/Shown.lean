import TwinRing.Text.Quoted
/-!
# Shown values

A value as a diagnostic message shows it: a word, a name with its parts in
brackets, a name with its fields in braces, or a list. One value has two
layouts. The flat one puts everything on one line; the indented one gives
each part a line of its own, four spaces further in than its owner, with a
comma after it.
-/

namespace TwinRing

namespace Text

/-- A value to be shown. -/
inductive Shown
  /-- A word that has no parts: a number, a flag, a quoted text, a bare name. -/
  | word (text : String)
  /-- A name with parts in order, as `Some(3)`. -/
  | applied (name : String) (parts : List Shown)
  /-- A name with named fields; with `more` set it says that not all
  fields are shown. -/
  | fields (name : String) (entries : List (String × Shown)) (more : Bool)
  /-- Items in order, in square brackets. -/
  | items (parts : List Shown)

namespace Shown

/-- A number, in decimal digits. -/
def number (n : Nat) : Shown := .word (Nat.repr n)

/-- A flag, `true` or `false`. -/
def flag (b : Bool) : Shown := .word (if b then "true" else "false")

/-- A text, quoted. -/
def text (s : String) : Shown := .word (quoted s)

/-- A list of bytes, each as a number. -/
def bytes (bs : List UInt8) : Shown := .items (bs.map fun b => number b.toNat)

/-- The layout on one line. -/
def flat : Shown → String
  | .word text => text
  | .applied name parts => name ++ "(" ++ ", ".intercalate (flatAll parts) ++ ")"
  | .fields name entries more =>
    name ++ " \x7b " ++
      ", ".intercalate (flatFields entries ++ if more then [".."] else []) ++ " \x7d"
  | .items parts => "[" ++ ", ".intercalate (flatAll parts) ++ "]"
where
  /-- The one-line layouts of several values. -/
  flatAll : List Shown → List String
    | [] => []
    | part :: rest => part.flat :: flatAll rest
  /-- The one-line layouts of several named fields. -/
  flatFields : List (String × Shown) → List String
    | [] => []
    | (name, part) :: rest => (name ++ ": " ++ part.flat) :: flatFields rest

/-- The white space that opens a line at a depth. -/
def margin (depth : Nat) : String := String.ofList (List.replicate (4 * depth) ' ')

/-- The layout over several lines, for a value whose first line already
stands at the given depth. -/
def indentedAt (depth : Nat) : Shown → String
  | .word text => text
  | .applied name parts =>
    name ++ "(\n" ++ String.join (lines (depth + 1) parts) ++ margin depth ++ ")"
  | .fields name entries more =>
    name ++ " \x7b\n" ++ String.join (fieldLines (depth + 1) entries) ++
      (if more then margin (depth + 1) ++ "..\n" else "") ++ margin depth ++ "\x7d"
  | .items [] => "[]"
  | .items parts => "[\n" ++ String.join (lines (depth + 1) parts) ++ margin depth ++ "]"
where
  /-- One line or more for each part, with its comma. -/
  lines (depth : Nat) : List Shown → List String
    | [] => []
    | part :: rest => (margin depth ++ part.indentedAt depth ++ ",\n") :: lines depth rest
  /-- One line or more for each named field, with its comma. -/
  fieldLines (depth : Nat) : List (String × Shown) → List String
    | [] => []
    | (name, part) :: rest =>
      (margin depth ++ name ++ ": " ++ part.indentedAt depth ++ ",\n") :: fieldLines depth rest

/-- The layout over several lines. -/
def indented (s : Shown) : String := s.indentedAt 0

/-- The layout asked for. -/
def layout (s : Shown) (overLines : Bool) : String :=
  if overLines then s.indented else s.flat

end Shown

end Text

end TwinRing
