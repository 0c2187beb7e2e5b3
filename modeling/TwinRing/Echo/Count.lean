/-!
# Counts

A count is written in decimal digits, perhaps with a plus sign before
them, and is a word of 64 bits.
-/

namespace TwinRing

namespace Echo

/-- What is wrong with the text of a count. -/
inductive CountProblem
  /-- There is no text. -/
  | empty
  /-- A character is no digit, or there is none. -/
  | invalidDigit
  /-- The number is no word of 64 bits. -/
  | tooLarge
  deriving DecidableEq

namespace CountProblem

/-- The words for what is wrong. -/
def message (p : CountProblem) : String :=
  "ParseIntError \x7b kind: " ++
    (match p with
    | .empty => "Empty"
    | .invalidDigit => "InvalidDigit"
    | .tooLarge => "PosOverflow") ++ " \x7d"

end CountProblem

/-- The number that digits continue. Of two problems the one that is met
first counts, and a character is judged before the number it makes. -/
def continueCount (n : Nat) : List Char → Except CountProblem Nat
  | [] => .ok n
  | c :: rest =>
    if c.isDigit then
      let n := 10 * n + (c.toNat - '0'.toNat)
      if n < UInt64.size then continueCount n rest else .error .tooLarge
    else .error .invalidDigit

/-- The number that digits give; there has to be one. -/
def countOfDigits : List Char → Except CountProblem Nat
  | [] => .error .invalidDigit
  | c :: rest => continueCount 0 (c :: rest)

/-- **The count that a text gives.** -/
def countOfText (text : String) : Except CountProblem Nat :=
  match text.toList with
  | [] => .error .empty
  | '+' :: rest => countOfDigits rest
  | other => countOfDigits other

end Echo

end TwinRing
