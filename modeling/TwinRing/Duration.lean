import TwinRing.Text.Shown
/-!
# Durations

A length of time in whole seconds and nanoseconds, and its text: the
largest unit of which it holds at least one, with the rest as a decimal
fraction that has no trailing zeros.
-/

namespace TwinRing

/-- A length of time. -/
structure Duration where
  seconds : UInt64
  nanoseconds : Nat
  deriving DecidableEq, Repr

namespace Duration

/-- So many microseconds. -/
def ofMicroseconds (us : UInt64) : Duration :=
  ⟨us / 1000000, us.toNat % 1000000 * 1000⟩

/-- The length in nanoseconds. -/
def total (d : Duration) : Nat := d.seconds.toNat * 1000000000 + d.nanoseconds

/-- The shortest of some durations, if there are any. -/
def shortest? : List Duration → Option Duration
  | [] => none
  | d :: rest =>
    match shortest? rest with
    | none => some d
    | some e => if d.total ≤ e.total then some d else some e

/-- The digits of `n` in exactly `width` places. -/
def places (width n : Nat) : List Char :=
  let digits := Nat.toDigits 10 n
  List.replicate (width - digits.length) '0' ++ digits

/-- The decimal fraction `rest / 10 ^ width` after its point: nothing when
it is zero, and no zeros at the end. -/
def fraction (width rest : Nat) : String :=
  match ((places width rest).reverse.dropWhile (· == '0')).reverse with
  | [] => ""
  | digits => "." ++ String.ofList digits

/-- The text of a duration. A unit is used as soon as the duration holds
one of it, so only the last unit can show a zero. -/
def text (d : Duration) : String :=
  let ns := d.nanoseconds
  if d.seconds ≠ 0 then Nat.repr d.seconds.toNat ++ fraction 9 ns ++ "s"
  else if 1000000 ≤ ns then Nat.repr (ns / 1000000) ++ fraction 6 (ns % 1000000) ++ "ms"
  else if 1000 ≤ ns then Nat.repr (ns / 1000) ++ fraction 3 (ns % 1000) ++ "µs"
  else Nat.repr ns ++ "ns"

/-- A duration as a message shows it. -/
def shown (d : Duration) : Text.Shown := .word d.text

end Duration

end TwinRing
