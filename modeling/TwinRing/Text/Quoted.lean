import TwinRing.Text.Extending
import TwinRing.Text.Unprintable
/-!
# Quoted text

Text as it stands inside a message, between quotation marks. Every
character that could end the quotation, that has no mark of its own, or
that would attach itself to the mark before it is written as an escape, so
that the reader of a message sees which characters the text holds. An
apostrophe needs no escape.
-/

namespace TwinRing

namespace Text

/-- Whether a code point lies in one of the closed ranges of a table. -/
def within (table : List (Nat × Nat)) (code : Nat) : Bool :=
  table.any fun range => range.1 ≤ code && code ≤ range.2

/-- Whether a character cannot stand for itself between quotation marks:
it extends the character before it, or has no printed form. -/
def hidden (c : Char) : Bool :=
  within extending c.toNat || within unprintable c.toNat

/-- The escape by number: the code point in lower-case hexadecimal digits,
without leading zeros, between braces. -/
def numbered (c : Char) : List Char :=
  "\\u\x7b".toList ++ Nat.toDigits 16 c.toNat ++ ['\x7d']

/-- **How one character is written between quotation marks.** -/
def written (c : Char) : List Char :=
  if c = '\x00' then ['\\', '0']
  else if c = '\t' then ['\\', 't']
  else if c = '\n' then ['\\', 'n']
  else if c = '\r' then ['\\', 'r']
  else if c = '"' then ['\\', '"']
  else if c = '\\' then ['\\', '\\']
  else if hidden c then numbered c
  else [c]

/-- A text between quotation marks. -/
def quoted (s : String) : String :=
  String.ofList ('"' :: s.toList.flatMap written ++ ['"'])

end Text

end TwinRing
