import TwinRing.Echo.Trial
/-!
# Command line

Tries a channel out with a sender and a responder in one process: the only
argument is the number of messages. What the sender prints is printed, and
its exit code is the program's. The programs themselves are values, so
nothing but the printing and the clock is done here.
-/

namespace TwinRing

namespace CommandLine

/-- Print a line, and after a line that asks for it the time. -/
def printLine (milliseconds : Nat) : Echo.Line → IO Unit
  | .fixed text => IO.println text
  | .timed text => IO.println (text ++ Nat.repr milliseconds ++ "ms")

/-- Print what a program has printed, its complaints last. -/
def printOutput (milliseconds : Nat) (o : Echo.Output) : IO Unit := do
  o.lines.forM (printLine milliseconds)
  o.complaints.forM IO.eprintln

/-- The exit code that stands for an end by the system. -/
def abortedCode : Nat := 134

end CommandLine

end TwinRing

/-- Run the sender against the responder. -/
def main (arguments : List String) : IO UInt32 := do
  let begun ← IO.monoMsNow
  let (sender, _) := TwinRing.Echo.tryBoth arguments
  TwinRing.CommandLine.printOutput ((← IO.monoMsNow) - begun) sender.output
  return UInt32.ofNat (sender.code?.getD TwinRing.CommandLine.abortedCode)
