import TwinRing.Duration
/-!
# Retry policies

How long a blocking call waits before it tries again, after the ring had
no room for its element or no element for it. A policy says what to do in
general; a retrier remembers how far one call has come with it.
-/

namespace TwinRing

/-- **How a blocking call waits between its attempts.** -/
inductive RetryPolicy
  /-- At first only give other threads a turn, and, once that has been
  done often enough, sleep so long between attempts. -/
  | backoff (maxDelay : Duration)
  /-- Sleep so long between attempts. -/
  | fixed (delay : Duration)
  deriving DecidableEq

namespace RetryPolicy

/-- A policy as a diagnostic message shows it. -/
def shown : RetryPolicy → Text.Shown
  | .backoff maxDelay => .fields "Backoff" [("max_delay", maxDelay.shown)] false
  | .fixed delay => .applied "Fixed" [delay.shown]

end RetryPolicy

/-- How far one call has come with its policy. -/
structure Retrier where
  policy : RetryPolicy
  unslept : Nat := 0
  deriving DecidableEq

namespace Retrier

/-- How many retries a backoff makes without sleep. -/
def unsleptLimit : Nat := 11

/-- **The wait before the next attempt**: none, or a sleep. -/
def nextDelay (r : Retrier) : Option Duration × Retrier :=
  match r.policy with
  | .fixed delay => (some delay, r)
  | .backoff maxDelay =>
    if r.unslept < unsleptLimit then (none, { r with unslept := r.unslept + 1 })
    else (some maxDelay, r)

/-- How many attempts a call makes before it first sleeps. -/
def eagerAttempts : RetryPolicy → Nat
  | .fixed _ => 1
  | .backoff _ => unsleptLimit + 1

/-- The waits before the next so many attempts. -/
def delays (r : Retrier) : Nat → List (Option Duration)
  | 0 => []
  | n + 1 => r.nextDelay.1 :: r.nextDelay.2.delays n

end Retrier

end TwinRing
