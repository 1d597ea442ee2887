import Concierge.Number.Double

/-!
# How long to wait before another attempt

A server may name the delay; otherwise delays grow by a factor from attempt to attempt, with some
jitter. No delay exceeds the largest one allowed.
-/

namespace Concierge.Gemini

/-- Delays are in milliseconds. -/
structure RetryPolicy where
  maxRetries : Nat := 2
  initialDelay : Nat := 500
  maxDelay : Nat := 30000
  factor : Float := 2.0

namespace RetryPolicy

def disabled : RetryPolicy := { maxRetries := 0 }

/-- `acc` times `x` to the power of `n`, by repeated squaring from the lowest bit on. -/
def powerOnto (acc x : Float) (n : Nat) : Float :=
  if _h : n = 0 then acc
  else powerOnto (if n % 2 = 1 then acc * x else acc) (x * x) (n / 2)
termination_by n
decreasing_by omega

/-- `x` to the power of a number of 32 bits, of which the upper half are below zero. -/
def power (x : Float) (n : Nat) : Float :=
  let exponent := Int.bmod n (twoTo 32)
  let p := powerOnto 1 x exponent.natAbs
  if exponent < 0 then 1 / p else p

def backoff (p : RetryPolicy) (attempt : Nat) : Float :=
  let limit := Float.ofNat p.maxDelay
  let base := Float.ofNat p.initialDelay * power p.factor attempt
  if base < limit then base else limit

def delay (p : RetryPolicy) (attempt : Nat) (retryAfter : Option Nat) (jitter : Float) : Nat :=
  match retryAfter with
  | some ms => min ms p.maxDelay
  | none => min (p.backoff attempt * jitter).toUInt64.toNat p.maxDelay

end RetryPolicy

end Concierge.Gemini
