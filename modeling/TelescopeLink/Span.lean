import TelescopeLink.Binary64.Basic

/-!
# Spans of time

A span is a number of nanoseconds. Spans are bounded: their whole seconds fit 64 bits, and a sum or
a product beyond that is none. Every span of milliseconds that fits 64 bits is far below the bound.
-/

namespace TelescopeLink

/-- A span of time. -/
structure Span where
  nanos : Nat
deriving DecidableEq, Inhabited

namespace Span

/-- How many nanoseconds a second has. -/
def nanosPerSecond : Nat := 1000000000

/-- The least number of nanoseconds that no span has. -/
def bound : Nat := 1 <<< 64 * nanosPerSecond

/-- The span of so many milliseconds. -/
def ofMillis (millis : UInt64) : Span := ⟨millis.toNat * 1000000⟩

/-- The span of so many seconds. -/
def ofSeconds (seconds : Nat) : Span := ⟨seconds * nanosPerSecond⟩

/-- A span of so many nanoseconds, below the bound. -/
def ofNanos? (nanos : Nat) : Option Span := if nanos < bound then some ⟨nanos⟩ else none

/-- The sum of two spans. -/
def add? (a b : Span) : Option Span := ofNanos? (a.nanos + b.nanos)

/-- The span in seconds, rounded: whole seconds and the fraction each to the nearest number, and
their sum again. -/
def inSeconds (span : Span) : Binary64 :=
  (Binary64.ofNat (span.nanos / nanosPerSecond)).add
    ((Binary64.ofNat (span.nanos % nanosPerSecond)).div (Binary64.ofNat nanosPerSecond))

/-- The span of so many seconds, to the nearest nanosecond, half way to the even one. -/
def ofInSeconds? (seconds : Binary64) : Option Span :=
  if seconds.isFinite then
    ofNanos? (Binary64.divNearest (seconds.numerator * nanosPerSecond) seconds.denominator)
  else none

/-- How far a keep-alive stretches an estimate: the number nearest to 1.1. -/
def stretchFactor : Binary64 := Binary64.ofRatio 11 10

/-- The span stretched by `stretchFactor`. -/
def stretch? (span : Span) : Option Span := ofInSeconds? (span.inSeconds.mul stretchFactor)

end Span

end TelescopeLink
