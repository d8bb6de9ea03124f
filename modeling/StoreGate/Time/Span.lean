import StoreGate.Time.Instant

/-!
# Spans of time

A span counts nanoseconds. Spans are added up to a longest one, and only shorter ones can be added
to an instant.
-/

namespace StoreGate

/-- A span in nanoseconds. -/
abbrev Span := Nat

namespace Span

def ofSeconds (n : Nat) : Span := n * Instant.nanosPerSecond

/-- The longest span: as many seconds as fit 64 bits, and all but one nanosecond of another. -/
def longest : Span := ofSeconds UInt64.size - 1

/-- The longest span that can be added to an instant: as many milliseconds as fit 64 bits with a
sign. -/
def longestSigned : Span := 9223372036854775807 * 1000000

/-- The sum of two spans, if it is not longer than the longest. -/
def plus? (a b : Span) : Option Span := if a + b ≤ longest then some (a + b) else none

/-- The span, if it can be added to an instant. -/
def signed? (a : Span) : Option Span := if a ≤ longestSigned then some a else none

end Span

end StoreGate
