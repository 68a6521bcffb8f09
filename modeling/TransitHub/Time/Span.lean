/-
# Spans of time and the monotonic clock

A duration is a whole number of nanoseconds and never negative. An instant is a point of the
monotonic clock, counted from an arbitrary origin, so it may lie before that origin. The clock
can represent instants only up to `Instant.limit`; a deadline that would lie beyond it is put
one hundred years ahead instead of being refused.
-/

import TransitHub.Text.Decimal

namespace TransitHub

/-- A span of time in whole nanoseconds. -/
abbrev Duration := Nat

namespace Duration

abbrev millisecond : Duration := 1000000

abbrev second : Duration := 1000000000

abbrev minute : Duration := 60 * second

abbrev hour : Duration := 60 * minute

/-- One day of twenty-four hours. -/
abbrev day : Duration := 24 * hour

def ofMillis (n : Nat) : Duration := n * millisecond

def ofSeconds (n : Nat) : Duration := n * second

/-- The longest span with a 64-bit count of seconds. -/
def longest : Duration := UInt64.size * second - 1

/-- `n` times as long, but never more than the longest span. -/
def times (d : Duration) (n : Nat) : Duration := min (d * n) longest

/-- Whole milliseconds, capped at the largest 64-bit count. -/
def wholeMillis (d : Duration) : Nat := min (d / millisecond) (UInt64.size - 1)

/-- Seconds, a point and nine digits. -/
def text (d : Duration) : String :=
  Decimal.text (d / second) ++ "." ++ String.ofList (Decimal.padded 9 (d % second))

end Duration

/-- A point of the monotonic clock, in nanoseconds from its origin. -/
abbrev Instant := Int

namespace Instant

/-- The first instant that the clock cannot represent. -/
def limit : Instant := 9223372036854775808 * 1000000000

/-- How far ahead a deadline is put when the asked one is not representable. -/
def farAhead : Duration := 100 * 365 * Duration.day

/-- The instant `ttl` after `now`, or one hundred years after it if that is not representable. -/
def deadline (now : Instant) (ttl : Duration) : Instant :=
  if now + (ttl : Int) < limit then now + (ttl : Int) else now + (farAhead : Int)

/-- The time from `earlier` to `now`, zero if `earlier` is not earlier. -/
def since (now earlier : Instant) : Duration := (now - earlier).toNat

end Instant

end TransitHub
