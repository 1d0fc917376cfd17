/-!
# Durations and instants

A span of time in nanoseconds. `Duration.debugText` writes it the way debugging output shows
durations: in the largest unit among seconds, milliseconds, microseconds and nanoseconds that
the span reaches, with the remainder as decimals without trailing zeros (`1.5s`, `250ms`,
`0ns`).

An instant of a monotonic clock counts whole seconds in a signed 64-bit integer beside the
nanoseconds below a second, so the instants end at `i64::MAX` seconds: adding a duration that
passes the last instant panics. Clocks here read milliseconds after their start;
`Instant.maxMillis` is the last instant as seen from the monotonic clock's zero, the latest a
clock that starts anywhere can reach.
-/
namespace Switchyard

/-- A span of time. -/
structure Duration where
  /-- Nanoseconds. -/
  nanos : Nat
  deriving DecidableEq, Repr, Inhabited

namespace Duration

/-- A span of whole seconds. -/
def ofSecs (s : Nat) : Duration := ⟨s * 1000000000⟩

/-- A span of whole milliseconds. -/
def ofMillis (ms : Nat) : Duration := ⟨ms * 1000000⟩

/-- The longest span: `u64::MAX` seconds and the nanoseconds below one more. -/
def max : Duration := ⟨18446744073709551615 * 1000000000 + 999999999⟩

/-- Whole seconds. -/
def secs (d : Duration) : Nat := d.nanos / 1000000000

/-- Whole milliseconds. -/
def millis (d : Duration) : Nat := d.nanos / 1000000

/-- `whole` followed by the decimals of `frac / unit` without trailing zeros, then the unit's
name. -/
def decimalText (whole frac unit : Nat) (suffix : String) : String :=
  if frac = 0 then toString whole ++ suffix
  else
    let width := (toString unit).length - 1
    let digits := toString frac
    let padded := String.ofList (List.replicate (width - digits.length) '0') ++ digits
    let trimmed := String.ofList (padded.toList.reverse.dropWhile (· == '0')).reverse
    toString whole ++ "." ++ trimmed ++ suffix

/-- The debugging text of a span. -/
def debugText (d : Duration) : String :=
  let n := d.nanos
  if n ≥ 1000000000 then decimalText (n / 1000000000) (n % 1000000000) 1000000000 "s"
  else if n ≥ 1000000 then decimalText (n / 1000000) (n % 1000000) 1000000 "ms"
  else if n ≥ 1000 then decimalText (n / 1000) (n % 1000) 1000 "µs"
  else toString n ++ "ns"

end Duration

namespace Instant

/-- The last instant, in whole milliseconds after the monotonic clock's zero: `i64::MAX` seconds
and the last millisecond below one more. -/
def maxMillis : Nat := 9223372036854775807 * 1000 + 999

/-- What adding a duration past the last instant panics with. -/
def overflowMessage : String := "overflow when adding duration to instant"

end Instant

end Switchyard
