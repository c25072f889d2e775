import KeyedPool.Time
import KeyedPool.Time.Rounding
import KeyedPool.Text.Digits

/-!
# Durations as text

Two forms are written: seconds with exactly three decimals, for messages that a user reads, and a
count in the largest unit that fits, for the log.

* `KeyedPool.Duration.inSeconds`: `2.500`.
* `KeyedPool.Duration.inUnits`: `2.5s`, `25ms`, `1.5µs`, `0ns`.
-/

namespace KeyedPool.Duration

/-! ### Seconds with three decimals -/

/-- Binary digits that a double-precision number keeps. -/
def doubleBits : Nat := 53

/-- The grid on which seconds are added up: its unit is `2 ^ -96` seconds, finer than the last
digit of a nanosecond in double precision. -/
def secondsGrid : Nat := 1 <<< 96

/-- **The seconds of a duration in double precision**, in units of the grid: whole seconds and the
fraction are each rounded to 53 binary digits, and so is their sum. -/
def gridSeconds (d : Duration) : Nat :=
  let whole := roundSignificant doubleBits (d.seconds * secondsGrid) 1
  let part := roundSignificant doubleBits (d.subsecond * secondsGrid) nanosPerSecond
  roundSignificant doubleBits (whole + part) 1

/-- The seconds of a duration with three decimals; a tie goes to the even neighbour. -/
def inSeconds (d : Duration) : String :=
  let thousandths := roundDiv (d.gridSeconds * 1000) secondsGrid
  Text.padded 1 (thousandths / 1000) ++ "." ++ Text.padded 3 (thousandths % 1000)

/-! ### A count in the largest unit that fits -/

/-- `nanos` in a unit of `10 ^ places` nanoseconds, with its exact fraction. -/
def inUnit (nanos places : Nat) (unit : String) : String :=
  let size := Nat.pow 10 places
  Text.padded 1 (nanos / size) ++ Text.fraction places (nanos % size) ++ unit

/-- A duration in the largest of the units `s`, `ms`, `µs` and `ns` of which it holds one, with an
exact fraction. -/
def inUnits (d : Duration) : String :=
  if nanosPerSecond ≤ d.nanos then inUnit d.nanos 9 "s"
  else if nanosPerMilli ≤ d.nanos then inUnit d.nanos 6 "ms"
  else if 1000 ≤ d.nanos then inUnit d.nanos 3 "µs"
  else inUnit d.nanos 0 "ns"

end KeyedPool.Duration
