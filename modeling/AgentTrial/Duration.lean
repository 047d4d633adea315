/-!
# Lengths of time

A length of time in whole nanoseconds, and its text in the largest unit that keeps a whole part:
`2s`, `1.5ms`, `0ns`.
-/

namespace AgentTrial

/-- A length of time. -/
structure Duration where
  nanos : Nat
  deriving DecidableEq, Repr, Inhabited

namespace Duration

def ofSecs (secs : Nat) : Duration := ⟨secs * 1000000000⟩

def ofMillis (millis : Nat) : Duration := ⟨millis * 1000000⟩

/-- Whole milliseconds, rounded down. -/
def toMillis (d : Duration) : Nat := d.nanos / 1000000

/-- Whole milliseconds, rounded up: the first tick of a millisecond clock at which it is over. -/
def ticks (d : Duration) : Nat := (d.nanos + 999999) / 1000000

/-- Whole seconds, rounded down. -/
def secs (d : Duration) : Nat := d.nanos / 1000000000

/-- The nanoseconds beyond whole seconds. -/
def subsecNanos (d : Duration) : Nat := d.nanos % 1000000000

/-- The last `width` decimal digits of `n`. -/
def lastDigits : Nat → Nat → List Char
  | 0, _ => []
  | width + 1, n => lastDigits width (n / 10) ++ [Nat.digitChar (n % 10)]

/-- `count` units of `10 ^ width` nanoseconds each, with the fraction that is not zero. -/
def inUnit (width : Nat) (unit : String) (nanos : Nat) : String :=
  let fraction := ((lastDigits width (nanos % Nat.pow 10 width)).reverse.dropWhile (· == '0')).reverse
  let point := if fraction.isEmpty then "" else "."
  toString (nanos / Nat.pow 10 width) ++ point ++ String.ofList fraction ++ unit

/-- The text of a length of time. -/
def text (d : Duration) : String :=
  if 1000000000 ≤ d.nanos then inUnit 9 "s" d.nanos
  else if 1000000 ≤ d.nanos then inUnit 6 "ms" d.nanos
  else if 1000 ≤ d.nanos then inUnit 3 "µs" d.nanos
  else inUnit 0 "ns" d.nanos

end Duration

end AgentTrial
