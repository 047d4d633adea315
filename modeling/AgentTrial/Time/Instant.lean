import AgentTrial.Duration
import AgentTrial.Error
import AgentTrial.Text.Blank
import AgentTrial.Text.Digit
import AgentTrial.Time.Calendar

/-!
# Instants

Instants in universal time to the nanosecond, with leap seconds, in the notation of RFC 3339.

- `Instant.add` moves an instant by a length of time, and crashes beyond the last year.
- `Instant.text` writes an instant with the fewest of 0, 3, 6 or 9 fraction digits that are exact.
- `Instant.ofText?` reads one, with some freedom in blanks, separators and offsets.
-/

namespace AgentTrial

/-- A day by its number, a second of it, and nanoseconds, which are a whole second more inside a
leap second. -/
structure Instant where
  day : Int
  second : Nat
  nanos : Nat
  deriving DecidableEq, Repr, Inhabited

namespace Instant

def secondsPerDay : Nat := 86400

def nanosPerSecond : Nat := 1000000000

def firstDay : Int := Date.dayNumber ⟨Date.minYear, 1, 1⟩

def lastDay : Int := Date.dayNumber ⟨Date.maxYear, 12, 31⟩

/-- The longest time that an instant is moved by: the milliseconds of a signed 64-bit word. -/
def maxShift : Duration := ⟨9223372036854775807 * 1000000⟩

/-- An instant by seconds from midnight of a day, which may be later days, and nanoseconds below a
second. -/
def normalize (day : Int) (seconds nanos : Nat) : Instant :=
  ⟨day + (seconds / secondsPerDay : Nat), seconds % secondsPerDay, nanos⟩

/-- The instant a length of time later, before it is known whether the calendar has it. Time that
ends inside a leap second stays in it; time that leaves it counts it as the second before. -/
def shift (t : Instant) (d : Duration) : Instant :=
  let stays := nanosPerSecond ≤ t.nanos ∧ d.secs = 0 ∧
    (d.subsecNanos = 0 ∨ t.nanos + d.subsecNanos < 2 * nanosPerSecond)
  if stays then { t with nanos := t.nanos + d.subsecNanos }
  else
    let nanos := t.nanos % nanosPerSecond + d.subsecNanos
    normalize t.day (t.second + d.secs + nanos / nanosPerSecond) (nanos % nanosPerSecond)

/-- The text of the crash that leaves the calendar. -/
def overflowText : String := "`DateTime + TimeDelta` overflowed"

/-- The instant a length of time later. A length beyond `maxShift` counts as none. -/
def add (t : Instant) (d : Duration) : Except Crash Instant :=
  let d := if maxShift.nanos < d.nanos then ⟨0⟩ else d
  let later := t.shift d
  if later.day ≤ lastDay then .ok later else .error (.message overflowText)

/-! ## Writing -/

/-- A number with at least `width` digits. -/
def padded (width n : Nat) : String :=
  let digits := (toString n).toList
  String.ofList (List.replicate (width - digits.length) '0' ++ digits)

/-- A year with four digits, and with a sign when it needs more or is before year 0. -/
def yearText (year : Int) : String :=
  if 0 ≤ year ∧ year ≤ 9999 then padded 4 year.toNat
  else (if year < 0 then "-" else "+") ++ padded 4 year.natAbs

/-- The fraction of a second. -/
def fractionText (nanos : Nat) : String :=
  if nanos = 0 then ""
  else if nanos % 1000000 = 0 then "." ++ padded 3 (nanos / 1000000)
  else if nanos % 1000 = 0 then "." ++ padded 6 (nanos / 1000)
  else "." ++ padded 9 nanos

/-- The text of an instant. -/
def text (t : Instant) : String :=
  let date := Date.ofDayNumber t.day
  let leap := t.nanos / nanosPerSecond
  yearText date.year ++ "-" ++ padded 2 date.month ++ "-" ++ padded 2 date.day ++ "T" ++
    padded 2 (t.second / 3600) ++ ":" ++ padded 2 (t.second / 60 % 60) ++ ":" ++
    padded 2 (t.second % 60 + leap) ++ fractionText (t.nanos % nanosPerSecond) ++ "Z"

/-! ## Reading -/

/-- A step of reading: a value and the rest of the text. -/
abbrev Reader (α : Type) := List Char → Option (α × List Char)

/-- A number of one to `width` digits. -/
def number (width : Nat) : Reader Nat := fun cs =>
  let digits := (cs.take width).takeWhile Text.isAsciiDigit
  (Text.natOfDigits? digits).map fun n => (n, cs.drop digits.length)

/-- A number within bounds, after blanks. -/
def field (low high : Nat) : Reader Nat := fun cs => do
  let (n, rest) ← number 2 (Text.trimStart cs)
  guard (low ≤ n ∧ n ≤ high)
  pure (n, rest)

/-- A year: up to four digits, or any number after a sign. -/
def year : Reader Int := fun cs =>
  match Text.trimStart cs with
  | '-' :: rest => (number rest.length rest).map fun (n, rest) => (-(n : Int), rest)
  | '+' :: rest => (number rest.length rest).map fun (n, rest) => ((n : Int), rest)
  | cs => (number 4 cs).map fun (n, rest) => ((n : Int), rest)

/-- A separator after blanks. -/
def separator (c : Char) : Reader Unit := fun cs =>
  match Text.trimStart cs with
  | d :: rest => if d = c then some ((), rest) else none
  | [] => none

/-- The nanoseconds of an optional fraction; digits after the ninth are dropped. -/
def fraction : Reader Nat := fun cs =>
  match cs with
  | '.' :: rest => do
    let (n, after) ← number 9 rest
    let count := rest.length - after.length
    pure (n * Nat.pow 10 (9 - count), after.dropWhile Text.isAsciiDigit)
  | _ => some (0, cs)

/-- An offset from universal time in minutes. -/
def offset : Reader Int := fun cs =>
  match cs with
  | 'Z' :: rest => some (0, rest)
  | 'z' :: rest => some (0, rest)
  | a :: rest =>
    let utc := (cs.take 3).map Char.toUpper = ['U', 'T', 'C']
    if utc then some (0, cs.drop 3)
    else
      let sign : Option Int :=
        if a = '+' then some 1 else if a = '-' ∨ a.toNat = 0x2212 then some (-1) else none
      match sign, rest with
      | some sign, h :: h' :: rest => do
        let hours ← Text.natOfDigits? [h, h']
        match rest.dropWhile fun c => c == ':' || Text.isBlank c with
        | m :: m' :: rest => do
          let minutes ← Text.natOfDigits? [m, m']
          guard (minutes ≤ 59)
          pure (sign * (hours * 60 + minutes : Nat), rest)
        | _ => none
      | _, _ => none
  | [] => none

/-- The instant that a text writes. -/
def ofText? (s : String) : Option Instant := do
  let (year, cs) ← year s.toList
  let (_, cs) ← separator '-' cs
  let (month, cs) ← field 1 12 cs
  let (_, cs) ← separator '-' cs
  let (day, cs) ← field 1 31 cs
  let cs ← match cs with
    | c :: rest => if c = 't' ∨ c = 'T' ∨ c = ' ' then some rest else none
    | [] => none
  let (hour, cs) ← field 0 23 cs
  let (_, cs) ← separator ':' cs
  let (minute, cs) ← field 0 59 cs
  let (_, cs) ← separator ':' cs
  let (second, cs) ← field 0 60 cs
  let (nanos, cs) ← fraction cs
  let (offset, cs) ← offset (Text.trimStart cs)
  guard (cs.all Text.isBlank)
  let date : Date := ⟨year, month, day⟩
  guard date.isValid
  guard (offset.natAbs < 24 * 60)
  let leap := second / 60
  let seconds : Int := (hour * 3600 + minute * 60 + (second - leap) : Nat) - offset * 60
  let day := date.dayNumber + seconds / secondsPerDay
  guard (firstDay ≤ day ∧ day ≤ lastDay)
  pure ⟨day, (seconds % secondsPerDay).toNat, nanos + leap * nanosPerSecond⟩

end Instant

end AgentTrial
