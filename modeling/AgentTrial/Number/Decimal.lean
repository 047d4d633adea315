import AgentTrial.Number.Binary64

/-!
# Decimal text of double-precision numbers

- `shortest` finds the fewest digits that still read back as a number, and of those the nearest.
- `Binary64.text` writes them: positional from 10⁻⁵ up to 10¹⁶, in scientific form beyond.
- `Binary64.fixed` writes a number with a given count of places, ties to even.
-/

namespace AgentTrial

/-- The decimal number `digits * 10 ^ exponent`. -/
structure Decimal where
  digits : Nat
  exponent : Int
  deriving DecidableEq, Repr

namespace Decimal

/-- The decimal digits of a natural number. -/
def digitsOf (n : Nat) : List Char := Nat.toDigits 10 n

/-- The least `p` from `start` on with `den ≤ num * 10 ^ p`, looked for in `fuel` steps. -/
def leadingZeros (num den : Nat) : Nat → Nat → Nat
  | 0, start => start
  | fuel + 1, start =>
    if den ≤ num * Nat.pow 10 start then start else leadingZeros num den fuel (start + 1)

/-- The exponent of the first digit of `num / den`. -/
def magnitude (num den : Nat) : Int :=
  if den ≤ num then ((digitsOf (num / den)).length : Int) - 1
  else -(leadingZeros num den 400 1 : Int)

/-- `num / den` in units of `10 ^ e`, as a quotient of natural numbers. -/
def inUnits (num den : Nat) (e : Int) : Nat × Nat :=
  if 0 ≤ e then (num, den * Nat.pow 10 e.toNat) else (num * Nat.pow 10 (-e).toNat, den)

/-- The numbers that round to a given one lie between `low / den` and `high / den`, ends included
when its mantissa is even. -/
structure Interval where
  low : Nat
  value : Nat
  high : Nat
  den : Nat
  closed : Bool

/-- The interval of real numbers that round to `x`. -/
def intervalOf (x : Binary64) : Interval :=
  let below := if x.mantissa = Nat.pow 2 52 ∧ Binary64.minExponent < x.exponent then 1 else 2
  let scale (n : Nat) := (Binary64.inUnits n 1 (-(x.exponent - 2))).1
  { low := scale (4 * x.mantissa - below)
    value := scale (4 * x.mantissa)
    high := scale (4 * x.mantissa + 2)
    den := (Binary64.inUnits 1 1 (-(x.exponent - 2))).2
    closed := x.mantissa % 2 = 0 }

/-- Whether `n * 10 ^ e` lies in an interval. -/
def Interval.contains (i : Interval) (n : Nat) (e : Int) : Bool :=
  let (low, d) := inUnits i.low i.den e
  let (high, d') := inUnits i.high i.den e
  if i.closed then low ≤ n * d && n * d' ≤ high else low < n * d && n * d' < high

/-- The nearer of the two neighbours of an interval's value on the grid `10 ^ e` that lie in the
interval, if one does. -/
def Interval.onGrid? (i : Interval) (e : Int) : Option Decimal :=
  let (num, den) := inUnits i.value i.den e
  let down := num / den
  match i.contains down e, i.contains (down + 1) e with
  | true, true => some ⟨Binary64.roundHalfEven num den, e⟩
  | true, false => some ⟨down, e⟩
  | false, true => some ⟨down + 1, e⟩
  | false, false => none

/-- The first of `fuel` ever finer grids from `10 ^ e` on with a point in the interval. -/
def Interval.search (i : Interval) : Nat → Int → Decimal
  | 0, e => ⟨(inUnits i.value i.den e).1 / (inUnits i.value i.den e).2, e⟩
  | fuel + 1, e => (i.onGrid? e).getD (i.search fuel (e - 1))

/-- The decimal number of fewest digits that reads back as `x`, and the nearest of those. The
first grid is that of the power of ten above `x`, which a number just below it may read back as. -/
def shortest (x : Binary64) : Decimal :=
  (intervalOf x).search 18 (magnitude x.ratio.1 x.ratio.2 + 1)

/-- The decimal text of a positive number: its digits around the point when the point stands at
most 16 digits in and at most four zeros before them, in scientific form otherwise. -/
def text (d : Decimal) : String :=
  let digits := digitsOf d.digits
  let point : Int := digits.length + d.exponent
  if 0 ≤ d.exponent ∧ point ≤ 16 then
    String.ofList (digits ++ List.replicate d.exponent.toNat '0') ++ ".0"
  else if 0 < point ∧ point ≤ 16 then
    String.ofList (digits.take point.toNat ++ '.' :: digits.drop point.toNat)
  else if -5 < point ∧ point ≤ 0 then
    "0." ++ String.ofList (List.replicate (-point).toNat '0' ++ digits)
  else
    let fraction := if digits.length = 1 then [] else '.' :: digits.drop 1
    let power := if 0 < point then s!"e+{point - 1}" else s!"e{point - 1}"
    String.ofList (digits.take 1 ++ fraction) ++ power

end Decimal

/-- The text of a number: the fewest digits that read back, always with a point or a power. -/
def Binary64.text (x : Binary64) : String :=
  let sign := if x.negative then "-" else ""
  sign ++ if x.mantissa = 0 then "0.0" else (Decimal.shortest x).text

/-- The text of a number with `places` digits after the point, ties to even. -/
def Binary64.fixed (places : Nat) (x : Binary64) : String :=
  let scaled := Binary64.roundHalfEven (x.ratio.1 * Nat.pow 10 places) x.ratio.2
  let digits := Decimal.digitsOf scaled
  let digits := List.replicate (places + 1 - digits.length) '0' ++ digits
  let whole := digits.take (digits.length - places)
  let fraction := if places = 0 then [] else '.' :: digits.drop (digits.length - places)
  (if x.negative then "-" else "") ++ String.ofList (whole ++ fraction)

end AgentTrial
