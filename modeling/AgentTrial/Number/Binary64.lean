/-!
# Double-precision numbers

Finite binary floating-point numbers with 53 bits of precision, and their arithmetic in exact
integers with one rounding at the end.

- `nearest?` rounds a quotient of natural numbers, ties to even.
- `ofNat`, `mul?` and `div?` round once each.
-/

namespace AgentTrial

/-- The number `mantissa * 2 ^ exponent`, or its negative. -/
structure Binary64 where
  negative : Bool
  mantissa : Nat
  exponent : Int
  deriving DecidableEq, Repr, Inhabited

namespace Binary64

/-- The exponent of the finest numbers. -/
def minExponent : Int := -1074

/-- The exponent of the coarsest numbers. -/
def maxExponent : Int := 971

def zero (negative : Bool) : Binary64 := ⟨negative, 0, minExponent⟩

/-- `num / den` in units of `2 ^ e`, as a quotient of natural numbers. -/
def inUnits (num den : Nat) (e : Int) : Nat × Nat :=
  if 0 ≤ e then (num, den * Nat.pow 2 e.toNat) else (num * Nat.pow 2 (-e).toNat, den)

/-- The natural number nearest to `num / den`, ties to even. -/
def roundHalfEven (num den : Nat) : Nat :=
  let quotient := num / den
  let twice := 2 * (num % den)
  if den < twice || (twice == den && quotient % 2 == 1) then quotient + 1 else quotient

/-- The exponent at which `num / den` has 53 bits before the point, if it is not too fine. -/
def exponentFor (num den : Nat) : Int :=
  let low : Int := (num.log2 : Int) - (den.log2 : Int) - 53
  let (n, d) := inUnits num den low
  max minExponent (if Nat.pow 2 53 * d ≤ n then low + 1 else low)

/-- The number nearest to `num / den`, unless that is too large. -/
def nearest? (negative : Bool) (num den : Nat) : Option Binary64 :=
  if num = 0 then some (zero negative)
  else
    let e := exponentFor num den
    let (n, d) := inUnits num den e
    let m := roundHalfEven n d
    let (m, e) := if m = Nat.pow 2 53 then (Nat.pow 2 52, e + 1) else (m, e)
    if maxExponent < e then none else some ⟨negative, m, e⟩

/-- The magnitude of a number as a quotient of natural numbers. -/
def ratio (x : Binary64) : Nat × Nat :=
  inUnits x.mantissa 1 (-x.exponent)

/-- The number nearest to `n`, or the largest number. -/
def ofNat (n : Nat) : Binary64 :=
  (nearest? false n 1).getD ⟨false, Nat.pow 2 53 - 1, maxExponent⟩

/-- The number nearest to `num / den`, or the largest number. -/
def ofRatio (num den : Nat) : Binary64 :=
  (nearest? false num den).getD ⟨false, Nat.pow 2 53 - 1, maxExponent⟩

def mul? (x y : Binary64) : Option Binary64 :=
  nearest? (x.negative != y.negative) (x.ratio.1 * y.ratio.1) (x.ratio.2 * y.ratio.2)

/-- The quotient of two numbers; none by zero. -/
def div? (x y : Binary64) : Option Binary64 :=
  if y.mantissa = 0 then none
  else nearest? (x.negative != y.negative) (x.ratio.1 * y.ratio.2) (x.ratio.2 * y.ratio.1)

/-- The sum of the magnitudes of two numbers. -/
def addMagnitudes (x y : Binary64) : Binary64 :=
  ofRatio (x.ratio.1 * y.ratio.2 + y.ratio.1 * x.ratio.2) (x.ratio.2 * y.ratio.2)

def neg (x : Binary64) : Binary64 := { x with negative := !x.negative }

/-- The power of ten nearest to `10 ^ n`. -/
def pow10 (n : Nat) : Binary64 := ofNat (Nat.pow 10 n)

end Binary64

end AgentTrial
