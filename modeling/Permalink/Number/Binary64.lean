import Permalink.Number.Decimal

/-!
# Number — binary floating point

The numbers of the 64-bit binary format, as values: a finite number is a significand of at most
53 bits times a power of two not below the -1074th.  `Binary64.ofDecimal` rounds a decimal to the
nearest such number, a tie to the even significand; what is too large becomes infinite.
-/

namespace Permalink

/-- A 64-bit binary floating-point number; a finite one is `significand * 2 ^ exponent`. -/
inductive Binary64 where
  | nan
  | infinite (negative : Bool)
  | finite (negative : Bool) (significand : Nat) (exponent : Int)
  deriving DecidableEq

namespace Binary64

/-- The bits of a significand. -/
def precision : Nat := 53

/-- The least exponent of two. -/
def leastExponent : Int := -1074

/-- The greatest exponent of two. -/
def greatestExponent : Int := 971

/-! ### Rounding -/

/-- The natural number nearest to `n / d`, of two equally near the even one. -/
def roundHalfEven (n d : Nat) : Nat :=
  let q := n / d
  let r := n % d
  if 2 * r < d then q
  else if d < 2 * r then q + 1
  else if q % 2 = 0 then q else q + 1

/-- The fraction `n / d` divided by `base ^ e`. -/
def unscale (base n d : Nat) (e : Int) : Nat × Nat :=
  if 0 ≤ e then (n, d * Nat.pow base e.toNat) else (n * Nat.pow base (-e).toNat, d)

/-- The number nearest to the fraction `n / d`. -/
def ofFraction (negative : Bool) (n d : Nat) : Binary64 :=
  if n = 0 then finite negative 0 0
  else
    let guess := (n.log2 : Int) - d.log2 - precision
    let low := unscale 2 n d guess
    let e := max (if low.1 / low.2 < Nat.pow 2 precision then guess else guess + 1) leastExponent
    let scaled := unscale 2 n d e
    let m := roundHalfEven scaled.1 scaled.2
    let (m, e) := if m < Nat.pow 2 precision then (m, e) else (m / 2, e + 1)
    if greatestExponent < e then infinite negative else finite negative m e

/-- The number nearest to a decimal.  A decimal of more than 310 places before the point is
infinite, and one whose first 330 places after it are zero is zero. -/
def ofDecimal (x : Decimal) : Binary64 :=
  let places : Int := (Text.ofNat x.digits).length + x.exponent
  if x.digits = 0 ∨ places < -330 then finite x.negative 0 0
  else if 310 < places then infinite x.negative
  else
    let (n, d) := unscale 10 x.digits 1 (-x.exponent)
    ofFraction x.negative n d

/-! ### Views -/

/-- Is the number zero? -/
def isZero : Binary64 → Bool
  | finite _ m _ => m == 0
  | _ => false

/-- The integer that the number is, if it is one. -/
def integer? : Binary64 → Option Int
  | finite negative m e =>
    let (n, d) := unscale 2 m 1 (-e)
    if n % d = 0 then some (if negative then -((n / d : Nat) : Int) else (n / d : Nat)) else none
  | _ => none

end Binary64
end Permalink
