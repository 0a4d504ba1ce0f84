import Permalink.Number.Binary64

/-!
# Number — shortest decimals

The numbers that round to one binary number fill an interval around it.  Its *shortest decimal* is
the one of fewest digits in that interval, and of those the nearest.  On a grid of decimals it is
enough to look at the two neighbours of the number: if any point of the grid lies in the interval,
one of these does.  Grids of one to seventeen digits are tried in turn, and seventeen always
suffice.

The interval's ends belong to it when the significand is even, since ties go to the even one.
-/

namespace Permalink.Shortest

/-- The numbers that round to `m * 2 ^ e`, in units of a quarter of `2 ^ e`: the lower end, the
number itself, the upper end.  Below a power of two the next number is only half as far. -/
def interval (m : Nat) (e : Int) : Nat × Nat × Nat :=
  let isPower := m = Nat.pow 2 (Binary64.precision - 1)
  let gap := if isPower ∧ Binary64.leastExponent < e then 1 else 2
  (4 * m - gap, 4 * m, 4 * m + 2)

/-- The fraction that `n` units of a quarter of `2 ^ e` are, in units of `10 ^ g`. -/
def inGrid (e g : Int) (n : Nat) : Nat × Nat :=
  let (n, d) := Binary64.unscale 2 n 1 (2 - e)
  Binary64.unscale 10 n d g

/-- The point of the grid of `10 ^ g` to which `m * 2 ^ e` is shortened, if its interval holds
one. -/
def onGrid (m : Nat) (e g : Int) : Option Nat :=
  let (low, mid, high) := interval m e
  let (n, d) := inGrid e g mid
  let (lowN, lowD) := inGrid e g low
  let (highN, highD) := inGrid e g high
  let closed := m % 2 == 0
  let holds (k : Nat) : Bool :=
    (lowN < k * lowD || closed && lowN == k * lowD) &&
      (k * highD < highN || closed && k * highD == highN)
  let below := n / d
  match holds below, holds (below + 1) with
  | true, true => some (Binary64.roundHalfEven n d)
  | true, false => some below
  | false, true => some (below + 1)
  | false, false => none

/-- The places before the point of the positive fraction `n / d`; negative if zeros follow the
point. -/
def places (n d : Nat) : Int :=
  let guess : Int := (Text.ofNat n).length - (Text.ofNat d).length
  let (n, d) := Binary64.unscale 10 n d guess
  if d ≤ n then guess + 1 else guess

/-- The first hit on the grids of `digits` digits and more, of which `more` are left. -/
def search (m : Nat) (e p : Int) (digits : Nat) : (more : Nat) → Nat × Int
  | 0 => let (n, d) := inGrid e (p - digits) (4 * m); (Binary64.roundHalfEven n d, p - digits)
  | more + 1 =>
    match onGrid m e (p - digits) with
    | some k => (k, p - digits)
    | none => search m e p (digits + 1) more

/-- The shortest decimal of `m * 2 ^ e`: its digits without zeros at the end, and the places
before the point. -/
def shortest (m : Nat) (e : Int) : Text × Int :=
  let (n, d) := inGrid e 0 (4 * m)
  let (k, g) := search m e (places n d) 1 16
  let ds := Text.ofNat k
  ((ds.reverse.dropWhile (· == '0')).reverse, ds.length + g)

end Permalink.Shortest
