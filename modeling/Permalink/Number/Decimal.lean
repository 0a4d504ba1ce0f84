import Permalink.Text.Basic

/-!
# Number — decimal numerals

A decimal numeral is a sign, a natural number and a power of ten: `-1.50e+3` is the number 150,
negative, times ten to the first.  It is read from ASCII text: an optional sign, digits with at
most one point among or beside them, and an optional exponent.
-/

namespace Permalink

/-- The number `digits * 10 ^ exponent`, negative if so marked. -/
structure Decimal where
  negative : Bool
  digits : Nat
  exponent : Int
  deriving DecidableEq

namespace Decimal

/-- The natural number that ASCII digits write, most significant first. -/
def natural (ds : Text) : Nat := ds.foldl (fun n c => 10 * n + (c.toNat - '0'.toNat)) 0

/-- A sign, and the text behind it. -/
def sign : Text → Bool × Text
  | '-' :: t => (true, t)
  | '+' :: t => (false, t)
  | t => (false, t)

/-- The integer that optionally signed digits write. -/
def integer? (t : Text) : Option Int :=
  let (negative, ds) := sign t
  if !ds.isEmpty && ds.all Char.isDigit then
    some (if negative then -(natural ds : Int) else natural ds)
  else none

/-- The exponent that the end of a numeral writes; 0 if the numeral ends without one. -/
def exponent? : Text → Option Int
  | [] => some 0
  | c :: t => if c = 'e' ∨ c = 'E' then integer? t else none

/-- The numeral that a text writes. -/
def read? (t : Text) : Option Decimal := do
  let (negative, t) := sign t
  let whole := t.takeWhile Char.isDigit
  let (fraction, rest) :=
    match t.dropWhile Char.isDigit with
    | '.' :: t => (t.takeWhile Char.isDigit, t.dropWhile Char.isDigit)
    | t => ([], t)
  guard !(whole.isEmpty && fraction.isEmpty)
  let exponent ← exponent? rest
  return ⟨negative, natural (whole ++ fraction), exponent - fraction.length⟩

example : read? "-1.50e+3".toList = some ⟨true, 150, 1⟩ := by decide +kernel
example : read? "1e".toList = none := by decide +kernel

end Decimal
end Permalink
