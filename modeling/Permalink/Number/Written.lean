import Permalink.Number.Shortest

/-!
# Number — written numbers

A binary number is written in its shortest decimal.  The decimal stands in positional notation, with
at least one digit on either side of the point, as long as the exponent of its first digit lies
between the least and the greatest that the style allows; otherwise that exponent is written
behind the digits, with a sign and at least two digits.
-/

namespace Permalink

/-- How numbers are written. -/
structure NumberStyle where
  /-- The least exponent of ten that is written positionally. -/
  least : Int
  /-- The greatest exponent of ten that is written positionally. -/
  greatest : Int
  /-- The text of what is no number. -/
  notANumber : Text
  /-- The text of positive infinity. -/
  infinity : Text

namespace NumberStyle

/-- Numbers are positional from a ten-thousandth up to sixteen places; this is how values are
shown. -/
def plain : NumberStyle := ⟨-4, 15, ['n', 'a', 'n'], ['i', 'n', 'f']⟩

/-- The same bounds, with the names that data formats use. -/
def data : NumberStyle :=
  { plain with notANumber := "NaN", infinity := "Infinity" }

/-- The digits `ds`, of which `places` stand before the point. -/
def positional (ds : Text) (places : Int) : Text :=
  let zeros (n : Int) : Text := List.replicate n.toNat '0'
  if places ≤ 0 then '0' :: '.' :: (zeros (-places) ++ ds)
  else if ds.length ≤ places then ds ++ zeros (places - ds.length) ++ ['.', '0']
  else ds.take places.toNat ++ '.' :: ds.drop places.toNat

/-- The digits `ds`, a point behind the first, and the exponent of ten. -/
def scientific (ds : Text) (exponent : Int) : Text :=
  let magnitude := Text.ofNat exponent.natAbs
  let point := if 1 < ds.length then ['.'] else []
  Text.concat [ds.take 1, point, ds.drop 1, ['e'], if exponent < 0 then ['-'] else ['+'],
    List.replicate (2 - magnitude.length) '0', magnitude]

/-- The text of a finite number without its sign. -/
def magnitude (style : NumberStyle) (m : Nat) (e : Int) : Text :=
  if m = 0 then ['0', '.', '0']
  else
    let (ds, places) := Shortest.shortest m e
    if style.least < places ∧ places - 1 ≤ style.greatest then positional ds places
    else scientific ds (places - 1)

/-- The text of a number. -/
def write (style : NumberStyle) : Binary64 → Text
  | .nan => style.notANumber
  | .infinite negative => if negative then '-' :: style.infinity else style.infinity
  | .finite negative m e =>
    if negative then '-' :: style.magnitude m e else style.magnitude m e

/-- The number that a text names or writes. -/
def read? (style : NumberStyle) (t : Text) : Option Binary64 :=
  if t = style.notANumber then some .nan
  else if t = style.infinity then some (.infinite false)
  else if t = '-' :: style.infinity then some (.infinite true)
  else (Decimal.read? t).map Binary64.ofDecimal

end NumberStyle
end Permalink
