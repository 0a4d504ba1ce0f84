import Permalink.Number.Limited
import Permalink.Number.Written
import Permalink.Value.Basic

/-!
# Value — the text of a value

A value has three texts.

* Its *literal* shows its structure: text is quoted, items and entries stand in brackets.
* It is *shown* as its literal, except that text is shown as it is, a day in its date format, and
  a model by its fields alone.
* Its *path text* (`toText`) is what goes into a path: truth values in lower case, a number
  without an empty fraction, the path texts of the items of a list or tuple with commas between,
  and for anything else what is shown.

A value with an integer of too many digits in it has none of them.  The numbers that are no integers
are too small to reach that limit.
-/

namespace Permalink
namespace Value

/-! ### Literals of scalars -/

/-- A natural number in at least `width` digits. -/
def padded (width n : Nat) : Text :=
  List.replicate (width - (Text.ofNat n).length) '0' ++ Text.ofNat n

/-- A day as year, month and day with hyphens. -/
def dateText (d : Date) : Text :=
  Text.concat [padded 4 d.year, ['-'], padded 2 d.month, ['-'], padded 2 d.day]

/-- Texts with commas and blanks between. -/
def listed (ts : List Text) : Text := List.intercalate [',', ' '] ts

/-- The integers that are shown of a range; a step of one is left out. -/
def shownBounds (p : Progression) : List Int :=
  if p.step = 1 then [p.start, p.stop] else [p.start, p.stop, p.step]

/-- The literal of a range. -/
def rangeLiteral (p : Progression) : Except Fault Text :=
  ((shownBounds p).mapM Decimal.write).map fun ts => Text.concat ["range(", listed ts, ")"]

/-- The literals of items between the brackets of their collection. -/
def bracketed : Collection → List Text → Text
  | .list, ts => Text.concat ["[", listed ts, "]"]
  | .tuple, [t] => Text.concat ["(", t, ",)"]
  | .tuple, ts => Text.concat ["(", listed ts, ")"]
  | .set, [] => "set()"
  | .set, ts => Text.concat ["\x7b", listed ts, "\x7d"]

/-! ### Literals -/

mutual

/-- The literal of a value. -/
def literal : Value → Except Fault Text
  | null => .ok "None"
  | bool b => .ok (if b then "True" else "False")
  | int n => Decimal.write n
  | real x => .ok (NumberStyle.plain.write x)
  | text t => .ok (Text.quote t)
  | bytes false content => .ok ('b' :: Text.quoteBytes content)
  | bytes true content => .ok (Text.concat ["bytearray(b", Text.quoteBuffer content, ")"])
  | date d =>
    .ok (Text.concat ["datetime.date(",
      listed [Text.ofNat d.year, Text.ofNat d.month, Text.ofNat d.day], ")"])
  | range p => rangeLiteral p
  | items kind xs => (literals xs).map (bracketed kind)
  | mapping entries =>
    (entryLiterals entries).map fun ts => Text.concat ["\x7b", listed ts, "\x7d"]
  | model name _ fields extra => do
    let fs ← fieldLiterals fields
    let es ← fieldLiterals extra
    return Text.concat [name, "(", listed (fs ++ es), ")"]

/-- The literals of some values. -/
def literals : List Value → Except Fault (List Text)
  | [] => .ok []
  | x :: xs => do
    let t ← literal x
    let ts ← literals xs
    return t :: ts

/-- The literals of entries: key, colon, value. -/
def entryLiterals : List (Value × Value) → Except Fault (List Text)
  | [] => .ok []
  | (k, v) :: rest => do
    let key ← literal k
    let t ← literal v
    let ts ← entryLiterals rest
    return Text.concat [key, ": ", t] :: ts

/-- The literals of fields: name, equals sign, value. -/
def fieldLiterals : List (Text × Value) → Except Fault (List Text)
  | [] => .ok []
  | (name, v) :: rest => do
    let t ← literal v
    let ts ← fieldLiterals rest
    return Text.concat [name, "=", t] :: ts

end

/-- A value as it is shown. -/
def shown : Value → Except Fault Text
  | text t => .ok t
  | date d => .ok (dateText d)
  | model _ _ fields extra => do
    let fs ← fieldLiterals fields
    let es ← fieldLiterals extra
    return List.intercalate [' '] (fs ++ es)
  | v => v.literal

/-! ### Path text -/

/-- The text of a truth value. -/
def boolText (b : Bool) : Text := if b then "true" else "false"

mutual

/-- The text of a value in a path. -/
def toText : Value → Except Fault Text
  | bool b => .ok (boolText b)
  | real x =>
    match x.integer? with
    | some n => .ok (Text.ofInt n)
    | none => .ok (NumberStyle.plain.write x)
  | items .list xs => (toTexts xs).map (List.intercalate [','])
  | items .tuple xs => (toTexts xs).map (List.intercalate [','])
  | v => v.shown

/-- The texts of some values in a path. -/
def toTexts : List Value → Except Fault (List Text)
  | [] => .ok []
  | x :: xs => do
    let t ← toText x
    let ts ← toTexts xs
    return t :: ts

end

theorem toTexts_eq_mapM (xs : List Value) : toTexts xs = xs.mapM toText := by
  induction xs with
  | nil => rfl
  | cons x xs ih => rw [toTexts, ih, List.mapM_cons]

end Value
end Permalink
