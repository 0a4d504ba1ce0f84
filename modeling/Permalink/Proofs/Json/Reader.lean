import Permalink.Value.Serialized

/-!
# Json — reading data

Data is read from text by the grammar of the format, whatever its layout: blanks may stand between
any two parts, a character may be written as it is or by an escape, and one beyond the 16-bit code
points by two escapes.  An object that names an entry twice has what the name was last given.

A number of digits alone is an integer; one with a fraction or an exponent is the nearest binary
number.

`read?` is the reader of data, and `Value.ofData?` that of values, to which an array is a list and
an object a mapping with texts as keys.
-/

namespace Permalink
namespace Json

/-! ### Blanks -/

/-- Is `c` one of the characters that may stand between the parts of data? -/
def isSpace (c : Char) : Bool := c == ' ' || c == '\n' || c == '\r' || c == '\t'

/-- The text without blanks in front. -/
def skip (t : Text) : Text := t.dropWhile isSpace

/-! ### Text -/

/-- The number that a hexadecimal digit writes. -/
def hexValue? (c : Char) : Option Nat :=
  if '0' ≤ c ∧ c ≤ '9' then some (c.toNat - '0'.toNat)
  else if 'a' ≤ c ∧ c ≤ 'f' then some (c.toNat - 'a'.toNat + 10)
  else if 'A' ≤ c ∧ c ≤ 'F' then some (c.toNat - 'A'.toNat + 10)
  else none

/-- The 16-bit unit that four hexadecimal digits write. -/
def unit? (a b c d : Char) : Option Nat := do
  let a ← hexValue? a
  let b ← hexValue? b
  let c ← hexValue? c
  let d ← hexValue? d
  return ((a * 16 + b) * 16 + c) * 16 + d

/-- Is the unit the first of two for one character? -/
def isLead (n : Nat) : Bool := 0xD800 ≤ n && n < 0xDC00

/-- Is the unit the second of two for one character? -/
def isTrail (n : Nat) : Bool := 0xDC00 ≤ n && n < 0xE000

/-- The character of two units. -/
def paired (lead trail : Nat) : Char :=
  Char.ofNat (0x10000 + (lead - 0xD800) * 0x400 + (trail - 0xDC00))

/-- The character that is written by a backslash and `c`. -/
def escaped? (c : Char) : Option Char :=
  if c == '"' || c == '\\' || c == '/' then some c
  else if c == 'b' then some (Char.ofNat 8)
  else if c == 'f' then some (Char.ofNat 12)
  else if c == 'n' then some '\n'
  else if c == 'r' then some '\r'
  else if c == 't' then some '\t'
  else none

/-- What was read behind `c`, with it in front. -/
def before (c : Char) (r : Text × Text) : Text × Text := (c :: r.1, r.2)

/-- The text up to the closing quote, and what is behind that.  If `lead` is given, it is the first
of two units. -/
def readText : (lead : Option Nat) → Text → Option (Text × Text)
  | none, '"' :: t => some ([], t)
  | none, '\\' :: 'u' :: a :: b :: c :: d :: t =>
    match unit? a b c d with
    | none => none
    | some n =>
      if isLead n then readText (some n) t
      else if isTrail n then none
      else (readText none t).map (before (Char.ofNat n))
  | some m, '\\' :: 'u' :: a :: b :: c :: d :: t =>
    match unit? a b c d with
    | none => none
    | some n => if isTrail n then (readText none t).map (before (paired m n)) else none
  | none, '\\' :: c :: t =>
    match escaped? c with
    | none => none
    | some d => (readText none t).map (before d)
  | none, c :: t => if c.toNat < 0x20 then none else (readText none t).map (before c)
  | _, _ => none

/-- The text in quotes that comes next, and what is behind it. -/
def readQuoted (t : Text) : Option (Text × Text) :=
  match skip t with
  | '"' :: t => readText none t
  | _ => none

/-! ### Numbers -/

/-- Can `c` stand in a number? -/
def isNumeric (c : Char) : Bool :=
  c.isDigit || c == '-' || c == '+' || c == '.' || c == 'e' || c == 'E'

/-- Are the digits those of a whole number, which has no zeros in front? -/
def isWhole (digits : Text) : Bool :=
  !digits.isEmpty && (digits.head? != some '0' || digits.length == 1)

/-- Is the text a fraction, an exponent or one behind the other? -/
def isScale : Text → Bool
  | '.' :: t =>
    !(t.takeWhile Char.isDigit).isEmpty && (Decimal.exponent? (t.dropWhile Char.isDigit)).isSome
  | t => (Decimal.exponent? t).isSome

/-- The number that the text writes. -/
def number? (t : Text) : Option Json :=
  let unsigned := if t.head? = some '-' then t.drop 1 else t
  let scale := unsigned.dropWhile Char.isDigit
  if !isWhole (unsigned.takeWhile Char.isDigit) then none
  else if scale.isEmpty then (Decimal.integer? t).map int
  else if isScale scale then (Decimal.read? t).map fun x => real (Binary64.ofDecimal x)
  else none

/-! ### Sequences -/

section Sequences

variable {α : Type} (member : Text → Option (α × Text)) (closing : Char)

/-- The members that come next, with commas between, up to the closing bracket, and what is behind
that; no more than `fuel` of them. -/
def readMembers : (fuel : Nat) → Text → Option (List α × Text)
  | 0, _ => none
  | fuel + 1, t =>
    match member t with
    | none => none
    | some (x, t) =>
      match skip t with
      | [] => none
      | c :: t =>
        if c = ',' then (readMembers fuel t).map fun r => (x :: r.1, r.2)
        else if c = closing then some ([x], t)
        else none

/-- The members up to the closing bracket, if there are any. -/
def readBlock (t : Text) : Option (List α × Text) :=
  match skip t with
  | [] => none
  | c :: rest => if c = closing then some ([], rest) else readMembers member closing t.length t

end Sequences

/-- The entry that comes next: its name, a colon, and what `value` reads. -/
def readEntry (value : Text → Option (Json × Text)) (t : Text) :
    Option ((Text × Json) × Text) :=
  match readQuoted t with
  | none => none
  | some (name, t) =>
    match skip t with
    | ':' :: t => (value t).map fun r => ((name, r.1), r.2)
    | _ => none

/-! ### Data -/

/-- The data that comes next, and what is behind it; no more than `fuel` brackets deep. -/
def readData : (fuel : Nat) → Text → Option (Json × Text)
  | 0, _ => none
  | fuel + 1, t =>
    match skip t with
    | 'n' :: 'u' :: 'l' :: 'l' :: t => some (null, t)
    | 't' :: 'r' :: 'u' :: 'e' :: t => some (bool true, t)
    | 'f' :: 'a' :: 'l' :: 's' :: 'e' :: t => some (bool false, t)
    | '"' :: t => (readText none t).map fun r => (text r.1, r.2)
    | '[' :: t => (readBlock (readData fuel) ']' t).map fun r => (array r.1, r.2)
    | '{' :: t =>
      (readBlock (readEntry (readData fuel)) '}' t).map fun r => (object (Value.lastGiven r.1), r.2)
    | t => (number? (t.takeWhile isNumeric)).map fun j => (j, t.dropWhile isNumeric)

/-- The data that the text writes, with nothing but blanks behind it. -/
def read? (t : Text) : Option Json :=
  match readData t.length t with
  | some (j, rest) => if (skip rest).isEmpty then some j else none
  | none => none

example : read? " [ \x7b \"\\u00E9\" :1 , \"\":[ ]\x7d,-2 ]\n".toList =
    some (array [object [(['é'], int 1), ([], array [])], int (-2)]) := by
  cbv

example : read? "[1,]".toList = none := by cbv

/-! ### Values -/

mutual

/-- Data as a value. -/
def toValue : Json → Value
  | null => .null
  | bool b => .bool b
  | int n => .int n
  | real x => .real x
  | text t => .text t
  | array xs => .items .list (itemValues xs)
  | object entries => .mapping (entryValues entries)

/-- Items as values. -/
def itemValues : List Json → List Value
  | [] => []
  | x :: xs => toValue x :: itemValues xs

/-- Entries as values, with texts as keys. -/
def entryValues : List (Text × Json) → List (Value × Value)
  | [] => []
  | (name, v) :: rest => (.text name, toValue v) :: entryValues rest

end

theorem entryValues_append (es fs : List (Text × Json)) :
    entryValues (es ++ fs) = entryValues es ++ entryValues fs := by
  induction es with
  | nil => rfl
  | cons e es ih =>
      rw [List.cons_append, entryValues, entryValues, ih]
      rfl

end Json

/-- The value that the text writes as data. -/
def Value.ofData? (t : Text) : Option Value := (Json.read? t).map Json.toValue

end Permalink
