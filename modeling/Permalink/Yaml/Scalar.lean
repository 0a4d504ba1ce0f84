import Permalink.Number.Written
import Permalink.Value.Basic

/-!
# Yaml — scalars

A plain scalar is resolved by its text: null, a truth value, an integer (decimal, octal, binary,
hexadecimal or in base sixty), a binary floating-point number, or else text.  Underscores may stand
among digits.  A quoted scalar is text, with a doubled quote for a quote between single quotes and
with escapes between double quotes.
-/

namespace Permalink.Yaml

/-! ### Integers -/

/-- The value of a hexadecimal digit. -/
def hexValue? (c : Char) : Option Nat :=
  if c.isDigit then some (c.toNat - '0'.toNat)
  else if 'a' ≤ c ∧ c ≤ 'f' then some (c.toNat - 'a'.toNat + 10)
  else if 'A' ≤ c ∧ c ≤ 'F' then some (c.toNat - 'A'.toNat + 10)
  else none

/-- The number that digits write in a base; underscores do not count. -/
def numeral? (base : Nat) (t : Text) : Option Nat :=
  (t.filter (· != '_')).foldl
    (fun n c => do
      let n ← n
      let d ← hexValue? c
      if d < base then some (base * n + d) else none)
    (some 0)

/-- The number that numerals between colons write in base sixty. -/
def sixties? (parts : List Text) : Option Nat :=
  parts.foldl (fun n p => do return 60 * (← n) + (← numeral? 10 p)) (some 0)

/-- Is every part behind the first of one or two digits and below sixty? -/
def areSixties (parts : List Text) : Bool :=
  parts.tail.all fun p =>
    match p with
    | [d] => d.isDigit
    | [t, d] => '0' ≤ t && t ≤ '5' && d.isDigit
    | _ => false

/-- The natural number that a plain scalar without sign writes. -/
def natural? (t : Text) : Option Nat :=
  match t with
  | ['0'] => some 0
  | '0' :: 'b' :: ds => if ds.isEmpty then none else numeral? 2 ds
  | '0' :: 'x' :: ds => if ds.isEmpty then none else numeral? 16 ds
  | '0' :: ds => if ds.all (fun c => c.isDigit || c == '_') then numeral? 8 ds else none
  | d :: _ =>
    let parts := t.splitOn ':'
    if d.isDigit && areSixties parts
        && (parts.headD []).all (fun c => c.isDigit || c == '_') then sixties? parts
    else none
  | [] => none

/-- The integer that a plain scalar writes. -/
def integer? (t : Text) : Option Int :=
  let (negative, ds) := Decimal.sign t
  (natural? ds).map fun n => if negative then -(n : Int) else n

/-! ### Floating-point numbers -/

/-- Is `t` the exponent of a number: empty, or a sign and digits behind the mark? -/
def isExponent : Text → Bool
  | [] => true
  | c :: s :: ds =>
    (c == 'e' || c == 'E') && (s == '+' || s == '-') && !ds.isEmpty && ds.all Char.isDigit
  | _ => false

/-- Does a plain scalar write a number with a point? -/
def isPointed (t : Text) : Bool :=
  let run (t : Text) := t.dropWhile fun c => c.isDigit || c == '_'
  match Decimal.sign t |>.2 with
  | '.' :: d :: rest => t.head? == some '.' && d.isDigit && isExponent (run rest)
  | d :: rest =>
    d.isDigit &&
      match run rest with
      | '.' :: rest => isExponent (run rest)
      | _ => false
  | [] => false

/-- The number in base sixty with a point that a plain scalar writes. -/
def pointedSixties? (t : Text) : Option Binary64 := do
  let (negative, ds) := Decimal.sign t
  let (whole, rest) := ds.span (· != '.')
  let fraction ← rest.tail?
  let parts := whole.splitOn ':'
  guard (1 < parts.length && areSixties parts && fraction.all fun c => c.isDigit || c == '_')
  let n ← sixties? parts
  let f := fraction.filter (· != '_')
  return Binary64.ofDecimal ⟨negative, n * Nat.pow 10 f.length + Decimal.natural f, -(f.length : Int)⟩

/-- The floating-point number that a plain scalar writes. -/
def real? (t : Text) : Option Binary64 :=
  let (negative, body) := Decimal.sign t
  if [".inf", ".Inf", ".INF"].contains (String.ofList body) then some (.infinite negative)
  else if [".nan", ".NaN", ".NAN"].contains (String.ofList t) then some .nan
  else if isPointed t then (Decimal.read? (t.filter (· != '_'))).map Binary64.ofDecimal
  else pointedSixties? t

/-! ### Plain scalars -/

/-- The texts of truth values. -/
def truths : List (String × Bool) :=
  [("yes", true), ("Yes", true), ("YES", true), ("no", false), ("No", false), ("NO", false),
    ("true", true), ("True", true), ("TRUE", true), ("false", false), ("False", false),
    ("FALSE", false), ("on", true), ("On", true), ("ON", true), ("off", false), ("Off", false),
    ("OFF", false)]

/-- The texts of null. -/
def nulls : List String := ["", "~", "null", "Null", "NULL"]

/-- The value of a plain scalar. -/
def plain (t : Text) : Value :=
  let s := String.ofList t
  if nulls.contains s then .null
  else
    match truths.lookup s, integer? t, real? t with
    | some b, _, _ => .bool b
    | _, some n, _ => .int n
    | _, _, some x => .real x
    | _, _, _ => .text t

/-! ### Quoted scalars -/

/-- The text up to the closing single quote, and what follows it. -/
def singleQuoted : Text → Option (Text × Text)
  | '\'' :: '\'' :: t => (singleQuoted t).map fun r => ('\'' :: r.1, r.2)
  | '\'' :: t => some ([], t)
  | c :: t => (singleQuoted t).map fun r => (c :: r.1, r.2)
  | [] => none

/-- What a character stands for behind a backslash. -/
def escapes : List (Char × Nat) :=
  [('0', 0), ('a', 7), ('b', 8), ('t', 9), ('\t', 9), ('n', 10), ('v', 11), ('f', 12), ('r', 13),
    ('e', 27), (' ', 32), ('"', 34), ('\\', 92), ('/', 47), ('N', 0x85), ('_', 0xA0),
    ('L', 0x2028), ('P', 0x2029)]

/-- How many hexadecimal digits follow an escape that is written by its code. -/
def codeLength? : Char → Option Nat
  | 'x' => some 2
  | 'u' => some 4
  | 'U' => some 8
  | _ => none

/-- The text up to the closing double quote, and what follows it.  Of an escape written by its
code, `code` holds the digits still to come and the value of those read. -/
def doubleQuotedFrom (code : Option (Nat × Nat)) (escaped : Bool) : Text → Option (Text × Text)
  | [] => none
  | c :: t =>
    match code with
    | some (more, n) => do
      let d ← hexValue? c
      match more with
      | more + 2 => doubleQuotedFrom (some (more + 1, 16 * n + d)) false t
      | _ => (doubleQuotedFrom none false t).map fun r => (Char.ofNat (16 * n + d) :: r.1, r.2)
    | none =>
      if escaped then
        match codeLength? c, escapes.lookup c with
        | some k, _ => doubleQuotedFrom (some (k, 0)) false t
        | none, some n => (doubleQuotedFrom none false t).map fun r => (Char.ofNat n :: r.1, r.2)
        | none, none => none
      else if c == '"' then some ([], t)
      else if c == '\\' then doubleQuotedFrom none true t
      else (doubleQuotedFrom none false t).map fun r => (c :: r.1, r.2)

/-- The text up to the closing double quote, and what follows it. -/
def doubleQuoted (t : Text) : Option (Text × Text) := doubleQuotedFrom none false t

end Permalink.Yaml
