import Permalink.Text.Basic
import Permalink.Text.Printable

/-!
# Text — quoted text

A quoted text stands between quote marks and shows what cannot be printed by escapes.  The marks
are single, unless the text has a single and no double quote in it.  The mark itself and the
backslash are escaped by a backslash; line break, carriage return and tab by a letter; any other
character that is not printable by the hexadecimal digits of its code point, two, four or eight.

Bytes are quoted by the same rules, each as the ASCII character of its value, if that is
printable.  In a buffer of bytes the single quote is escaped whatever the marks; a double quote
never is, since one in the text makes the marks single.
-/

namespace Permalink.Text

/-- The last `width` hexadecimal digits of `n`. -/
def hex (n : Nat) : (width : Nat) → Text
  | 0 => []
  | width + 1 => hex (n / 16) width ++ [Nat.digitChar (n % 16)]

/-- The mark that a text is quoted with. -/
def quoteMark (t : Text) : Char :=
  if t.contains '\'' && !t.contains '"' then '"' else '\''

/-- A character between quote marks; `mark` is escaped, and `printable` says what is shown. -/
def escape (printable : Char → Bool) (mark c : Char) : Text :=
  if c == mark || c == '\\' then ['\\', c]
  else if c == '\n' then ['\\', 'n']
  else if c == '\r' then ['\\', 'r']
  else if c == '\t' then ['\\', 't']
  else if printable c then [c]
  else if c.toNat < 0x100 then '\\' :: 'x' :: hex c.toNat 2
  else if c.toNat < 0x10000 then '\\' :: 'u' :: hex c.toNat 4
  else '\\' :: 'U' :: hex c.toNat 8

/-- A text between quote marks. -/
def quote (t : Text) : Text :=
  let mark := quoteMark t
  mark :: t.flatMap (escape isPrintable mark) ++ [mark]

/-- Is `c` an ASCII character that is shown as it is? -/
def isShownByte (c : Char) : Bool := 0x20 ≤ c.toNat && c.toNat < 0x7F

/-- The characters whose code points the bytes are. -/
def ofBytes (bytes : List UInt8) : Text := bytes.map fun b => Char.ofNat b.toNat

/-- Bytes between quote marks. -/
def quoteBytes (bytes : List UInt8) : Text :=
  let t := ofBytes bytes
  let mark := quoteMark t
  mark :: t.flatMap (escape isShownByte mark) ++ [mark]

/-- The bytes of a buffer between quote marks: a single quote is escaped between double ones too. -/
def quoteBuffer (bytes : List UInt8) : Text :=
  let t := ofBytes bytes
  let mark := quoteMark t
  mark :: t.flatMap (escape isShownByte '\'') ++ [mark]

end Permalink.Text
