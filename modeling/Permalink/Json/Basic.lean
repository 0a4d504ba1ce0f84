import Permalink.Number.Limited
import Permalink.Number.Written

/-!
# Json — data as indented text

The data format that records are reported in: scalars, arrays, and objects whose entries keep their
order.  Every item and every entry stands on a line of its own, indented by four blanks per level;
an empty array or object is a pair of brackets.  Text is written in double quotes, with escapes
for the quote, the backslash and the controls below the space and for nothing else.  Data with an
integer of too many digits cannot be written.
-/

namespace Permalink

/-- Structured data. -/
inductive Json where
  | null
  | bool (b : Bool)
  | int (n : Int)
  | real (x : Binary64)
  | text (t : Text)
  | array (xs : List Json)
  | object (entries : List (Text × Json))

namespace Json

/-! ### Text -/

/-- A character in double quotes. -/
def escapeChar (c : Char) : Text :=
  if c == '"' || c == '\\' then ['\\', c]
  else if c == '\n' then ['\\', 'n']
  else if c == '\r' then ['\\', 'r']
  else if c == '\t' then ['\\', 't']
  else if c.toNat == 8 then ['\\', 'b']
  else if c.toNat == 12 then ['\\', 'f']
  else if c.toNat < 0x20 then '\\' :: 'u' :: Text.hex c.toNat 4
  else [c]

/-- A text in double quotes. -/
def writeText (t : Text) : Text := '"' :: t.flatMap escapeChar ++ ['"']

/-- An entry, of its name and the text of its value. -/
def entryText (name value : Text) : Text := writeText name ++ ':' :: ' ' :: value

/-! ### Layout -/

/-- A line break and the indentation of a level. -/
def newLine (level : Nat) : Text := '\n' :: List.replicate (4 * level) ' '

/-- The texts of items or entries, each on a line, between brackets at a level. -/
def block (opening closing : Char) (level : Nat) (ts : List Text) : Text :=
  if ts.isEmpty then [opening, closing]
  else
    opening :: List.intercalate [','] (ts.map (newLine (level + 1) ++ ·)) ++ newLine level ++
      [closing]

mutual

/-- The text of data that stands at a level. -/
def write (level : Nat) : Json → Except Fault Text
  | null => .ok "null"
  | bool b => .ok (if b then "true" else "false")
  | int n => Decimal.write n
  | real x => .ok (NumberStyle.data.write x)
  | text t => .ok (writeText t)
  | array xs => (writeItems (level + 1) xs).map (block '[' ']' level)
  | object entries => (writeEntries (level + 1) entries).map (block '{' '}' level)

/-- The texts of items at a level. -/
def writeItems (level : Nat) : List Json → Except Fault (List Text)
  | [] => .ok []
  | x :: xs => do
    let t ← write level x
    let ts ← writeItems level xs
    return t :: ts

/-- The texts of entries at a level. -/
def writeEntries (level : Nat) : List (Text × Json) → Except Fault (List Text)
  | [] => .ok []
  | (k, v) :: rest => do
    let t ← write level v
    let ts ← writeEntries level rest
    return entryText k t :: ts

end

/-- The text of data. -/
def render (j : Json) : Except Fault Text := write 0 j

end Json
end Permalink
