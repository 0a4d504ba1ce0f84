import Permalink.Json.Basic
import Permalink.Value.Literal

/-!
# Value — a value as data

A value is written as data for diagnostics.  Lists and tuples become arrays, mappings objects, and
what data has no form for becomes the text that is shown of it.  Only a key must be text, a number,
a truth value or null; and an integer of too many digits cannot be written, as a value or as a key.

A model is made data first, and that is written: the object of its fields and extra fields.  Inside
a model sets are arrays, bytes are the text that they encode, and most keys have a name; but a range
has no form, as a part or as a key, and neither have bytes that encode no text.  That is an
assumption: `modelData` renders what pydantic's `model_dump` is taken to do in JSON mode.
-/

namespace Permalink
namespace Value

/-! ### Keys -/

/-- The name of an entry, of which `v` is the key. -/
def entryName (v : Value) : Except Fault Text :=
  match v with
  | text t => .ok t
  | real x => .ok (NumberStyle.data.write x)
  | bool b => .ok (boolText b)
  | null => .ok ['n', 'u', 'l', 'l']
  | int n => Decimal.write n
  | v => .error (.key v.kindName)

/-! ### Keys inside a model -/

/-- The text that bytes encode. -/
def decoded? (content : List UInt8) : Option Text :=
  (String.fromUTF8? ⟨content.toArray⟩).map String.toList

/-- How many of the bytes, from the first on, encode text, where not all do. -/
def decodedLength (content : List UInt8) : Nat :=
  ((List.range content.length).findRev? fun k => (decoded? (content.take k)).isSome).getD 0

/-- The text that bytes encode; the fault names the byte up to which they do. -/
def encodedText (content : List UInt8) : Except Fault Text :=
  match decoded? content with
  | some t => .ok t
  | none =>
    let position := decodedLength content
    .error (.encoding (content.getD position 0) position)

mutual

/-- The name of an entry inside a model, of which the argument is the key. -/
def modelEntryName : Value → Except Fault Text
  | bool b => .ok (boolText b)
  | bytes _ content => encodedText content
  | range p => .error (.noForm (range p).kindName)
  | items .tuple xs => (modelEntryNames xs).map (List.intercalate [','])
  | v => v.shown

/-- The names of some keys inside a model. -/
def modelEntryNames : List Value → Except Fault (List Text)
  | [] => .ok []
  | x :: xs => do
    let name ← modelEntryName x
    let names ← modelEntryNames xs
    return name :: names

end

/-- Entries in order of their names' first mention, each with what its name was last given. -/
def lastGiven (entries : List (Text × Json)) : List (Text × Json) :=
  entries.foldl put []
where
  /-- The entries with `entry` in place of the one of its name, or behind them. -/
  put : List (Text × Json) → Text × Json → List (Text × Json)
    | [], entry => [entry]
    | e :: es, entry => if e.1 = entry.1 then entry :: es else e :: put es entry

/-! ### Inside a model -/

mutual

/-- A value inside a model as data. -/
def modelData : Value → Except Fault Json
  | null => .ok .null
  | bool b => .ok (.bool b)
  | int n => .ok (.int n)
  | real x => .ok (.real x)
  | text t => .ok (.text t)
  | bytes _ content => (encodedText content).map .text
  | date d => .ok (.text (dateText d))
  | range p => .error (.noForm (range p).kindName)
  | items _ xs => (modelItems xs).map .array
  | mapping entries => (modelEntries entries).map fun es => .object (lastGiven es)
  | model _ _ fields extra => do
    let fs ← modelFields fields
    let es ← modelFields extra
    return .object (fs ++ es)

/-- Items inside a model as data. -/
def modelItems : List Value → Except Fault (List Json)
  | [] => .ok []
  | x :: xs => do
    let j ← modelData x
    let js ← modelItems xs
    return j :: js

/-- Entries inside a model as data. -/
def modelEntries : List (Value × Value) → Except Fault (List (Text × Json))
  | [] => .ok []
  | (k, v) :: rest => do
    let name ← modelEntryName k
    let j ← modelData v
    let js ← modelEntries rest
    return (name, j) :: js

/-- Fields as data. -/
def modelFields : List (Text × Value) → Except Fault (List (Text × Json))
  | [] => .ok []
  | (name, v) :: rest => do
    let j ← modelData v
    let js ← modelFields rest
    return (name, j) :: js

end

/-! ### Outside of models -/

mutual

/-- The text of a value that stands at a level, as data. -/
def write (level : Nat) : Value → Except Fault Text
  | null => Json.null.write level
  | bool b => (Json.bool b).write level
  | int n => (Json.int n).write level
  | real x => (Json.real x).write level
  | text t => (Json.text t).write level
  | items .list xs => (writeItems (level + 1) xs).map (Json.block '[' ']' level)
  | items .tuple xs => (writeItems (level + 1) xs).map (Json.block '[' ']' level)
  | mapping entries => (writeEntries (level + 1) entries).map (Json.block '{' '}' level)
  | model name isOpen fields extra => do
    let j ← modelData (model name isOpen fields extra)
    j.write level
  | v => v.shown.map Json.writeText

/-- The texts of items at a level. -/
def writeItems (level : Nat) : List Value → Except Fault (List Text)
  | [] => .ok []
  | x :: xs => do
    let t ← write level x
    let ts ← writeItems level xs
    return t :: ts

/-- The texts of entries at a level. -/
def writeEntries (level : Nat) : List (Value × Value) → Except Fault (List Text)
  | [] => .ok []
  | (k, v) :: rest => do
    let name ← entryName k
    let t ← write level v
    let ts ← writeEntries level rest
    return Json.entryText name t :: ts

end

/-- A value as the text of data. -/
def serialize (v : Value) : Except Fault Text := v.write 0

end Value
end Permalink
