import Permalink.Number.Binary64
import Permalink.Text.Basic

/-!
# Value — record values

Records and settings are loosely structured: a value is a scalar, a sequence of values, a mapping
whose keys are values too, or a *model*, which is a named structure of fields that may be open for
extra ones.  `Value.shape` sorts values by how a path steps into them.
-/

namespace Permalink

/-! ### Parts of values -/

/-- A calendar day. -/
structure Date where
  year : Nat
  month : Nat
  day : Nat
  deriving DecidableEq

/-- The integers from `start` on in steps of `step`, before `stop`. -/
structure Progression where
  start : Int
  stop : Int
  step : Int
  deriving DecidableEq

/-- The number of terms. -/
def Progression.length (p : Progression) : Nat :=
  if 0 < p.step then ((p.stop - p.start + p.step - 1) / p.step).toNat
  else if p.step < 0 then ((p.start - p.stop - p.step - 1) / -p.step).toNat
  else 0

/-- The term at index `i`, counted from 0. -/
def Progression.term (p : Progression) (i : Nat) : Int := p.start + i * p.step

/-- How items are held together. -/
inductive Collection where
  | list
  | tuple
  | set
  deriving DecidableEq

/-! ### Values -/

/-- A value of a record or of a setting. -/
inductive Value where
  | null
  | bool (b : Bool)
  | int (n : Int)
  | real (x : Binary64)
  | text (t : Text)
  /-- Bytes; those of a buffer can be changed. -/
  | bytes (buffer : Bool) (content : List UInt8)
  | date (d : Date)
  | range (p : Progression)
  | items (kind : Collection) (xs : List Value)
  /-- Entries, each a key and what it maps to. -/
  | mapping (entries : List (Value × Value))
  /-- A named structure; an open one takes extra fields. -/
  | model (name : Text) (isOpen : Bool) (fields extra : List (Text × Value))

namespace Value

/-- How a path steps into a value: by name, by index, not at all, or there is no value. -/
inductive Shape where
  | mapping
  | sequence
  | scalar
  | undefined
  deriving DecidableEq

/-- The shape of a value.  Text, bytes and sets are scalars. -/
def shape : Value → Shape
  | null => .undefined
  | mapping _ | model .. => .mapping
  | items .list _ | items .tuple _ | range _ => .sequence
  | _ => .scalar

/-- Does a value count as true where a switch is wanted? -/
def truthy : Value → Bool
  | null => false
  | bool b => b
  | int n => n != 0
  | real x => !x.isZero
  | text t => !t.isEmpty
  | bytes _ content => !content.isEmpty
  | date _ => true
  | range p => p.length != 0
  | items _ xs => !xs.isEmpty
  | mapping entries => !entries.isEmpty
  | model .. => true

/-- The name of the kind of a value. -/
def kindName : Value → Text
  | null => "NoneType"
  | bool _ => "bool"
  | int _ => "int"
  | real _ => "float"
  | text _ => "str"
  | bytes false _ => "bytes"
  | bytes true _ => "bytearray"
  | date _ => "date"
  | range _ => "range"
  | items .list _ => "list"
  | items .tuple _ => "tuple"
  | items .set _ => "set"
  | mapping _ => "dict"
  | model name .. => name

/-- The name of the kind of a value, with the module of a kind that has one. -/
def qualifiedKindName : Value → Text
  | date _ => "datetime.date"
  | v => v.kindName

end Value
end Permalink
