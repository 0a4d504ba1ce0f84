import Permalink.Fault
import Permalink.Text.Digit
import Permalink.Value.Basic

/-!
# Value — looking up a path

A path of names leads from a value to what it holds.  A name selects the entry of a mapping, the
field of a model or, written in digits, the item of a sequence.  A path leads nowhere when a step
finds nothing or finds null; what counts as false is still found.  An index is compared with the
number of items, and a range can have too many of them to be counted.

A record may be a group: its field `nodes` holds the items of the group.  `lookupField` looks on
the first item first and on the record itself if that leads nowhere.
-/

namespace Permalink

/-- The number of terms, if they can be counted. -/
def Progression.count (p : Progression) : Except Fault Nat :=
  if p.length ≤ Fault.termLimit then .ok p.length else .error .rangeLength

namespace Value

/-- The index that a name writes; none if the name is not made of digits. -/
def index? (name : Text) : Except Fault (Option Nat) :=
  if name.isEmpty || !name.all Text.isDigit then .ok none
  else
    let leading := (name.takeWhile Text.isDecimal).length
    if Fault.digitLimit < leading then .error (.indexLength leading)
    else
      match Text.numeral? name with
      | some n => .ok (some n)
      | none => .error (.index name)

/-- The value of the field of that name. -/
def field? (name : Text) (fields : List (Text × Value)) : Option Value := fields.lookup name

/-- The value of the entry whose key is that text. -/
def keyed? (name : Text) : List (Value × Value) → Option Value
  | [] => none
  | (text t, v) :: rest => if t = name then some v else keyed? name rest
  | _ :: rest => keyed? name rest

/-- The item of a sequence at an index. -/
def item? : Value → Nat → Except Fault (Option Value)
  | items .list xs, i => .ok xs[i]?
  | items .tuple xs, i => .ok xs[i]?
  | range p, i => p.count.map fun n => if i < n then some (int (p.term i)) else none
  | _, _ => .ok none

/-- The item of a sequence under a name. -/
def itemNamed? (v : Value) (name : Text) : Except Fault (Option Value) := do
  match ← index? name with
  | none => return none
  | some i => v.item? i

/-- What a value holds under a name, null included. -/
def slot? (v : Value) (name : Text) : Except Fault (Option Value) :=
  match v with
  | mapping entries => .ok (keyed? name entries)
  | model _ _ fields extra => .ok (field? name fields <|> field? name extra)
  | v => if v.shape = .sequence then v.itemNamed? name else .ok none

/-- A value unless it is null. -/
def defined : Value → Option Value
  | null => none
  | v => some v

/-- What a value holds under a name. -/
def child? (v : Value) (name : Text) : Except Fault (Option Value) :=
  (v.slot? name).map (·.bind defined)

/-- Where a path leads from a value. -/
def lookup (v : Value) : List Text → Except Fault (Option Value)
  | [] => .ok v.defined
  | name :: path => do
    match ← v.child? name with
    | none => return none
    | some w => w.lookup path

/-- The first item of a group. -/
def firstOfGroup (record : Value) : Except Fault (Option Value) := do
  match ← record.child? ['n', 'o', 'd', 'e', 's'] with
  | none => return none
  | some group => if group.shape = .sequence then group.child? ['0'] else return none

/-- Where a path leads on a record: on the first item of its group or, failing that, on the
record itself. -/
def lookupField (record : Value) (path : List Text) : Except Fault (Option Value) := do
  match ← record.firstOfGroup with
  | none => record.lookup path
  | some item =>
    match ← item.lookup path with
    | none => record.lookup path
    | some found => return some found

theorem defined_eq_none_iff {v : Value} : v.defined = none ↔ v = null := by
  cases v <;> simp [defined]

theorem defined_eq_some_iff {v w : Value} : v.defined = some w ↔ v = w ∧ v ≠ null := by
  cases v <;> simp [defined]

theorem lookup_null (path : List Text) : null.lookup path = .ok none := by
  cases path with
  | nil => rfl
  | cons name path => rfl

/-- A path is looked up on a record that is no group itself. -/
theorem lookupField_eq_lookup {record : Value} (h : record.firstOfGroup = .ok none)
    (path : List Text) : record.lookupField path = record.lookup path := by
  rw [lookupField, h]
  rfl

end Value
end Permalink
