import Permalink.Fault
import Permalink.Text.Alphanumeric
import Permalink.Value.Literal
import Permalink.Value.Lookup

/-!
# Slug — options

How slugs are made: whether letters are put in lower case, whether text is folded to ASCII, whether
camel case is taken apart, which character separates words, and what is replaced beforehand.

Options come from a setting, a mapping from which the known names are taken.  Switches keep the
value they were given and only its truth counts.  The separator must be one character, no slash and
not alphanumeric, and each replacement a pair whose first part counts as true; both facts are part
of the types.  The parts of a replacement need not be text, which shows only when it is made.
-/

namespace Permalink

/-- A character that may stand between the words of a slug. -/
structure Separator where
  mark : Char
  ne_slash : mark ≠ '/'
  not_alnum : Text.isAlnum mark = false

/-- A replacement: what is replaced, and by what. -/
structure Replacement where
  old : Value
  new : Value
  old_truthy : old.truthy = true

/-- How slugs are made. -/
structure SlugOptions where
  lowercase : Value := .bool true
  separator : Separator := ⟨'-', by decide, by decide⟩
  stripDiacritics : Value := .bool true
  decamelize : Value := .bool true
  replacements : List Replacement := [⟨.text ['&'], .text [' ', 'a', 'n', 'd', ' '], rfl⟩]

namespace Separator

/-- The separator that a setting names. -/
def ofValue (v : Value) : Except OptionDefect Separator :=
  match v with
  | .text [c] =>
    if h : c = '/' then .error .separatorSlash
    else if h' : Text.isAlnum c = true then .error .separatorAlnum
    else .ok ⟨c, h, by simpa using h'⟩
  | _ => .error .separatorLength

end Separator

namespace Replacement

/-- The fault of parts that are no replacement, which shows them as a tuple. -/
def invalid (parts : List Value) : Except Fault Replacement := do
  let shown ← (Value.items .tuple parts).literal
  .error (.option (.pair shown))

/-- The replacement that the parts of a setting write. -/
def ofParts (parts : List Value) : Except Fault Replacement :=
  match parts with
  | [old, new] => if h : old.truthy = true then .ok ⟨old, new, h⟩ else invalid parts
  | _ => invalid parts

end Replacement

/-! ### Reading a setting -/

namespace Value

/-- The items that a setting is read as: the characters of text, the keys of a mapping, the names
and values of a model's fields. -/
def itemsOf : Value → Except Fault (List Value)
  | text t => .ok (t.map fun c => text [c])
  | bytes _ content => .ok (content.map fun b => int b.toNat)
  | range p => .ok ((List.range p.length).map fun i => int (p.term i))
  | items _ xs => .ok xs
  | mapping entries => .ok (entries.map (·.1))
  | model _ _ fields extra =>
    .ok ((fields ++ extra).map fun (name, v) => items .tuple [text name, v])
  | v => .error (.noItems v.qualifiedKindName)

/-- The items that one replacement is read from.  Those of a range are counted first. -/
def partsOf : Value → Except Fault (List Value)
  | range p => p.count.bind fun _ => (range p).itemsOf
  | v => v.itemsOf

end Value

namespace SlugOptions

/-- The options that a setting gives; what it does not name is as by default. -/
def ofValue (v : Value) : Except Fault SlugOptions := do
  let .mapping entries := v | .error (.noEntries v.qualifiedKindName)
  let given (name : String) : Option Value := Value.keyed? name entries
  let pairs : Option (List (List Value)) ←
    match given "replacements" with
    | none => pure none
    | some v => do
      let parts ← (← v.itemsOf).mapM Value.partsOf
      pure (some parts)
  let separator : Option Separator ←
    match given "separator" with
    | none => pure none
    | some v => ((Separator.ofValue v).map some).mapError Fault.option
  let replacements : Option (List Replacement) ←
    match pairs with
    | none => pure none
    | some ps => (ps.mapM Replacement.ofParts).map some
  let default : SlugOptions := {}
  return {
    lowercase := (given "lowercase").getD default.lowercase
    separator := separator.getD default.separator
    stripDiacritics := (given "strip_diacritics").getD default.stripDiacritics
    decamelize := (given "decamelize").getD default.decamelize
    replacements := replacements.getD default.replacements }

/-- The options that an optional setting gives. -/
def ofValue? : Option Value → Except Fault SlugOptions
  | none => .ok {}
  | some v => ofValue v

end SlugOptions
end Permalink
