import Permalink.Template.Malformed
import Permalink.Text.Quoted

/-!
# Faults

Everything that can go wrong, by cause.  Besides a malformed template these are: a setting that
is no valid slug option; a path asked for although segments did not resolve; an index that looks
like a number and is none, or is too long; an integer with too many digits to be written, and a
range with too many terms to be counted; a setting or a mapping key of the wrong kind; a part of a
model that has no form as data; and a separator that cannot be inserted.  Each cause has one
message.
-/

namespace Permalink

/-- Why a slug option is invalid. -/
inductive OptionDefect where
  | separatorLength
  | separatorSlash
  | separatorAlnum
  /-- A replacement that is no pair with a nonempty first part, as its literal. -/
  | pair (literal : Text)
  deriving DecidableEq

/-- The option that a defect concerns. -/
def OptionDefect.option : OptionDefect → Text
  | separatorLength | separatorSlash | separatorAlnum => "separator"
  | pair _ => "replacements"

/-- The reason that a message gives. -/
def OptionDefect.reason : OptionDefect → Text
  | separatorLength => "must be exactly one character"
  | separatorSlash => "cannot be '/'"
  | separatorAlnum => "cannot be a letter or digit"
  | pair literal => Text.concat ["invalid pair ", literal]

/-- A cause of failure. -/
inductive Fault where
  | malformed (m : Malformed)
  | option (defect : OptionDefect)
  /-- A path was asked for although these segments did not resolve. -/
  | unresolved (template : Text) (raws : List Text)
  /-- An index has a digit that is no decimal digit. -/
  | index (name : Text)
  /-- An index has too many digits. -/
  | indexLength (digits : Nat)
  /-- An integer has too many digits to be written. -/
  | integerLength
  /-- A range has too many terms to be counted. -/
  | rangeLength
  /-- A setting of this kind has no entries. -/
  | noEntries (kind : Text)
  /-- A setting of this kind has no items. -/
  | noItems (kind : Text)
  /-- The first (1) or second (2) part of a replacement is of this kind and not text. -/
  | replacement (part : Nat) (kind : Text)
  /-- A mapping key of this kind cannot be written as the name of an entry. -/
  | key (kind : Text)
  /-- Bytes inside a model encode text only up to this byte at this position. -/
  | encoding (byte : UInt8) (position : Nat)
  /-- A part of a model is of this kind and has no form as data. -/
  | noForm (kind : Text)
  /-- The separator is a lone backslash, which would start an escape. -/
  | escape
  /-- Nothing is stored under this name. -/
  | unknown (name : Text)
  /-- A settings file is not of the form that settings have. -/
  | unreadable
  deriving DecidableEq

namespace Fault

/-- The most digits that are read as an index, or written of an integer. -/
def digitLimit : Nat := 4300

/-- The most terms of a range that are counted: one less than the 63rd power of two. -/
def termLimit : Nat := 0x7FFFFFFFFFFFFFFF

/-- The message of a fault. -/
def message : Fault → Text
  | malformed m => m.message
  | option defect =>
    Text.concat ["Invalid slug option '", defect.option, "': ", defect.reason]
  | unresolved template raws =>
    Text.concat ["Path template '", template, "' failed to resolve ", Text.ofNat raws.length,
      " segment(s): ", List.intercalate [',', ' '] raws]
  | index name =>
    Text.concat ["invalid literal for int() with base 10: ", (Text.quote name).take 200]
  | indexLength digits =>
    Text.concat ["Exceeds the limit (", Text.ofNat digitLimit,
      " digits) for integer string conversion: value has ", Text.ofNat digits,
      " digits; use sys.set_int_max_str_digits() to increase the limit"]
  | integerLength =>
    Text.concat ["Exceeds the limit (", Text.ofNat digitLimit,
      " digits) for integer string conversion; use sys.set_int_max_str_digits() ",
      "to increase the limit"]
  | rangeLength => "Python int too large to convert to C ssize_t"
  | noEntries kind => Text.concat ["'", kind, "' object has no attribute 'items'"]
  | noItems kind => Text.concat ["'", kind, "' object is not iterable"]
  | replacement part kind =>
    Text.concat ["replace() argument ", Text.ofNat part, " must be str, not ", kind]
  | key kind => Text.concat ["keys must be str, int, float, bool or None, not ", kind]
  | encoding byte position =>
    Text.concat ["'utf-8' codec can't decode byte 0x", Text.hex byte.toNat 2, " in position ",
      Text.ofNat position, ": invalid utf-8"]
  | noForm kind => Text.concat ["Unable to serialize unknown type: <class '", kind, "'>"]
  | escape => "bad escape (end of pattern) at position 0"
  | unknown name => Text.quote name
  | unreadable => "settings cannot be read"

end Fault

instance : Coe Malformed Fault := ⟨Fault.malformed⟩

end Permalink
