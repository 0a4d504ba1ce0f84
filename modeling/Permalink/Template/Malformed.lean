import Permalink.Template.Field

/-!
# Template — what can be wrong with a template

A template is rejected for one cause, found at one place.  Causes that concern a single segment
carry its text.  The message names the template, the reason and, where the cause has one, the
offset.
-/

namespace Permalink

/-- A cause for rejecting a template. -/
inductive Defect where
  | notText
  | nested
  | unopened
  | unclosed
  | noPeriod (raw : Text)
  | modelName (raw model : Text)
  | noField (raw : Text)
  | periodInField (raw : Text)
  | unionMarker (raw component : Text)
  | adjacentMarkers (raw : Text)
  | fieldName (raw component : Text)
  | trailingMarker (raw : Text)
  | mixedModels (models : List Text)
  | misplaced (raw : Text)
  | noSegments
  deriving DecidableEq

/-- The reason that a message gives for a defect. -/
def Defect.reason : Defect → Text
  | notText => "template must be a non-empty string"
  | nested => "segments cannot be nested"
  | unopened => "unbalanced '\x7d'"
  | unclosed => "unclosed '\x7b'"
  | noPeriod raw =>
    Text.concat ["segment ", raw, " must use a period to separate the model from the field, ",
      "following the schema \x7bModel.field\x7d"]
  | modelName raw model => Text.concat ["segment ", raw, " has an invalid model name '", model, "'"]
  | noField raw => Text.concat ["segment ", raw, " has no field"]
  | periodInField raw =>
    Text.concat ["segment ", raw, " must use '__' instead of '.' between nested fields"]
  | unionMarker raw component =>
    Text.concat ["segment ", raw, " has an invalid union marker '", component, "'"]
  | adjacentMarkers raw => Text.concat ["segment ", raw, " has consecutive union markers"]
  | fieldName raw component =>
    Text.concat ["segment ", raw, " has an invalid field name '", component, "'"]
  | trailingMarker raw =>
    Text.concat ["segment ", raw, " ends with a union marker; a field must follow it"]
  | mixedModels models =>
    Text.concat ["segments reference different models: ", List.intercalate [',', ' '] models]
  | misplaced raw => Text.concat ["segment ", raw, " does not match the template at its offsets"]
  | noSegments => "template has no collection segments to query"

/-- A rejected template, the cause, and the offset at which it was found. -/
structure Malformed where
  template : Text
  defect : Defect
  position : Option Int := none
  deriving DecidableEq

/-- The message of a rejection. -/
def Malformed.message (m : Malformed) : Text :=
  Text.concat ["Malformed path template '", m.template, "': ", m.defect.reason,
    match m.position with
    | none => []
    | some i => Text.concat [" (at position ", Text.ofInt i, ")"]]

end Permalink
