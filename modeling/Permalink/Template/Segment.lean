import Permalink.Template.Region
import Permalink.Text.Alphanumeric

/-!
# Template — segments

A segment is the meaning of a region `{Model.field}`: a model name, and a field reference whose
components are field names and union markers.  A *name* is made of word characters; a *marker* is
a name in parentheses, and narrows what the name before it refers to.  A segment keeps the names,
and for each marker how many names precede it.

A name or a marker may be followed by one last line break, which stays in the name and is dropped
from the marker.
-/

namespace Permalink

/-- A union marker: the type it narrows to, and the number of names before it. -/
structure UnionMarker where
  typeName : Text
  depth : Int
  deriving DecidableEq

/-- A dynamic part of a template. -/
structure Segment where
  /-- The text of the region, braces included. -/
  raw : Text
  /-- The offset of the opening brace. -/
  start : Int
  /-- The offset behind the closing brace. -/
  stop : Int
  /-- The name before the period. -/
  model : Text
  /-- The reference after the period, as written. -/
  field : Text
  /-- The names of the reference, root first. -/
  path : List Text
  /-- The markers of the reference, in order. -/
  markers : List UnionMarker
  deriving DecidableEq

namespace Segment

/-! ### Names and markers -/

/-- Is `t` a name: word characters, perhaps with a last line break? -/
def isName (t : Text) : Bool :=
  t.takeWhile Text.isWord != [] && Text.atEnd (t.dropWhile Text.isWord)

/-- The name in the marker `t`. -/
def markerType? : Text → Option Text
  | '(' :: t =>
    match t.takeWhile Text.isWord, t.dropWhile Text.isWord with
    | [], _ => none
    | name, ')' :: rest => if Text.atEnd rest then some name else none
    | _, _ => none
  | _ => none

/-- Does a component have a marker's first or last character? -/
def isMarkerLike (t : Text) : Bool := t.head? == some '(' || t.getLast? == some ')'

/-! ### Reading a region -/

/-- The names and markers of the components that follow `depth` names, the last of them directly
or, if `afterMarker`, with a marker in between. -/
def readComponents (raw : Text) (depth : Nat) (afterMarker : Bool) :
    List Text → Except Defect (List Text × List UnionMarker)
  | [] => if afterMarker then .error (.trailingMarker raw) else .ok ([], [])
  | c :: cs =>
    if isMarkerLike c then
      match markerType? c with
      | none => .error (.unionMarker raw c)
      | some name =>
        if afterMarker then .error (.adjacentMarkers raw)
        else (readComponents raw depth true cs).map fun r => (r.1, ⟨name, depth⟩ :: r.2)
    else if isName c then
      (readComponents raw (depth + 1) false cs).map fun r => (c :: r.1, r.2)
    else .error (.fieldName raw c)

/-- The segment that the text `raw` of a region writes, placed at `start` and `stop`. -/
def ofRaw (raw : Text) (start stop : Int) : Except Defect Segment :=
  let body := (raw.drop 1).dropLast
  let model := body.takeWhile (· != '.')
  match body.dropWhile (· != '.') with
  | [] => .error (.noPeriod raw)
  | _ :: field =>
    if !isName model then .error (.modelName raw model)
    else if field.isEmpty then .error (.noField raw)
    else if field.contains '.' then .error (.periodInField raw)
    else
      (readComponents raw 0 false (Field.components field)).map fun r =>
        { raw, start, stop, model, field, path := r.1, markers := r.2 }

/-- The segment at the offsets `start` and `stop` of a template. -/
def read (template : Text) (start stop : Int) : Except Malformed Segment :=
  (ofRaw (template.slice start stop) start stop).mapError fun defect =>
    ⟨template, defect, some start⟩

/-! ### What a segment says -/

/-- The names joined by periods. -/
def dottedPath (s : Segment) : Text := Field.joinDotted s.path

/-- The reference with periods for its delimiters, markers kept. -/
def dottedField (s : Segment) : Text := Field.dotted s.field

/-- The type of the first marker. -/
def firstMarker? (s : Segment) : Option Text := s.markers.head?.map (·.typeName)

end Segment
end Permalink
