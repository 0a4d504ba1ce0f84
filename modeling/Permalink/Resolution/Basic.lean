import Permalink.Slug.Basic
import Permalink.Template.Basic
import Permalink.Value.Serialized

/-!
# Resolution — the path of a record

A template is resolved against a record by putting, in the place of each segment, the slugs of the
value that the segment's path leads to.  A segment whose path leads nowhere, or to a mapping or
model, stays as it is and is reported: one line names it and a second shows the record.  It is
then an error of the derived path and no fault; the other segments are resolved all the same.

Segments are taken in order of their starts.  A segment that starts before the last one ended, or
whose text is not the template's text at its offsets, is a fault, and so is a lookup, a slug or a
report that fails.  Reports made before a fault stay made.
-/

namespace Permalink

/-! ### Reports -/

/-- A line of diagnostics. -/
inductive Report where
  | error (message : Text)
  | log (message : Text)
  deriving DecidableEq

/-- The result of something that makes reports on its way. -/
structure Reported (α : Type) where
  reports : List Report
  result : Except Fault α

namespace Reported

/-- A result without reports. -/
def silent {α : Type} (result : Except Fault α) : Reported α := ⟨[], result⟩

/-- The reports of `r` behind `earlier` ones, and its result changed by `f`. -/
def after {α β : Type} (earlier : List Report) (f : α → β) (r : Reported α) : Reported β :=
  ⟨earlier ++ r.reports, r.result.map f⟩

end Reported

/-! ### Derived paths -/

/-- A resolved template. -/
structure Derived where
  /-- The template without its extension. -/
  template : Text
  /-- The path, in which segments that did not resolve keep their text. -/
  path : Text
  /-- The segments that did not resolve, in order. -/
  errors : List Segment
  deriving DecidableEq

namespace Segment

/-- The message of a segment that did not resolve. -/
def unresolvedMessage (s : Segment) : Text :=
  Text.concat ["Could not find value in the following record for key ", s.raw,
    " (transformed to ", s.dottedPath, ")"]

/-- The line that reports a segment that did not resolve. -/
def errorLine (s : Segment) : Report := .error ("PagePath: ".toList ++ s.unresolvedMessage)

/-- The text that takes the place of a segment: none if it does not resolve. -/
def value (o : SlugOptions) (record : Value) (s : Segment) : Except Fault (Option Text) := do
  match ← record.lookupField s.path with
  | none => return none
  | some v => if v.shape = .mapping then return none else return some (← o.pathSlug v)

/-- The fault of a segment that does not fit the template. -/
def misplacedIn (stripped : Text) (s : Segment) : Fault :=
  .malformed ⟨stripped, .misplaced s.raw, some s.start⟩

/-- Does a segment start at or behind `cursor` and stand in the template at its offsets? -/
def fits (stripped : Text) (cursor : Int) (s : Segment) : Bool :=
  cursor ≤ s.start && stripped.slice s.start s.stop == s.raw

end Segment

namespace Derived

/-- Did every segment resolve? -/
def succeeded (d : Derived) : Bool := d.errors.isEmpty

/-- The path, if every segment resolved. -/
def result (d : Derived) : Except Fault Text :=
  if d.succeeded then .ok d.path
  else .error (.unresolved d.template (d.errors.map (·.raw)))

end Derived

/-! ### Splicing -/

namespace Resolution

/-- The text of the template from `cursor` on with the segments in place, and the segments that
did not resolve. -/
def spliceFrom (o : SlugOptions) (stripped : Text) (record : Value) (cursor : Int) :
    List Segment → Reported (Text × List Segment)
  | [] => .silent (.ok (stripped.sliceFrom cursor, []))
  | s :: rest =>
    if s.fits stripped cursor then
      let gap := stripped.slice cursor s.start
      match s.value o record with
      | .error fault => .silent (.error fault)
      | .ok (some text) =>
        (spliceFrom o stripped record s.stop rest).after [] fun r => (gap ++ text ++ r.1, r.2)
      | .ok none =>
        match record.serialize with
        | .error fault => ⟨[s.errorLine], .error fault⟩
        | .ok shown =>
          (spliceFrom o stripped record s.stop rest).after [s.errorLine, .log shown] fun r =>
            (gap ++ s.raw ++ r.1, s :: r.2)
    else .silent (.error (s.misplacedIn stripped))

/-- The segments in order of their starts; those of one start keep their order. -/
def inOrder (segments : List Segment) : List Segment :=
  segments.mergeSort fun a b => a.start ≤ b.start

/-- A template without extension and its segments resolved against a record. -/
def resolve (o : SlugOptions) (stripped : Text) (segments : List Segment) (record : Value) :
    Reported Derived :=
  (spliceFrom o stripped record 0 (inOrder segments)).after [] fun r =>
    { template := stripped, path := Path.collapseSlashes r.1, errors := r.2 }

/-- An analyzed template resolved against a record. -/
def ofTemplate (o : SlugOptions) (t : Template) (record : Value) : Reported Derived :=
  resolve o t.stripped t.segments record

/-- The path of a record by a template, under the options that a setting gives.  A fault of the
options comes before one of the template. -/
def derive (setting : Option Value) (template : Text) (record : Value) : Reported Derived :=
  match SlugOptions.ofValue? setting with
  | .error fault => .silent (.error fault)
  | .ok o =>
    match Template.analyze template with
    | .error m => .silent (.error m)
    | .ok t => ofTemplate o t record

/-- Given segments resolved under the options that a setting gives. -/
def resolveUnder (setting : Option Value) (stripped : Text) (segments : List Segment)
    (record : Value) : Reported Derived :=
  match SlugOptions.ofValue? setting with
  | .error fault => .silent (.error fault)
  | .ok o => resolve o stripped segments record

end Resolution
end Permalink
