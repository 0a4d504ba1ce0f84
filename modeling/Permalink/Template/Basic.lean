import Permalink.Template.Path
import Permalink.Template.Segment

/-!
# Template — analysis

A template is a path in which some parts depend on a record: `blog/{Post.parent__(File)__name}`.
Analysis takes off the extension, lists the regions, and reads each as a segment; all segments
must name one model.  A defect of the braces is found before one of a segment, and one of a
segment before a difference of models, which concerns the template as it was given.
-/

namespace Permalink

/-- An analyzed template. -/
structure Template where
  /-- The template as given. -/
  given : Text
  /-- The template without its extension. -/
  stripped : Text
  /-- Its segments, in order. -/
  segments : List Segment
  /-- The model that the segments share, if there are segments. -/
  model : Option Text
  deriving DecidableEq

namespace Template

/-- The model that all segments name. -/
def sharedModel (template : Text) (segments : List Segment) : Except Malformed (Option Text) :=
  match (segments.map (·.model)).eraseDups with
  | [] => .ok none
  | [model] => .ok (some model)
  | models => .error { template, defect := .mixedModels models }

/-- The segments of a template without extension. -/
def readSegments (stripped : Text) : Except Malformed (List Segment) := do
  let regions ← Region.scan stripped
  regions.mapM fun r => Segment.read stripped r.start r.stop

/-- The template that a text writes. -/
def analyze (template : Text) : Except Malformed Template :=
  if template.isEmpty then .error { template, defect := .notText }
  else do
    let stripped := Path.withoutExtension template
    let segments ← readSegments stripped
    let model ← sharedModel template segments
    return { given := template, stripped, segments, model }

/-- Has the template segments? -/
def isCollection (t : Template) : Bool := !t.segments.isEmpty

/-- The texts of the segments, in order. -/
def raws (t : Template) : List Text := t.segments.map (·.raw)

end Template
end Permalink
