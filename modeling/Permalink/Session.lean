import Permalink.Resolution.Basic
import Permalink.Selection.Query

/-!
# Session — a run of steps

A session holds slug options and, by name, the templates analyzed and the paths derived so far.
Each step reads or extends them and gives an answer or a fault; a fault changes nothing.  The
session counts the reports of all its steps, failed ones included.
-/

namespace Permalink

/-! ### Steps and answers -/

namespace Session

/-- What a session can be asked to do.  Templates and results are referred to by name. -/
inductive Step where
  | analyze (name template : Text)
  | resolve (name template : Text) (record : Value)
  | resolveSegments (name stripped : Text) (templates : List Text) (record : Value)
  | segmentValue (template : Text) (index : Nat) (record : Value)
  | path (result : Text)
  | query (template : Text)
  | selection (templates : List Text)
  | equal (a b : Text)
  | options (setting : Option Value)

/-- What a step answers. -/
inductive Answer where
  | template (t : Template)
  | derived (d : Derived)
  | text (t : Text)
  | optionalText (t : Option Text)
  | selection (s : Selection)
  | truth (b : Bool)
  | options (o : SlugOptions)

end Session

/-! ### The state -/

/-- The state of a session. -/
structure Session where
  options : SlugOptions
  templates : List (Text × Template) := []
  results : List (Text × Derived) := []
  reportCount : Nat := 0

namespace Session

/-- What was last stored under a name; the newest is in front. -/
def stored {α : Type} (name : Text) (entries : List (Text × α)) : Except Fault α :=
  match entries.lookup name with
  | some a => .ok a
  | none => .error (.unknown name)

/-- The segments of some templates, one behind the other. -/
def segmentsOf (s : Session) (names : List Text) : Except Fault (List Segment) := do
  let templates ← names.mapM fun name => stored name s.templates
  return templates.flatMap (·.segments)

/-- The session with a derived path under a name, if there is one, and the answer. -/
def keep (s : Session) (name : Text) (r : Reported Derived) : Session × Reported Answer :=
  let s := { s with reportCount := s.reportCount + r.reports.length }
  match r.result with
  | .ok d => ({ s with results := (name, d) :: s.results }, ⟨r.reports, .ok (.derived d)⟩)
  | .error fault => (s, ⟨r.reports, .error fault⟩)

/-- The text of one segment of a template, by its index. -/
def segmentValue (s : Session) (template : Text) (index : Nat) (record : Value) :
    Except Fault (Option Text) := do
  let t ← stored template s.templates
  match t.segments[index]? with
  | none => return none
  | some segment => segment.value s.options record

/-- The query of a template. -/
def query (s : Session) (template : Text) : Except Fault Text := do
  let t ← stored template s.templates
  t.query.mapError Fault.malformed

/-- Are two templates the same, text and segments? -/
def equal (s : Session) (a b : Text) : Except Fault Bool := do
  let t ← stored a s.templates
  let u ← stored b s.templates
  return t = u

/-- The session after a step, and the answer. -/
def step (s : Session) : Step → Session × Reported Answer
  | .analyze name template =>
    match Template.analyze template with
    | .error m => (s, .silent (.error m))
    | .ok t => ({ s with templates := (name, t) :: s.templates }, .silent (.ok (.template t)))
  | .resolve name template record =>
    match stored template s.templates with
    | .error fault => (s, .silent (.error fault))
    | .ok t => s.keep name (Resolution.ofTemplate s.options t record)
  | .resolveSegments name stripped templates record =>
    match s.segmentsOf templates with
    | .error fault => (s, .silent (.error fault))
    | .ok segments => s.keep name (Resolution.resolve s.options stripped segments record)
  | .segmentValue template index record =>
    (s, .silent ((s.segmentValue template index record).map .optionalText))
  | .path result => (s, .silent ((stored result s.results).bind (·.result) |>.map .text))
  | .query template => (s, .silent ((s.query template).map .text))
  | .selection templates =>
    (s, .silent ((s.segmentsOf templates).map fun gs => .selection (.ofSegments gs)))
  | .equal a b => (s, .silent ((s.equal a b).map .truth))
  | .options setting =>
    match SlugOptions.ofValue? setting with
    | .error fault => (s, .silent (.error fault))
    | .ok o => ({ s with options := o }, .silent (.ok (.options o)))

/-- The answers to some steps, each with the number of reports made up to it. -/
def run (s : Session) : List Step → List (Reported Answer × Nat)
  | [] => []
  | step :: steps =>
    let (s, answer) := s.step step
    (answer, s.reportCount) :: s.run steps

end Session
end Permalink
