import Permalink.Resolution.Basic

/-!
# Resolution — the log

Reports go to a log, error lines as errors and records as information.  When a template has been
resolved, a last entry of the resolution's own logger says which path was derived.
-/

namespace Permalink

/-- How much an entry matters. -/
inductive Level where
  | debug
  | info
  | error
  deriving DecidableEq

/-- The name of a level. -/
def Level.name : Level → Text
  | debug => "DEBUG"
  | info => "INFO"
  | error => "ERROR"

/-- An entry of a log. -/
structure LogEntry where
  logger : Text
  level : Level
  message : Text
  deriving DecidableEq

namespace LogEntry

/-- The logger that reports go to when none is named. -/
def reporter : Text := "pagepath.reporter"

/-- The logger of the resolution itself. -/
def resolution : Text := "pagepath.execution.resolution"

/-- The entry of a report. -/
def ofReport (logger : Text) : Report → LogEntry
  | .error message => ⟨logger, .error, message⟩
  | .log message => ⟨logger, .info, message⟩

/-- The entry of a derived path. -/
def ofDerived (d : Derived) : LogEntry :=
  ⟨resolution, .debug, Text.concat ["Derived path ", d.path, " from ", d.template]⟩

/-- The entries of a resolution: its reports and, if it ended without a fault, its path. -/
def ofResolution (logger : Option Text) (r : Reported Derived) : List LogEntry :=
  r.reports.map (ofReport (logger.getD reporter)) ++
    match r.result with
    | .ok d => [ofDerived d]
    | .error _ => []

end LogEntry
end Permalink
