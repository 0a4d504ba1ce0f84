import Permalink.Selection.Basic

/-!
# Selection — query text

A selection is written between braces, its names separated by blanks, each followed by what is
selected below it, if anything is.  The query of a template fetches all records of its model with
the fields that its segments name.
-/

namespace Permalink
namespace Selection

mutual

/-- The text of a selection. -/
def render : Selection → Text
  | node cs => ['{', ' '] ++ List.intercalate [' '] (renderEntries cs) ++ [' ', '}']

/-- The texts of the names of a level, each with what is below it. -/
def renderEntries : List (Text × Selection) → List Text
  | [] => []
  | (name, node []) :: rest => name :: renderEntries rest
  | (name, below) :: rest => (name ++ ' ' :: render below) :: renderEntries rest

end

end Selection

namespace Template

/-- The query that fetches what the segments of a template need. -/
def query (t : Template) : Except Malformed Text :=
  if t.isCollection then
    .ok (Text.concat ["\x7b all", t.model.getD [], " \x7b nodes ",
      (Selection.ofSegments t.segments).render, " \x7d \x7d"])
  else .error { template := t.given, defect := .noSegments }

end Template
end Permalink
