import Permalink.Template.Basic

/-!
# Selection — the fields to fetch

A selection is an ordered tree of field names: below each name stand the fields selected of what
it refers to.  `Selection.ofSegments` selects `id` and then, for each segment in order, the path
of its field reference, where a union marker becomes a level `... on Type` of its own.  Inserting
a path creates what is not there yet, behind what is there, and leaves everything else alone.
-/

namespace Permalink

/-- The names selected at one level, in order, each with what is selected below it. -/
inductive Selection where
  | node (children : List (Text × Selection))

namespace Selection

/-- The names selected at this level, with what is selected below them. -/
def children : Selection → List (Text × Selection)
  | node cs => cs

/-- Nothing selected. -/
def empty : Selection := node []

/-! ### Inserting a path -/

/-- The entry of `name` changed by `f`; a name that has no entry gets one, as the last, changed
from the empty selection. -/
def alter (name : Text) (f : Selection → Selection) :
    List (Text × Selection) → List (Text × Selection)
  | [] => [(name, f empty)]
  | (k, s) :: rest => if k = name then (k, f s) :: rest else (k, s) :: alter name f rest

/-- The selection with the path `names` in it. -/
def insert : List Text → Selection → Selection
  | [], s => s
  | name :: names, s => node (alter name (insert names) s.children)

theorem insert_nil (s : Selection) : insert [] s = s := rfl

theorem children_insert_cons (name : Text) (names : List Text) (s : Selection) :
    (insert (name :: names) s).children = alter name (insert names) s.children := rfl

end Selection

/-! ### The path of a segment -/

namespace Segment

/-- The level that a union marker opens. -/
def fragment (typeName : Text) : Text := ['.', '.', '.', ' ', 'o', 'n', ' '] ++ typeName

/-- The type of the last marker at a depth. -/
def markerAt? (markers : List UnionMarker) (depth : Nat) : Option Text :=
  (markers.filter fun m => m.depth == (depth : Int)).getLast?.map (·.typeName)

/-- The path of `names`, of which the first stands at `depth`. -/
def keyPathFrom (markers : List UnionMarker) (depth : Nat) : List Text → List Text
  | [] => []
  | name :: names =>
    ((markerAt? markers depth).map fragment).toList ++
      name :: keyPathFrom markers (depth + 1) names

/-- The names of a segment, root first, each with the level of its marker before it. -/
def keyPath (s : Segment) : List Text := keyPathFrom s.markers 0 s.path

end Segment

/-! ### The selection of a list of segments -/

namespace Selection

/-- The identifier, and what the segments name. -/
def ofSegments (segments : List Segment) : Selection :=
  segments.foldl (fun s g => insert g.keyPath s) (insert [['i', 'd']] empty)

end Selection
end Permalink
