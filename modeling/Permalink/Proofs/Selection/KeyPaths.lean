import Mathlib.Data.List.Infix
import Permalink.Selection.Basic

/-!
# Selection — the paths of keys in a selection

`Selection.keyPaths` lists the paths of keys that lead from the root of a selection to its nodes.

* `mem_keyPaths_insert`: inserting a path adds the path and those that it starts with, and nothing
  else; so where some paths have been inserted, their nonempty starts are there
  (`mem_keyPaths_ofPaths`).
* `mem_keyPaths_ofSegments`: the paths in the selection of some segments are `id` and the nonempty
  starts of the segments' paths of keys.

Without its keys that open a type, a path of keys is a path of names (`namePath`).  Every nonempty
start of a segment's path of names is the path of names of a node (`mem_namePaths_ofSegments`).
-/

namespace Permalink

namespace Selection

/-! ### Paths of keys -/

mutual

/-- The paths of keys to the nodes of a selection, the root apart. -/
def keyPaths : Selection → List (List Text)
  | node cs => entryKeyPaths cs

/-- The paths of keys that start with the names of a level. -/
def entryKeyPaths : List (Text × Selection) → List (List Text)
  | [] => []
  | (key, below) :: rest => [key] :: (keyPaths below).map (key :: ·) ++ entryKeyPaths rest

end

/-- A nonempty start of a path. -/
def IsStart (p path : List Text) : Prop := p ≠ [] ∧ p <+: path

theorem not_isStart_nil {p : List Text} : ¬ IsStart p [] := fun h => h.1 (List.prefix_nil.1 h.2)

/-- A start of a path is its first key, and perhaps a start of the rest. -/
theorem isStart_cons {p path : List Text} {key : Text} :
    IsStart p (key :: path) ↔ p = [key] ∨ ∃ q, IsStart q path ∧ p = key :: q := by
  rw [IsStart, List.prefix_cons_iff]
  constructor
  · rintro ⟨hne, hnil | ⟨q, rfl, hq⟩⟩
    · exact absurd hnil hne
    · by_cases hqn : q = []
      · exact .inl (by rw [hqn])
      · exact .inr ⟨q, ⟨hqn, hq⟩, rfl⟩
  · rintro (rfl | ⟨q, ⟨-, hq⟩, rfl⟩)
    · exact ⟨List.cons_ne_nil _ _, .inr ⟨[], rfl, List.nil_prefix⟩⟩
    · exact ⟨List.cons_ne_nil _ _, .inr ⟨q, rfl, hq⟩⟩

theorem mem_entryKeyPaths_cons {p : List Text} {key : Text} {below : Selection}
    {rest : List (Text × Selection)} :
    p ∈ entryKeyPaths ((key, below) :: rest) ↔
      (p = [key] ∨ ∃ q ∈ keyPaths below, p = key :: q) ∨ p ∈ entryKeyPaths rest := by
  simp only [entryKeyPaths, List.cons_append, List.mem_cons, List.mem_append, List.mem_map,
    eq_comm (a := p), or_assoc]

theorem keyPaths_empty : keyPaths empty = [] := rfl

/-- Changing the entry of a key so that the starts of `path` are added below it adds the starts of
`key :: path` to the level. -/
theorem mem_entryKeyPaths_alter {key : Text} {path : List Text} {f : Selection → Selection}
    (hf : ∀ s p, p ∈ keyPaths (f s) ↔ p ∈ keyPaths s ∨ IsStart p path) {p : List Text} :
    ∀ {cs : List (Text × Selection)}, p ∈ entryKeyPaths (alter key f cs) ↔
      p ∈ entryKeyPaths cs ∨ IsStart p (key :: path)
  | [] => by
      have hempty : ∀ q, q ∈ keyPaths (f empty) ↔ IsStart q path := fun q => by
        rw [hf, keyPaths_empty]
        simp
      rw [alter, mem_entryKeyPaths_cons, isStart_cons]
      simp only [hempty, entryKeyPaths, List.not_mem_nil, or_false, false_or]
  | (k, s) :: rest => by
      rw [alter]
      -- Where the key is found, what is below it gains the starts; else the rest of the level does.
      split
      · next hk =>
        subst hk
        simp only [mem_entryKeyPaths_cons, hf, isStart_cons, or_and_right, exists_or]
        grind
      · rw [mem_entryKeyPaths_cons, mem_entryKeyPaths_alter hf, mem_entryKeyPaths_cons]
        exact or_assoc.symm

/-- **Inserting a path** adds the path and its starts. -/
theorem mem_keyPaths_insert : ∀ {path : List Text} {s : Selection} {p : List Text},
    p ∈ keyPaths (insert path s) ↔ p ∈ keyPaths s ∨ IsStart p path
  | [], _, _ => (or_iff_left not_isStart_nil).symm
  | _ :: _, node _, _ => mem_entryKeyPaths_alter fun _ _ => mem_keyPaths_insert

/-- The paths inserted one after the other. -/
def ofPaths (paths : List (List Text)) : Selection :=
  paths.foldl (fun s path => insert path s) empty

/-- **The paths in a selection of inserted paths** are their starts. -/
theorem mem_keyPaths_ofPaths {paths : List (List Text)} {p : List Text} :
    p ∈ (ofPaths paths).keyPaths ↔ ∃ path ∈ paths, IsStart p path := by
  have hfold : ∀ s : Selection, p ∈ keyPaths (paths.foldl (fun s path => insert path s) s) ↔
      p ∈ keyPaths s ∨ ∃ path ∈ paths, IsStart p path := by
    induction paths with
    | nil => simp
    | cons path paths ih =>
        intro s
        rw [List.foldl_cons, ih, mem_keyPaths_insert, List.exists_mem_cons_iff, or_assoc]
  rw [ofPaths, hfold, keyPaths_empty]
  simp

/-- Segments insert `id` and their paths of keys. -/
theorem ofSegments_eq_ofPaths (segments : List Segment) :
    ofSegments segments = ofPaths ([['i', 'd']] :: segments.map (·.keyPath)) := by
  rw [ofSegments, ofPaths, List.foldl_cons, List.foldl_map]

/-- **The paths in the selection of some segments.** -/
theorem mem_keyPaths_ofSegments {segments : List Segment} {p : List Text} :
    p ∈ (ofSegments segments).keyPaths ↔
      p = [['i', 'd']] ∨ ∃ g ∈ segments, IsStart p g.keyPath := by
  rw [ofSegments_eq_ofPaths, mem_keyPaths_ofPaths, List.exists_mem_cons_iff, isStart_cons]
  simp [not_isStart_nil]

end Selection

/-! ### Paths of names -/

namespace Segment

/-- Does a key open a type? -/
def isFragment (key : Text) : Bool := (fragment []).isPrefixOf key

theorem isFragment_fragment (typeName : Text) : isFragment (fragment typeName) = true :=
  List.isPrefixOf_iff_prefix.2 ⟨typeName, rfl⟩

theorem isFragment_eq_false {key : Text} (h : '.' ∉ key) : isFragment key = false := by
  rw [isFragment, Bool.eq_false_iff]
  intro hprefix
  obtain ⟨rest, rfl⟩ := List.isPrefixOf_iff_prefix.1 hprefix
  exact h List.mem_cons_self

end Segment

namespace Selection

/-- The names of a path of keys, without the keys that open a type. -/
def namePath (path : List Text) : List Text := path.filter fun key => !Segment.isFragment key

/-- The paths of names to the nodes of a selection. -/
def namePaths (s : Selection) : List (List Text) := s.keyPaths.map namePath

theorem namePath_append (p q : List Text) : namePath (p ++ q) = namePath p ++ namePath q :=
  List.filter_append ..

theorem namePath_cons {name : Text} (h : Segment.isFragment name = false) (p : List Text) :
    namePath (name :: p) = name :: namePath p := by
  simp [namePath, h]

theorem IsStart.append {p path : List Text} (h : IsStart p path) (front : List Text) :
    IsStart (front ++ p) (front ++ path) :=
  ⟨List.append_ne_nil_of_right_ne_nil _ h.1, (List.prefix_append_right_inj front).2 h.2⟩

/-- A start of the names is what a start of the path of keys names. -/
theorem exists_isStart_keyPathFrom (markers : List UnionMarker) : ∀ {names : List Text}
    (depth : Nat) {p : List Text}, (∀ name ∈ names, Segment.isFragment name = false) →
    IsStart p names → ∃ k, IsStart k (Segment.keyPathFrom markers depth names) ∧ namePath k = p
  | [], _, _, _, hp => absurd hp not_isStart_nil
  | name :: names, depth, p, hnames, hp => by
      obtain ⟨hname, hnames⟩ := List.forall_mem_cons.1 hnames
      -- The keys before the name: the type that its marker opens, if it has one.
      obtain ⟨front, hfront⟩ : ∃ front : List Text,
        front = ((Segment.markerAt? markers depth).map Segment.fragment).toList := ⟨_, rfl⟩
      have hnone : namePath front = [] := by
        rw [hfront]
        cases Segment.markerAt? markers depth with
        | none => rfl
        | some typeName => simp [namePath, Segment.isFragment_fragment]
      have hname' : ∀ k, namePath (front ++ name :: k) = name :: namePath k := fun k => by
        rw [namePath_append, hnone, namePath_cons hname, List.nil_append]
      rw [Segment.keyPathFrom, ← hfront]
      rcases isStart_cons.1 hp with rfl | ⟨q, hq, rfl⟩
      · exact ⟨_, (isStart_cons.2 (.inl rfl)).append front, hname' []⟩
      · obtain ⟨k, hk, rfl⟩ := exists_isStart_keyPathFrom markers (depth + 1) hnames hq
        exact ⟨_, (isStart_cons.2 (.inr ⟨k, hk, rfl⟩)).append front, hname' k⟩

/-- **The paths of names of some segments are selected**, and so are their starts. -/
theorem mem_namePaths_ofSegments {segments : List Segment} {s : Segment} (hs : s ∈ segments)
    (hnames : ∀ name ∈ s.path, Segment.isFragment name = false) {p : List Text}
    (hp : IsStart p s.path) : p ∈ (ofSegments segments).namePaths := by
  obtain ⟨k, hk, rfl⟩ := exists_isStart_keyPathFrom s.markers 0 hnames hp
  exact List.mem_map_of_mem (mem_keyPaths_ofSegments.2 (.inr ⟨s, hs, hk⟩))

end Selection
end Permalink
