import Permalink.Proofs.Selection.Trie
import Permalink.Proofs.Template.Canonical

/-!
# Selection — the tree of what segments write

A segment keeps its names and, apart from them, its markers with the number of names before each;
its path of keys puts them together again.  It is what the reference of the segment writes: its
components in their order, with `... on T` for the marker `(T)`
(`Written.keyPath_eq_writtenKeys`).  That holds because the markers of an analyzed segment stand at
different depths.

So **what is selected for the segments of analyzed templates is the ordered tree of `id` and of
what they write** (`eq_ofSegments_iff_isTrie`), and the order of the segments shows only in the
order of its keys.
-/

namespace Permalink

namespace Field

/-- The key of a component. -/
def Component.key : Component → Text
  | .name w => w
  | .marker w => Segment.fragment w

end Field

namespace Segment

open Permalink.Field (Component componentsFrom)

/-- The key that a component writes: a marker opens its type. -/
def writtenKey (c : Text) : Text :=
  match markerType? c with
  | some w => fragment w
  | none => c

/-- The keys that the reference of a segment writes, in the order in which they stand. -/
def writtenKeys (s : Segment) : List Text := (Field.components s.field).map writtenKey

theorem writtenKey_of_isName {c : Text} (h : IsName c) : writtenKey c = c := by
  have hnone : markerType? c = none := by
    cases hc : markerType? c with
    | none => rfl
    | some w => exact absurd ⟨w, markerType?_eq_some_iff.1 hc⟩ h.not_isMarker
  rw [writtenKey, hnone]

theorem writtenKey_of_isMarkerOf {w c : Text} (h : IsMarkerOf w c) : writtenKey c = fragment w := by
  rw [writtenKey, markerType?_eq_some_iff.2 h]

/-- What is read has the keys that are written. -/
theorem ReadAs.map_writtenKey {afterMarker : Bool} {cs : List Text} {components : List Component}
    (h : ReadAs afterMarker cs components) : cs.map writtenKey = components.map Component.key := by
  induction h with
  | nil => rfl
  | name hc _ ih => rw [List.map_cons, List.map_cons, ih, writtenKey_of_isName hc, Component.key]
  | marker hw _ ih =>
      rw [List.map_cons, List.map_cons, ih, writtenKey_of_isMarkerOf hw, Component.key]

/-- Of markers with increasing depths at most one stands at a depth. -/
theorem toList_markerAt? {markers : List UnionMarker}
    (h : markers.Pairwise fun a b => a.depth < b.depth) (depth : Nat) :
    (markerAt? markers depth).toList =
      (markers.filter fun m => m.depth = (depth : Int)).map (·.typeName) := by
  have hfilter : (markers.filter fun m => m.depth == (depth : Int)) =
      markers.filter fun m => m.depth = (depth : Int) := rfl
  rw [markerAt?, hfilter]
  have hsame : ∀ m ∈ markers.filter fun m => m.depth = (depth : Int), m.depth = depth := by
    intro m hm
    simpa using (List.mem_filter.1 hm).2
  have hpairwise := h.filter fun m => m.depth = (depth : Int)
  cases hms : markers.filter fun m => m.depth = (depth : Int) with
  | nil => rfl
  | cons m ms =>
      rw [hms] at hsame hpairwise
      cases ms with
      | nil => rfl
      | cons m' ms =>
          have hlt := (List.pairwise_cons.1 hpairwise).1 m' List.mem_cons_self
          rw [hsame m List.mem_cons_self, hsame m' (by simp)] at hlt
          exact absurd hlt (Int.lt_irrefl _)

theorem keyPathFrom_eq_map {markers : List UnionMarker}
    (h : markers.Pairwise fun a b => a.depth < b.depth) : ∀ (depth : Nat) (names : List Text),
    keyPathFrom markers depth names = (componentsFrom markers depth names).map Component.key
  | _, [] => rfl
  | depth, name :: names => by
      rw [keyPathFrom, componentsFrom, List.map_append, List.map_cons, List.map_map,
        ← keyPathFrom_eq_map h (depth + 1) names, Option.toList_map, toList_markerAt? h,
        List.map_map]
      rfl

/-- **The path of keys of a segment** is what its reference writes: no marker is lost or
misplaced. -/
theorem Written.keyPath_eq_writtenKeys {s : Segment} (h : s.Written) :
    s.keyPath = s.writtenKeys := by
  rw [keyPath, keyPathFrom_eq_map h.markers_ordered.2, ← h.readAs_componentsFrom.map_writtenKey,
    writtenKeys, Field.components_of_ne_nil h.field_ne_nil]

/-- A segment of an analyzed template. -/
def Analyzed (s : Segment) : Prop :=
  ∃ given t, Template.analyze given = .ok t ∧ s ∈ t.segments

theorem Analyzed.keyPath_eq_writtenKeys {s : Segment} (h : s.Analyzed) :
    s.keyPath = s.writtenKeys := by
  obtain ⟨given, t, ht, hs⟩ := h
  exact (Template.written_of_analyze ht hs).1.keyPath_eq_writtenKeys

end Segment

namespace Selection

theorem ofSegments_eq_ofPaths_writtenKeys {gs : List Segment} (h : ∀ g ∈ gs, g.Analyzed) :
    ofSegments gs = ofPaths ([['i', 'd']] :: gs.map Segment.writtenKeys) := by
  rw [ofSegments_eq_ofPaths,
    List.map_congr_left fun g hg => (h g hg).keyPath_eq_writtenKeys]

/-- **The selection is the tree of the segments.**  What is selected for segments of analyzed
templates is the one ordered tree of `id` and of the keys that the segments write: its nodes are
their nonempty starts, and the keys of a node stand in the order of their first mention.

A segment whose keys are in the tree when it comes changes nothing.  Segments behind others add keys
behind theirs, and remove and move none.  Segments in another order make a tree that differs in the
order of keys only. -/
theorem eq_ofSegments_iff_isTrie {gs : List Segment} (h : ∀ g ∈ gs, g.Analyzed) :
    (∀ s, s = ofSegments gs ↔ IsTrie ([['i', 'd']] :: gs.map Segment.writtenKeys) s) ∧
    (∀ front g back, gs = front ++ g :: back → g.writtenKeys ∈ (ofSegments front).keyPaths →
      ofSegments gs = ofSegments (front ++ back)) ∧
    (∀ front back, gs = front ++ back →
      ∀ p, (ofSegments front).keysAt p <+: (ofSegments gs).keysAt p) ∧
    ∀ hs, gs.Perm hs → ∀ p, ((ofSegments gs).keysAt p).Perm ((ofSegments hs).keysAt p) := by
  refine ⟨fun s => ?_, ?_, ?_, ?_⟩
  · rw [isTrie_iff, ofSegments_eq_ofPaths_writtenKeys h]
  · rintro front g back rfl hcovered
    rw [← (h g (by simp)).keyPath_eq_writtenKeys] at hcovered
    rw [ofSegments_eq_ofPaths] at hcovered
    rw [ofSegments_eq_ofPaths, ofSegments_eq_ofPaths, List.map_append, List.map_append,
      List.map_cons]
    exact ofPaths_append_cons hcovered _
  · rintro front back rfl p
    rw [ofSegments_eq_ofPaths, ofSegments_eq_ofPaths, List.map_append]
    exact keysAt_ofPaths_prefix p _ _
  · intro hs hperm p
    rw [ofSegments_eq_ofPaths, ofSegments_eq_ofPaths]
    exact perm_keysAt_ofPaths ((hperm.map _).cons _) p

/-- The template `{User.parent}/{User.id__note}`. -/
def noteTemplate : Template :=
  { given := "\x7bUser.parent\x7d/\x7bUser.id__note\x7d".toList
    stripped := "\x7bUser.parent\x7d/\x7bUser.id__note\x7d".toList
    segments := [Segment.printed "User".toList 0 [.name "parent".toList],
      Segment.printed "User".toList 14 [.name "id".toList, .name "note".toList]]
    model := some "User".toList }

/-- The segments of two templates, `parent__(File)__name` and behind it `parent` and `id__note`. -/
def overlapping : List Segment :=
  (Template.fileTemplate [] [] 0).segments ++ noteTemplate.segments

/-- The tree of overlapping segments, in which the second is there when it comes. -/
theorem eq_ofSegments_iff_isTrie_overlapping :
    (∀ g ∈ overlapping, g.Analyzed) ∧
    IsTrie [["id".toList], ["parent".toList, "... on File".toList, "name".toList],
      ["parent".toList], ["id".toList, "note".toList]] (ofSegments overlapping) ∧
    ofSegments overlapping = ofSegments (overlapping.eraseIdx 1) := by
  have hfile : Template.analyze "\x7bPost.parent__(File)__name\x7d".toList =
      .ok (Template.fileTemplate "\x7bPost.parent__(File)__name\x7d".toList
        "\x7bPost.parent__(File)__name\x7d".toList 0) := by decide
  have hnote : Template.analyze noteTemplate.given = .ok noteTemplate := by decide
  have h : ∀ g ∈ overlapping, g.Analyzed := by
    intro g hg
    obtain hg | hg := List.mem_append.1 hg
    · exact ⟨_, _, hfile, hg⟩
    · exact ⟨_, _, hnote, hg⟩
  obtain ⟨htrie, hcovered, -, -⟩ := eq_ofSegments_iff_isTrie h
  exact ⟨h, (htrie _).1 rfl, hcovered (overlapping.take 1) _ (overlapping.drop 2) rfl (by decide)⟩

end Selection
end Permalink
