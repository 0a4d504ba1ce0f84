import Permalink.Proofs.Template.Canonical
import Permalink.Proofs.Text.Replacing
import Permalink.Proofs.Text.Runs

/-!
# Template — the two readings of a field reference

The delimiters of a field reference are found in two ways: `Field.dotted` replaces them, and
`Field.components` cuts the reference at them.  Both find the same ones, however many underscores
stand in a row (`dotted_eq_joinDotted`), and the cut loses nothing and leaves no delimiter in a
component.

So the field of a segment as it is shown and the path that is looked up say the same.  The shown
field without its markers is the path, what is left out are the markers that the segment keeps, and
the names of the path are found again at its periods (`two_readings_agree`).
-/

namespace Permalink

namespace Field

/-- No piece has a pair of underscores. -/
theorem Split.no_pair {t : Text} {cs : List Text} (h : Split t cs) :
    ∀ c ∈ cs, ¬ ['_', '_'] <:+: c := by
  induction h with
  | last hc => simpa using hc
  | cons hc _ ih =>
      refine List.forall_mem_cons.2 ⟨fun hi => hc ?_, ih⟩
      exact hi.trans (List.prefix_append _ _).isInfix

/-- **Replacing and cutting** find the same pairs of underscores. -/
theorem dotted_eq_joinDotted_pieces (t : Text) : dotted t = joinDotted (pieces t) := by
  fun_induction pieces t with
  | case1 t ih =>
      have hpair : (['_', '_'] : Text) ≠ [] := by decide
      calc dotted ('_' :: '_' :: t)
          = '.' :: dotted t := Text.replaceAll_self_append hpair t
        _ = '.' :: joinDotted (pieces t) := by rw [ih]
        _ = joinDotted ([] :: pieces t) := (Text.intercalate_cons [] (pieces_ne_nil t)).symm
  | case2 c t hc ih =>
      calc dotted (c :: t)
          = c :: dotted t := Text.replaceAll_cons (no_pair_at_start hc)
        _ = c :: joinDotted (pieces t) := by rw [ih]
        _ = joinDotted ((pieces t).modifyHead (c :: ·)) :=
          (Text.intercalate_modifyHead c (pieces_ne_nil t)).symm
  | case3 => rfl

/-- A reference with periods is its components joined by periods. -/
theorem dotted_eq_joinDotted (field : Text) : dotted field = joinDotted (components field) := by
  by_cases h : field = []
  · subst h
    rfl
  · rw [components_of_ne_nil h, dotted_eq_joinDotted_pieces]

/-- A reference is its components with the delimiters between them, and has no other delimiter. -/
theorem components_spec (field : Text) :
    List.intercalate ['_', '_'] (components field) = field ∧
      ∀ c ∈ components field, ¬ ['_', '_'] <:+: c := by
  by_cases h : field = []
  · subst h
    exact ⟨rfl, by simp [components_nil]⟩
  · rw [components_of_ne_nil h]
    exact ⟨(split_pieces field).intercalate_eq, (split_pieces field).no_pair⟩

end Field

namespace Segment

open Permalink.Field (Component names markersFrom)

instance (t : Text) : Decidable (IsMarker t) :=
  decidable_of_iff ((markerType? t).isSome = true) <| by
    rw [Option.isSome_iff_exists]
    exact exists_congr fun w => markerType?_eq_some_iff

/-- The names are what is left of the texts that are read when the markers are left out. -/
theorem ReadAs.names_eq_filter {afterMarker : Bool} {cs : List Text} {components : List Component}
    (h : ReadAs afterMarker cs components) :
    names components = cs.filter (fun c => ¬ IsMarker c) := by
  induction h with
  | nil => rfl
  | name hc _ ih =>
      rw [List.filter_cons_of_pos (by simpa using hc.not_isMarker), names, ih]
  | marker hw _ ih =>
      rw [List.filter_cons_of_neg (by simpa using ⟨_, hw⟩), names, ih]

/-- The markers are read from what is left out, in order. -/
theorem ReadAs.forall₂_markers {afterMarker : Bool} {cs : List Text} {components : List Component}
    (h : ReadAs afterMarker cs components) (depth : Nat) :
    List.Forall₂ (fun (m : UnionMarker) c => IsMarkerOf m.typeName c) (markersFrom depth components)
      (cs.filter (fun c => IsMarker c)) := by
  induction h generalizing depth with
  | nil => exact .nil
  | name hc _ ih =>
      rw [List.filter_cons_of_neg (by simpa using hc.not_isMarker)]
      exact ih (depth + 1)
  | marker hw _ ih =>
      rw [List.filter_cons_of_pos (by simpa using ⟨_, hw⟩)]
      exact .cons hw (ih depth)

/-- The components of a segment's field are found again at the periods. -/
theorem Written.splitOn_dottedField {s : Segment} (h : s.Written) :
    s.dottedField.splitOn '.' = Field.pieces s.field := by
  rw [dottedField, Field.dotted_eq_joinDotted_pieces]
  refine List.splitOn_intercalate '.' (fun c hc hperiod => ?_) (Field.pieces_ne_nil s.field)
  exact h.field_no_period ((Field.split_pieces s.field).mem_of_mem hc hperiod)

/-- The names of a segment's path are found again at the periods. -/
theorem Written.splitOn_dottedPath {s : Segment} (h : s.Written) :
    s.dottedPath.splitOn '.' = s.path :=
  List.splitOn_intercalate '.'
    (fun _ hn => (h.isName_of_mem_path hn).not_mem (by decide) (by decide)) h.path_ne_nil

end Segment

namespace Template

/-- **The two readings of a field reference agree.**  Replacing the delimiters is joining the
components by periods, and the components with the delimiters between them are the reference.  In
every segment of an analyzed template the shown field without its markers is the path, what is left
out are the markers of the segment in order, and the path cut at its periods has the names of the
segment. -/
theorem two_readings_agree :
    (∀ field : Text, Field.dotted field = Field.joinDotted (Field.components field)) ∧
    (∀ field : Text, List.intercalate ['_', '_'] (Field.components field) = field ∧
      ∀ c ∈ Field.components field, ¬ ['_', '_'] <:+: c) ∧
    ∀ (given : Text) (t : Template), analyze given = .ok t → ∀ s ∈ t.segments,
      Field.joinDotted ((s.dottedField.splitOn '.').filter fun c => ¬ Segment.IsMarker c) =
        s.dottedPath ∧
      List.Forall₂ (fun m c => Segment.IsMarkerOf m.typeName c) s.markers
        ((s.dottedField.splitOn '.').filter fun c => Segment.IsMarker c) ∧
      s.dottedPath.splitOn '.' = s.path := by
  refine ⟨Field.dotted_eq_joinDotted, Field.components_spec, fun given t ht s hs => ?_⟩
  obtain ⟨hs', -⟩ := written_of_analyze ht hs
  obtain ⟨components, hread, hpath, hmarkers⟩ := hs'.exists_readAs
  rw [hs'.splitOn_dottedField]
  refine ⟨?_, hmarkers ▸ hread.forall₂_markers 0, hs'.splitOn_dottedPath⟩
  rw [Segment.dottedPath, hpath, hread.names_eq_filter]

/-- The template `{Post.a___b__(File)__c_}`, with three underscores in a row and one at the end. -/
def underscoredTemplate : Template :=
  let given := "\x7bPost.a___b__(File)__c_\x7d".toList
  { given, stripped := given
    segments := [Segment.printed "Post".toList 0
      [.name "a".toList, .name "_b".toList, .marker "File".toList, .name "c_".toList]]
    model := some "Post".toList }

theorem two_readings_agree_underscored :
    analyze underscoredTemplate.given = .ok underscoredTemplate ∧
    ∃ s ∈ underscoredTemplate.segments, s.dottedField = "a._b.(File).c_".toList ∧
      s.dottedPath = "a._b.c_".toList ∧
      ("_b".toList ∈ Field.components s.field ∧ ¬ ['_', '_'] <:+: "_b".toList) ∧
      Field.joinDotted ((s.dottedField.splitOn '.').filter fun c => ¬ Segment.IsMarker c) =
        s.dottedPath ∧
      List.Forall₂ (fun m c => Segment.IsMarkerOf m.typeName c) s.markers
        ((s.dottedField.splitOn '.').filter fun c => Segment.IsMarker c) ∧
      s.dottedPath.splitOn '.' = s.path := by
  have ht : analyze underscoredTemplate.given = .ok underscoredTemplate := by decide
  obtain ⟨-, hcomponents, hsegments⟩ := two_readings_agree
  have hmem : "_b".toList ∈ Field.components "a___b__(File)__c_".toList := by decide
  exact ⟨ht, _, List.mem_cons_self, by decide, by decide, ⟨hmem, (hcomponents _).2 _ hmem⟩,
    hsegments _ _ ht _ List.mem_cons_self⟩

end Template
end Permalink
