import Permalink.Proofs.Resolution.Filling
import Permalink.Proofs.Template.Collapse

/-!
# Resolution — records and segments

No record can forge a segment in a path, nor damage one.  In the path of an analyzed template the
regions are those of the segments that did not resolve, with the same text and in the same order;
each can be read where it stands now, as the segment it was but for the offsets.  This is
`path_regions_eq_errors`, for all options whose separator is no brace.

The filled parts of the template write the path but for its slashes (`Filling`), values bring no
braces, and collapsing slashes keeps regions, which have none (`Collapse`).
-/

namespace Permalink.Resolution

open Template

variable {o : SlugOptions} {record : Value} {t : Template} {parts : List Part} {d : Derived}

/-- A path is written by parts whose regions are those of the errors. -/
theorem exists_parts_of_path (hmark : o.separator.mark ≠ '{' ∧ o.separator.mark ≠ '}')
    (hlayout : Layout t parts) (h : (ofTemplate o t record).result = .ok d) :
    ∃ parts' : List Part, (∀ p ∈ parts', p.BraceFree) ∧ written parts' = d.path ∧
      regionTexts parts' = d.errors.map (·.raw) := by
  obtain ⟨hpath, -, -⟩ := result_ofTemplate hlayout h
  have hfill : ∀ p ∈ fill (valueOf o record) parts, p.BraceFree :=
    braceFree_fill (fun _ _ => braceFree_of_valueOf hmark) hlayout.braceFree
  have hslash : ∀ raw ∈ regionTexts (fill (valueOf o record) parts), '/' ∉ raw := fun raw hraw => by
    rw [regionTexts_fill] at hraw
    exact hlayout.reads.slash_not_mem raw (List.mem_filter.1 hraw).1
  rw [hpath, raws_errors hlayout h]
  exact exists_parts_collapseSlashes hfill hslash

/-- An error of a resolved template can be read from its text at any offsets. -/
theorem ofRaw_of_mem_errors (hlayout : Layout t parts)
    (h : (ofTemplate o t record).result = .ok d) {s : Segment} (hs : s ∈ d.errors)
    (start stop : Int) : Segment.ofRaw s.raw start stop = .ok { s with start, stop } := by
  obtain ⟨-, -, herrors⟩ := result_ofTemplate hlayout h
  rw [herrors] at hs
  exact hlayout.reads.ofRaw_raw (List.mem_filter.1 hs).1 start stop

/-- **Records forge and damage no segment.**  The path of an analyzed template can be scanned; its
regions have the texts of the errors, in order; each region is read as its error, moved to where the
region stands; and every segment resolved just if the path has no brace. -/
theorem path_regions_eq_errors {given : Text}
    (hmark : o.separator.mark ≠ '{' ∧ o.separator.mark ≠ '}') (ht : analyze given = .ok t)
    (h : (ofTemplate o t record).result = .ok d) :
    (∃ regions, Region.scan d.path = .ok regions ∧
      regions.map (fun r => d.path.slice r.start r.stop) = d.errors.map (·.raw) ∧
      List.Forall₂ (fun r s => Segment.read d.path r.start r.stop =
        .ok { s with start := r.start, stop := r.stop }) regions d.errors) ∧
    (d.succeeded = true ↔ d.path.BraceFree) := by
  obtain ⟨parts, hlayout⟩ := exists_layout_of_analyze ht
  obtain ⟨parts', hparts', hpath, hraws⟩ := exists_parts_of_path hmark hlayout h
  have hslices : (regionsFrom 0 parts').map (fun r => d.path.slice r.start r.stop) =
      d.errors.map (·.raw) := by
    rw [← hraws, ← hpath]
    exact slices_regionsFrom parts' []
  refine ⟨⟨regionsFrom 0 parts', hpath ▸ scan_written hparts', hslices, ?_⟩, ?_⟩
  · -- Each region has the text of its error, and this is all that reading depends on.
    have hsame : List.Forall₂ (fun raw slice => slice = raw) (d.errors.map (·.raw))
        ((regionsFrom 0 parts').map fun r => d.path.slice r.start r.stop) := by
      rw [hslices]
      exact List.forall₂_same.2 fun _ _ => rfl
    have htexts : List.Forall₂ (fun (s : Segment) (r : Region) =>
        d.path.slice r.start r.stop = s.raw) d.errors (regionsFrom 0 parts') :=
      List.forall₂_map_right_iff.1 (List.forall₂_map_left_iff.1 hsame)
    refine List.Forall₂.flip (((List.forall₂_and_left _ _).2 ⟨fun s hs => hs, htexts⟩).imp ?_)
    rintro s r ⟨hs, hraw⟩
    rw [flip, Segment.read, Outcome.mapError_eq_ok, hraw]
    exact ofRaw_of_mem_errors hlayout h hs r.start r.stop
  · rw [← hpath, written_braceFree_iff hparts', hraws, List.map_eq_nil_iff, Derived.succeeded,
      List.isEmpty_iff]

/-- The template `{P.a}//{P.b__c}-{P.a}.js`. -/
def nested : Template :=
  let outer (start stop : Int) : Segment :=
    { raw := "\x7bP.a\x7d".toList, start, stop, model := ['P'], field := ['a'], path := [['a']],
      markers := [] }
  let inner : Segment :=
    { raw := "\x7bP.b__c\x7d".toList, start := 7, stop := 15, model := ['P'],
      field := "b__c".toList, path := [['b'], ['c']], markers := [] }
  { given := "\x7bP.a\x7d//\x7bP.b__c\x7d-\x7bP.a\x7d.js".toList
    stripped := "\x7bP.a\x7d//\x7bP.b__c\x7d-\x7bP.a\x7d".toList
    segments := [outer 0 5, inner, outer 16 21]
    model := some ['P'] }

/-- A record whose only text looks like a region. -/
def lookalike : Value := .mapping [(.text ['a'], .text "\x7bP.b\x7d/Y//Z".toList)]

/-- The path of the lookalike, which lacks the field of the second segment. -/
def nestedPath : Derived :=
  { template := nested.stripped
    path := "p-b/y/z/\x7bP.b__c\x7d-p-b/y/z".toList
    errors := (nested.segments.drop 1).take 1 }

/-- The lookalike forges no segment. -/
theorem path_regions_eq_errors_lookalike :
    analyze nested.given = .ok nested ∧
    (ofTemplate {} nested lookalike).result = .ok nestedPath ∧
    (∃ regions, Region.scan nestedPath.path = .ok regions ∧
      regions.map (fun r => nestedPath.path.slice r.start r.stop) =
        nestedPath.errors.map (·.raw) ∧
      List.Forall₂ (fun r s => Segment.read nestedPath.path r.start r.stop =
        .ok { s with start := r.start, stop := r.stop }) regions nestedPath.errors) ∧
    (nestedPath.succeeded = true ↔ nestedPath.path.BraceFree) := by
  have ht : analyze nested.given = .ok nested := by decide
  have h : (ofTemplate {} nested lookalike).result = .ok nestedPath := by
    rw [ofTemplate, resolve_of_pairwise (by decide)]
    decide +kernel
  exact ⟨ht, h, path_regions_eq_errors (by decide) ht h⟩

end Permalink.Resolution
