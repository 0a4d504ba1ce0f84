import Mathlib.Logic.Function.Iterate
import Permalink.Proofs.Template.Extension
import Permalink.Proofs.Template.Offsets
import Permalink.Proofs.Template.Printing

/-!
# Template — templates and their extensions

The extension of a template is taken off before its segments are known, and the pattern of an
extension also fits the end of a region that is not closed.  Yet no brace is taken off, nor does one
stand behind what is taken off (`exists_front`).  So a text and the text without its extension have
the same braces at the same offsets.

* `scanned_withoutExtension`: they have the same regions, or are rejected for the same reason at the
  same position.
* `readSegments_withoutExtension`: they have the same segments.
* `withoutExtension_keeps_segments`: the segments of a template stand at their offsets in the text
  given and in the text without the extension; and of the latter, and of what is left when more
  extensions are taken off, analysis gives the same segments and model.
-/

namespace Permalink.Template

/-! ### Scanning and reading -/

/-- What is scanned of a text; of a rejection, its reason and position. -/
def scanned (t : Text) : Except (Defect × Option Int) (List Region) :=
  (Region.scan t).mapError fun m => (m.defect, m.position)

theorem scanned_append_plain {front tail : Text} (h : tail.BraceFree) :
    scanned (front ++ tail) = scanned front := by
  rw [scanned, scanned, Region.scan, Region.scan, scanFrom_append_plain h]
  cases Region.scanFrom 0 none front <;> rfl

/-- **Segments do not depend on text without braces behind them.** -/
theorem readSegments_append_plain {front tail : Text} (h : tail.BraceFree)
    {segments : List Segment} :
    readSegments (front ++ tail) = .ok segments ↔ readSegments front = .ok segments := by
  have hscan : ∀ regions : List Region,
      Region.scan (front ++ tail) = .ok regions ↔ Region.scan front = .ok regions := fun regions => by
    rw [Region.scan, Region.scan, Outcome.mapError_eq_ok, Outcome.mapError_eq_ok,
      scanFrom_append_plain h]
  simp only [readSegments, Outcome.bind_eq_ok, hscan]
  refine exists_congr fun regions => and_congr_right fun hregions => ?_
  -- The regions stand in the front, and there the two texts have the same slices.
  obtain ⟨parts, -, rfl, rfl⟩ := exists_parts_of_scan hregions
  refine Outcome.mapM_eq_ok_congr fun r hr s => ?_
  obtain ⟨hstart, hstop⟩ := stop_le_of_mem_regionsFrom hr
  rw [Segment.read, Segment.read, Outcome.mapError_eq_ok, Outcome.mapError_eq_ok,
    slice_append_of_le tail hstart (by omega)]

/-! ### Without the extension -/

/-- A text and the text without its extension have their braces in a common front. -/
theorem exists_front (t : Text) : ∃ front tail tail' : Text, t = front ++ tail ∧
    Path.withoutExtension t = front ++ tail' ∧ tail.BraceFree ∧ tail'.BraceFree := by
  obtain ⟨front, extension, rest, ht, hwithout, hextension, hend⟩ := Path.exists_extension t
  have hextension' : Text.BraceFree extension := fun c hc => by
    rcases hextension c hc with rfl | halnum
    · decide
    · constructor
      · rintro rfl
        exact absurd halnum (by decide)
      · rintro rfl
        exact absurd halnum (by decide)
  have hrest : rest.BraceFree := by
    rcases Text.atEnd_iff.1 hend with rfl | rfl
    · exact .nil
    · exact .singleton (by decide)
  exact ⟨front, extension ++ rest, rest, ht, hwithout,
    Text.BraceFree.append_iff.2 ⟨hextension', hrest⟩, hrest⟩

/-- **The same regions** are found without the extension, or the same fault at the same position. -/
theorem scanned_withoutExtension (t : Text) : scanned (Path.withoutExtension t) = scanned t := by
  obtain ⟨front, tail, tail', ht, hwithout, htail, htail'⟩ := exists_front t
  rw [hwithout, scanned_append_plain htail', ← scanned_append_plain htail, ← ht]

/-- **The same segments** are read without the extension. -/
theorem readSegments_withoutExtension {t : Text} {segments : List Segment} :
    readSegments (Path.withoutExtension t) = .ok segments ↔ readSegments t = .ok segments := by
  obtain ⟨front, tail, tail', ht, hwithout, htail, htail'⟩ := exists_front t
  rw [hwithout, readSegments_append_plain htail', ← readSegments_append_plain htail, ← ht]

/-- The same segments are read when extensions have been taken off `n` times. -/
theorem readSegments_iterate {t : Text} {segments : List Segment} (n : Nat) :
    readSegments (Path.withoutExtension^[n] t) = .ok segments ↔ readSegments t = .ok segments := by
  induction n with
  | zero => exact Iff.rfl
  | succ n ih => rw [Function.iterate_succ_apply', readSegments_withoutExtension, ih]

/-- A text is analyzed by its segments, if they share a model. -/
theorem exists_analyze_of_readSegments {given t : Text} {segments : List Segment}
    {model : Option Text} (ht : t ≠ []) (hsegments : readSegments t = .ok segments)
    (hmodel : sharedModel given segments = .ok model) :
    ∃ u, analyze t = .ok u ∧ u.segments = segments ∧ u.model = model := by
  have hmodel' : sharedModel t segments = .ok model :=
    sharedModel_eq_ok_iff.2 (sharedModel_eq_ok_iff.1 hmodel)
  exact ⟨⟨t, Path.withoutExtension t, segments, model⟩, analyze_eq_ok_iff.2
    ⟨ht, rfl, rfl, readSegments_withoutExtension.2 hsegments, hmodel'⟩, rfl, rfl⟩

/-- **Taking off extensions cuts no segment.**  A text and the text without its extension have the
same regions, or are rejected for the same reason at the same position.  In both, the segments of an
analyzed template stand at their offsets; and the text without its extension, with any number of
further extensions taken off, is analyzed to the same segments and model, unless nothing is left. -/
theorem withoutExtension_keeps_segments (given : Text) :
    scanned given = scanned (Path.withoutExtension given) ∧
    ∀ t, analyze given = .ok t →
      (∀ s ∈ t.segments, t.given.slice s.start s.stop = s.raw ∧
        t.stripped.slice s.start s.stop = s.raw) ∧
      ∀ n, Path.withoutExtension^[n] t.stripped ≠ [] →
        ∃ u, analyze (Path.withoutExtension^[n] t.stripped) = .ok u ∧
          u.segments = t.segments ∧ u.model = t.model := by
  refine ⟨(scanned_withoutExtension given).symm, fun t ht => ?_⟩
  obtain ⟨-, hgiven, hstripped, hsegments, hmodel⟩ := analyze_eq_ok_iff.1 ht
  have hsegments' : readSegments t.given = .ok t.segments := by
    rw [hgiven, ← readSegments_withoutExtension, ← hstripped, hsegments]
  refine ⟨fun s hs => ⟨?_, ?_⟩, fun n hne => ?_⟩
  · exact (placed_of_readSegments hsegments').inPlace s hs
  · exact (placed_of_readSegments hsegments).inPlace s hs
  · exact exists_analyze_of_readSegments hne ((readSegments_iterate n).2 hsegments) hmodel

/-- The template `x.y/{P.a}.min.js⏎`, where `⏎` is a line break. -/
def minified : Template :=
  { given := "x.y/\x7bP.a\x7d.min.js\n".toList, stripped := "x.y/\x7bP.a\x7d.min\n".toList
    segments := [Segment.printed ['P'] 4 [.name ['a']]], model := some ['P'] }

/-- The template with its two extensions, with one of them and with none. -/
theorem withoutExtension_keeps_segments_minified :
    analyze minified.given = .ok minified ∧
    (∀ s ∈ minified.segments, minified.given.slice s.start s.stop = s.raw ∧
      minified.stripped.slice s.start s.stop = s.raw) ∧
    (minified.stripped ≠ [] ∧ ∃ u, analyze minified.stripped = .ok u ∧
      u.segments = minified.segments ∧ u.model = some ['P']) ∧
    ("x.y/\x7bP.a\x7d\n".toList ≠ [] ∧ ∃ u, analyze "x.y/\x7bP.a\x7d\n".toList = .ok u ∧
      u.segments = minified.segments ∧ u.model = some ['P']) := by
  have ht : analyze minified.given = .ok minified := by decide
  have htwice : Path.withoutExtension^[1] minified.stripped = "x.y/\x7bP.a\x7d\n".toList := by decide
  obtain ⟨hslices, hstripped⟩ := (withoutExtension_keeps_segments minified.given).2 _ ht
  have hfurther := hstripped 1
  rw [htwice] at hfurther
  have hne : minified.stripped ≠ [] := by decide
  have hne' : "x.y/\x7bP.a\x7d\n".toList ≠ [] := by decide
  exact ⟨ht, hslices, ⟨hne, hstripped 0 hne⟩, hne', hfurther hne'⟩

end Permalink.Template
