import Permalink.Proofs.Template.Reading

/-!
# Template — the grammar

The templates that analysis accepts, described without the functions that analyze them.  A text
without extension is *grammatical* when it is written by parts, the regions among which make
segments of one model: `{Model.field}`, where the model is a name and the field a reference of
names and markers (`Segment.IsBody`).

**Analysis accepts the grammar** (`analyze_ok_iff_grammatical`): a text is analyzed just if it is
not empty and, its extension off, is grammatical, and any other text is rejected as malformed.

The proof puts together what scanning accepts (`exists_parts_of_scan`), what reading a region
accepts (`isBody_of_ofRaw`, `IsBody.exists_ofRaw`), and when segments share a model.
-/

namespace Permalink.Template

/-- The text is an alternation of text without braces and regions, which are segments of one
model. -/
def Grammatical (t : Text) : Prop :=
  ∃ parts : List Part, written parts = t ∧ (∀ p ∈ parts, p.BraceFree) ∧
    ∃ model : Text, ∀ body, .region body ∈ parts → Segment.IsBody model body

/-- The segments of a text can be read and share a model just if the text is grammatical. -/
theorem grammatical_iff {given stripped : Text} :
    Grammatical stripped ↔ ∃ segments, readSegments stripped = .ok segments ∧
      ∃ model, sharedModel given segments = .ok model := by
  constructor
  · rintro ⟨parts, rfl, hparts, model, hbodies⟩
    obtain ⟨segments, hreads, hmodel⟩ := exists_reads parts 0 hbodies
    exact ⟨segments, readSegments_eq_ok_iff.2 ⟨parts, hparts, rfl, hreads⟩,
      exists_sharedModel_iff.2 ⟨model, hmodel⟩⟩
  · rintro ⟨segments, hsegments, hshared⟩
    obtain ⟨parts, hparts, rfl, hreads⟩ := readSegments_eq_ok_iff.1 hsegments
    obtain ⟨model, hmodel⟩ := exists_sharedModel_iff.1 hshared
    refine ⟨parts, rfl, hparts, model, fun body hbody => ?_⟩
    obtain ⟨s, hs, start, stop, hread⟩ := hreads.exists_of_region hbody
    rw [← hmodel s hs]
    exact Segment.isBody_of_ofRaw hread

theorem exists_analyze_iff {given : Text} : (∃ t, analyze given = .ok t) ↔
    given ≠ [] ∧ ∃ segments, readSegments (Path.withoutExtension given) = .ok segments ∧
      ∃ model, sharedModel given segments = .ok model := by
  constructor
  · rintro ⟨t, h⟩
    obtain ⟨hne, -, hstripped, hsegments, hmodel⟩ := analyze_eq_ok_iff.1 h
    exact ⟨hne, t.segments, hstripped ▸ hsegments, t.model, hmodel⟩
  · rintro ⟨hne, segments, hsegments, model, hmodel⟩
    exact ⟨⟨given, Path.withoutExtension given, segments, model⟩,
      analyze_eq_ok_iff.2 ⟨hne, rfl, rfl, hsegments, hmodel⟩⟩

/-- **Analysis accepts the grammar.**  A text is analyzed just if it is not empty and, without its
extension, is grammatical; any other text is rejected as malformed. -/
theorem analyze_ok_iff_grammatical (given : Text) :
    ((∃ t, analyze given = .ok t) ↔ given ≠ [] ∧ Grammatical (Path.withoutExtension given)) ∧
      ((∃ m : Malformed, analyze given = .error m) ↔
        ¬ (given ≠ [] ∧ Grammatical (Path.withoutExtension given))) := by
  have haccept : (∃ t, analyze given = .ok t) ↔
      given ≠ [] ∧ Grammatical (Path.withoutExtension given) := by
    rw [exists_analyze_iff, grammatical_iff]
  refine ⟨haccept, ?_⟩
  rw [← haccept]
  cases analyze given with
  | error m => exact ⟨fun _ => nofun, fun _ => ⟨m, rfl⟩⟩
  | ok t => exact ⟨nofun, fun h => absurd ⟨t, rfl⟩ h⟩

example : (analyze "blog/\x7bPost\n.parent__(File)\n__name\n\x7d.js".toList).isOk = true := by
  decide

end Permalink.Template
