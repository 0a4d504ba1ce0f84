import Permalink.Proofs.Resolution.Choice
import Permalink.Proofs.Resolution.Filling
import Permalink.Proofs.Template.Collapse
import Permalink.Proofs.Template.Joined

/-!
# Resolution — directory by directory

A record gives by two templates with a slash between them what it gives by each: the one path under
the other, and the errors of both (`derive_join`).  The parts of the joined template are those of
both with the slash between them, and each is filled as in its own template.  Only slashes may meet
at the seam, and there it makes no difference that they were collapsed on either side before.
-/

namespace Permalink

open Template

/-- A segment has the same value wherever it stands. -/
theorem Segment.value_moved (o : SlugOptions) (record : Value) (k : Nat) (s : Segment) :
    (s.moved k).value o record = s.value o record := rfl

namespace Resolution

section Join

variable {o : SlugOptions} {record : Value} {t u : Template} {parts parts' : List Part}

/-- The segments of a joined template settle just if those of both templates do. -/
theorem settles_join : (∀ s ∈ (t.join u).segments, s.Settles o record) ↔
    (∀ s ∈ t.segments, s.Settles o record) ∧ ∀ s ∈ u.segments, s.Settles o record := by
  simp only [Template.join, List.forall_mem_append, List.forall_mem_map, Segment.Settles,
    Segment.value_moved]

/-- **Resolving a joined template** is resolving both. -/
theorem exists_result_ofTemplate_join (hlayout : Layout t parts) (hlayout' : Layout u parts')
    {d d' : Derived} (hd : (ofTemplate o t record).result = .ok d)
    (hd' : (ofTemplate o u record).result = .ok d') :
    ∃ e, (ofTemplate o (t.join u) record).result = .ok e ∧
      e.path = Path.collapseSlashes (d.path ++ '/' :: d'.path) ∧
      e.errors = d.errors ++ d'.errors.map (Segment.moved (t.stripped.length + 1)) := by
  have hjoin := hlayout.join hlayout'
  obtain ⟨hpath, hsettles, herrors⟩ := result_ofTemplate hlayout hd
  obtain ⟨hpath', hsettles', herrors'⟩ := result_ofTemplate hlayout' hd'
  obtain ⟨e, he⟩ := (exists_resolve_iff hjoin.placed (List.Subperm.refl _)).2
    (settles_join.2 ⟨hsettles, hsettles'⟩)
  obtain ⟨hpathe, -, herrorse⟩ := result_ofTemplate hjoin he
  refine ⟨e, he, ?_, ?_⟩
  · have hfill : written (fill (valueOf o record) (parts ++ .plain ['/'] :: parts')) =
        written (fill (valueOf o record) parts) ++
          '/' :: written (fill (valueOf o record) parts') := by
      rw [fill, List.map_append, written_append, List.map_cons, written_cons]
      rfl
    rw [hpathe, hfill, hpath, hpath', Path.collapseSlashes_append_slash]
  · -- Whether a segment has a value does not depend on where it stands.
    rw [herrorse, herrors, herrors', Template.join, List.filter_append, List.filter_map]
    rfl

end Join

/-- **Templates resolve directory by directory.**  Let the first of two templates have no extension,
and let them be of one model, or one of them without segments.  Put together they are a template,
which has the segments of both.  Under every setting by which a record has paths by both, it has one
by that template, the second path under the first; and the errors are those of both. -/
theorem derive_join {given given' : Text} {t u : Template} (ht : analyze given = .ok t)
    (hu : analyze given' = .ok u) (hextension : Path.withoutExtension given = given)
    (hmodels : t.model = u.model ∨ t.isCollection = false ∨ u.isCollection = false) :
    (∃ v, analyze (given ++ '/' :: given') = .ok v ∧
      v.segments = t.segments ++ u.segments.map (Segment.moved (given.length + 1))) ∧
    ∀ (setting : Option Value) (record : Value) (d d' : Derived),
      (derive setting given record).result = .ok d →
      (derive setting given' record).result = .ok d' →
      ∃ e, (derive setting (given ++ '/' :: given') record).result = .ok e ∧
        e.path = Path.collapseSlashes (d.path ++ '/' :: d'.path) ∧
        e.errors = d.errors ++ d'.errors.map (Segment.moved (given.length + 1)) ∧
        e.errors.map (·.raw) = d.errors.map (·.raw) ++ d'.errors.map (·.raw) := by
  have hjoin := analyze_join ht hu hextension hmodels
  obtain ⟨parts, hlayout⟩ := exists_layout_of_analyze ht
  obtain ⟨parts', hlayout'⟩ := exists_layout_of_analyze hu
  have hstripped : t.stripped = given := by
    obtain ⟨-, -, hstripped, -, -⟩ := analyze_eq_ok_iff.1 ht
    exact hstripped.trans hextension
  refine ⟨⟨_, hjoin, by rw [Template.join, hstripped]⟩, fun setting record d d' hd hd' => ?_⟩
  obtain ⟨o, ho, hd⟩ := (result_derive_eq_ok ht).1 hd
  obtain ⟨o', ho', hd'⟩ := (result_derive_eq_ok hu).1 hd'
  obtain rfl : o = o' := Except.ok.inj (ho.symm.trans ho')
  obtain ⟨e, he, hpath, herrors⟩ := exists_result_ofTemplate_join hlayout hlayout' hd hd'
  refine ⟨e, (result_derive_eq_ok hjoin).2 ⟨o, ho, he⟩, hpath, hstripped ▸ herrors, ?_⟩
  rw [herrors, List.map_append, List.map_map]
  rfl

/-- The template `a/{P.n}/`. -/
def directory : Template :=
  { given := "a/\x7bP.n\x7d/".toList
    stripped := "a/\x7bP.n\x7d/".toList
    segments := [fieldSegment ['n'] "\x7bP.n\x7d".toList 2 7]
    model := some ['P'] }

/-- The template `/{P.m}-{P.n}.js`. -/
def script : Template :=
  { given := "/\x7bP.m\x7d-\x7bP.n\x7d.js".toList
    stripped := "/\x7bP.m\x7d-\x7bP.n\x7d".toList
    segments := [fieldSegment ['m'] "\x7bP.m\x7d".toList 1 6,
      fieldSegment ['n'] "\x7bP.n\x7d".toList 7 12]
    model := some ['P'] }

/-- The one under the other, where three slashes meet, at a record without the field `m`. -/
theorem derive_join_script :
    analyze directory.given = .ok directory ∧ analyze script.given = .ok script ∧
    Path.withoutExtension directory.given = directory.given ∧ directory.model = script.model ∧
    (derive none directory.given (fieldRecord "X Y".toList)).result =
      .ok ⟨directory.stripped, "a/x-y/".toList, []⟩ ∧
    (derive none script.given (fieldRecord "X Y".toList)).result =
      .ok ⟨script.stripped, "/\x7bP.m\x7d-x-y".toList,
        [fieldSegment ['m'] "\x7bP.m\x7d".toList 1 6]⟩ ∧
    ∃ e, (derive none (directory.given ++ '/' :: script.given)
        (fieldRecord "X Y".toList)).result = .ok e ∧
      e.path = "a/x-y/\x7bP.m\x7d-x-y".toList ∧
      e.errors = [fieldSegment ['m'] "\x7bP.m\x7d".toList 10 15] := by
  have ht : analyze directory.given = .ok directory := by decide
  have hu : analyze script.given = .ok script := by decide
  have hextension : Path.withoutExtension directory.given = directory.given := by decide
  have hd : (derive none directory.given (fieldRecord "X Y".toList)).result =
      .ok ⟨directory.stripped, "a/x-y/".toList, []⟩ := by
    rw [derive_eq_resolve ht rfl, resolve_of_pairwise (by decide)]
    decide +kernel
  have hd' : (derive none script.given (fieldRecord "X Y".toList)).result =
      .ok ⟨script.stripped, "/\x7bP.m\x7d-x-y".toList,
        [fieldSegment ['m'] "\x7bP.m\x7d".toList 1 6]⟩ := by
    rw [derive_eq_resolve hu rfl, resolve_of_pairwise (by decide)]
    decide +kernel
  obtain ⟨-, hjoin⟩ := derive_join ht hu hextension (.inl rfl)
  obtain ⟨e, he, hpath, herrors, -⟩ := hjoin none (fieldRecord "X Y".toList) _ _ hd hd'
  exact ⟨ht, hu, hextension, rfl, hd, hd', e, he, hpath, herrors⟩

end Resolution
end Permalink
