import Permalink.Proofs.Template.Extension
import Permalink.Proofs.Template.Offsets

/-!
# Template — one template under another

Two templates with a slash between them make a template again, unless the first has an extension,
which would no longer be at the end, or they are of different models (`analyze_join`).  Its
segments are those of the first and then those of the second, moved behind the slash: for its parts
are those of both with the slash between them (`Layout.join`), and what is read from a part does not
depend on where it stands (`Reads.moved`).
-/

namespace Permalink

/-- The segment `k` places further on. -/
def Segment.moved (k : Nat) (s : Segment) : Segment :=
  { s with start := s.start + k, stop := s.stop + k }

namespace Template

/-! ### Parts that are put together -/

/-- Written further on, parts are read as the same segments further on. -/
theorem Reads.moved {i : Nat} {parts : List Part} {segments : List Segment}
    (h : Reads i parts segments) (k : Nat) :
    Reads (i + k) parts (segments.map (Segment.moved k)) := by
  induction h with
  | nil => exact .nil
  | plain _ ih =>
      refine .plain ?_
      rwa [Nat.add_right_comm]
  | @region i body parts s segments hread _ ih =>
      obtain ⟨⟨-, hstart, hstop⟩, -⟩ := Segment.ofRaw_eq_ok_iff.1 hread
      have hmoved := Segment.ofRaw_moved hread (i + k : Nat) (i + k + (body.length + 2) : Nat)
      refine .region (s := s.moved k) ?_ ?_
      · rw [hmoved, Segment.moved, hstart, hstop, Int.natCast_add, Nat.add_right_comm,
          Int.natCast_add]
      · rwa [Nat.add_right_comm]

/-- Parts behind others are read behind them. -/
theorem Reads.append {i : Nat} {parts parts' : List Part} {segments segments' : List Segment}
    (h : Reads i parts segments) (h' : Reads (i + (written parts).length) parts' segments') :
    Reads i (parts ++ parts') (segments ++ segments') := by
  induction h with
  | nil => exact h'
  | plain _ ih =>
      refine .plain (ih ?_)
      rwa [written_cons, List.length_append, ← Nat.add_assoc] at h'
  | region hread _ ih =>
      refine .region hread (ih ?_)
      rwa [written_cons, List.length_append, ← Nat.add_assoc, Part.length_text_region] at h'

/-! ### Templates that are put together -/

/-- One template under another. -/
def join (t u : Template) : Template where
  given := t.given ++ '/' :: u.given
  stripped := t.stripped ++ '/' :: u.stripped
  segments := t.segments ++ u.segments.map (Segment.moved (t.stripped.length + 1))
  model := t.model.or u.model

variable {t u : Template}

/-- The parts of both, with the slash between them. -/
theorem Layout.join {parts parts' : List Part} (h : Layout t parts) (h' : Layout u parts') :
    Layout (t.join u) (parts ++ .plain ['/'] :: parts') where
  braceFree := List.forall_mem_append.2
    ⟨h.braceFree, List.forall_mem_cons.2 ⟨Text.BraceFree.singleton (by decide), h'.braceFree⟩⟩
  written := by
    rw [written_append, written_cons, h.written, h'.written]
    rfl
  reads := by
    have hmoved := h'.reads.moved (t.stripped.length + 1)
    rw [Nat.zero_add] at hmoved
    refine h.reads.append (.plain ?_)
    rwa [h.written, Nat.zero_add, List.length_singleton]

/-- Templates of one model, or of which one has no segments, share the model of either. -/
theorem sharedModel_join {given given' : Text} (ht : sharedModel given t.segments = .ok t.model)
    (hu : sharedModel given' u.segments = .ok u.model)
    (hmodels : t.model = u.model ∨ t.isCollection = false ∨ u.isCollection = false) :
    sharedModel (t.join u).given (t.join u).segments = .ok (t.join u).model := by
  obtain ⟨htmodel, ht⟩ := sharedModel_eq_ok_iff.1 ht
  obtain ⟨humodel, hu⟩ := sharedModel_eq_ok_iff.1 hu
  have hnone : ∀ {v : Template}, v.isCollection = false → v.segments = [] := fun h => by
    simpa [isCollection] using h
  refine sharedModel_eq_ok_iff.2 ⟨?_, List.forall_mem_append.2 ⟨fun s hs => ?_, ?_⟩⟩
  · rw [join, htmodel, humodel, List.head?_append, Option.map_or, List.head?_map, Option.map_map]
    rfl
  · rw [join, ← ht s hs]
    rfl
  · rintro _ hmem
    obtain ⟨s, hs, rfl⟩ := List.mem_map.1 hmem
    refine (hu s hs).trans ?_
    rcases hmodels with heq | hcollection | hcollection
    · rw [join, heq, Option.or_self]
    · rw [join, htmodel, hnone hcollection]
      rfl
    · rw [hnone hcollection] at hs
      cases hs

/-- **One template under another is a template**, if the first has no extension and they are of one
model or one of them has no segments. -/
theorem analyze_join {given given' : Text} (ht : analyze given = .ok t)
    (hu : analyze given' = .ok u) (hextension : Path.withoutExtension given = given)
    (hmodels : t.model = u.model ∨ t.isCollection = false ∨ u.isCollection = false) :
    analyze (given ++ '/' :: given') = .ok (t.join u) := by
  obtain ⟨parts, hlayout⟩ := exists_layout_of_analyze ht
  obtain ⟨parts', hlayout'⟩ := exists_layout_of_analyze hu
  obtain ⟨-, rfl, htstripped, -, htmodel⟩ := analyze_eq_ok_iff.1 ht
  obtain ⟨-, rfl, hustripped, -, humodel⟩ := analyze_eq_ok_iff.1 hu
  have hjoin := hlayout.join hlayout'
  refine analyze_eq_ok_iff.2 ⟨by simp, rfl, ?_, ?_, sharedModel_join htmodel humodel hmodels⟩
  · rw [Path.withoutExtension_append_cons (by decide) (by decide) (by decide), join, htstripped,
      hextension, hustripped]
  · exact readSegments_eq_ok_iff.2 ⟨_, hjoin.braceFree, hjoin.written, hjoin.reads⟩

end Template
end Permalink
