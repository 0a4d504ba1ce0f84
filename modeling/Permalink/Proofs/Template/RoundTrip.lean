import Permalink.Proofs.Template.Extension
import Permalink.Proofs.Template.Printing

/-!
# Template — reading back printed templates

A template is printed from regions of one model, each behind a text, and a tail (`print`).  If the
texts have no braces and the components of each region can be told apart when they are printed
(`Field.Printable`), then **analysis gives the printed segments back** (`analyze_print`): the same
model, names and markers, and the offsets at which the regions were printed.  An extension can be
taken off the tail only, since the last region closes with a brace.
-/

namespace Permalink.Template

open Permalink.Field (Component Printable)
open Segment (IsWord)

/-! ### Printing a template -/

/-- The regions of `model`, each behind a text, and `tail` behind them all. -/
def print (model tail : Text) : List (Text × List Component) → Text
  | [] => tail
  | (before, cs) :: rest => before ++ (Segment.textOf model cs ++ print model tail rest)

/-- The segments of the regions, if they are printed from offset `i` on. -/
def printedSegments (model : Text) (i : Nat) : List (Text × List Component) → List Segment
  | [] => []
  | (before, cs) :: rest =>
    Segment.printed model (i + before.length) cs ::
      printedSegments model (i + before.length + (Segment.textOf model cs).length) rest

/-- The parts of a printed template. -/
def printedParts (model tail : Text) : List (Text × List Component) → List Part
  | [] => [.plain tail]
  | (before, cs) :: rest =>
    .plain before :: .region (model ++ '.' :: Field.print cs) :: printedParts model tail rest

theorem written_printedParts (model tail : Text) : ∀ regions : List (Text × List Component),
    written (printedParts model tail regions) = print model tail regions
  | [] => List.append_nil tail
  | (before, cs) :: rest => by
      rw [printedParts, written_cons, written_cons, written_printedParts model tail rest]
      rfl

theorem model_of_mem_printedSegments {model : Text} {s : Segment} :
    ∀ {i : Nat} {regions : List (Text × List Component)}, s ∈ printedSegments model i regions →
      s.model = model
  | _, [], h => absurd h List.not_mem_nil
  | _, _ :: _, h => by
      rcases List.mem_cons.1 h with rfl | h
      · rfl
      · exact model_of_mem_printedSegments h

/-! ### The extension -/

/-- The last region of a printed template closes in front of the tail. -/
theorem exists_print_eq (model : Text) : ∀ {regions : List (Text × List Component)}, regions ≠ [] →
    ∃ t : Text, ∀ tail, print model tail regions = t ++ '}' :: tail
  | [], hne => absurd rfl hne
  | [(before, cs)], _ =>
      ⟨before ++ '{' :: (model ++ '.' :: Field.print cs), fun tail => by
        simp [print, Segment.textOf, Part.text]⟩
  | (before, cs) :: r :: rest, _ => by
      obtain ⟨t, ht⟩ := exists_print_eq model (List.cons_ne_nil r rest)
      exact ⟨before ++ (Segment.textOf model cs ++ t), fun tail => by
        rw [print, ht, List.append_assoc, List.append_assoc]⟩

/-- An extension is taken off the tail. -/
theorem withoutExtension_print (model tail : Text) {regions : List (Text × List Component)}
    (hne : regions ≠ []) : Path.withoutExtension (print model tail regions) =
      print model (Path.withoutExtension tail) regions := by
  obtain ⟨t, ht⟩ := exists_print_eq model hne
  rw [ht, ht, Path.withoutExtension_append_cons (by decide) (by decide) (by decide)]

/-! ### Reading back -/

section Printed

variable {model : Text} {regions : List (Text × List Component)}

/-- The printed parts are read as the printed segments. -/
theorem reads_printedParts (hmodel : IsWord model) (tail : Text)
    (hregions : ∀ r ∈ regions, Printable r.2) (i : Nat) :
    Reads i (printedParts model tail regions) (printedSegments model i regions) := by
  induction regions generalizing i with
  | nil => exact .plain .nil
  | cons r rest ih =>
      obtain ⟨before, cs⟩ := r
      obtain ⟨hcs, hrest⟩ := List.forall_mem_cons.1 hregions
      have hread := Segment.ofRaw_printed hmodel hcs (i + before.length)
      have ih := ih hrest (i + before.length + (Segment.textOf model cs).length)
      rw [Segment.textOf, Part.length_text_region] at hread ih
      rw [printedParts, printedSegments, Segment.textOf, Part.length_text_region]
      exact .plain (.region hread ih)

theorem braceFree_printedParts (hmodel : IsWord model) {tail : Text} (htail : tail.BraceFree)
    (hregions : ∀ r ∈ regions, r.1.BraceFree ∧ Printable r.2) :
    ∀ p ∈ printedParts model tail regions, p.BraceFree := by
  induction regions with
  | nil => exact List.forall_mem_singleton.2 htail
  | cons r rest ih =>
      obtain ⟨before, cs⟩ := r
      obtain ⟨⟨hbefore, hcs⟩, hrest⟩ := List.forall_mem_cons.1 hregions
      have hbody := Segment.isBody_of_ofRaw (Segment.ofRaw_printed hmodel hcs 0)
      exact List.forall_mem_cons.2 ⟨hbefore, List.forall_mem_cons.2 ⟨hbody.braceFree, ih hrest⟩⟩

/-- **Analysis gives printed segments back.** -/
theorem analyze_print (hmodel : IsWord model) (hne : regions ≠ [])
    (hregions : ∀ r ∈ regions, r.1.BraceFree ∧ Printable r.2) {tail : Text}
    (htail : tail.BraceFree) :
    analyze (print model tail regions) = .ok
      { given := print model tail regions
        stripped := print model (Path.withoutExtension tail) regions
        segments := printedSegments model 0 regions
        model := some model } := by
  -- All conditions of an analysis hold of the regions and of what is left of the tail.
  have hnonempty : print model tail regions ≠ [] := by
    obtain ⟨t, ht⟩ := exists_print_eq model hne
    simp [ht]
  have htail' : (Path.withoutExtension tail).BraceFree := fun c hc =>
    htail c ((Path.withoutExtension_sublist tail).subset hc)
  have hsegments : readSegments (print model (Path.withoutExtension tail) regions) =
      .ok (printedSegments model 0 regions) :=
    readSegments_eq_ok_iff.2 ⟨_, braceFree_printedParts hmodel htail' hregions,
      written_printedParts .., reads_printedParts hmodel _ (fun r hr => (hregions r hr).2) 0⟩
  have hsome : printedSegments model 0 regions ≠ [] := by
    cases regions with
    | nil => exact absurd rfl hne
    | cons r rest => exact List.cons_ne_nil _ _
  exact analyze_eq_ok_iff.2 ⟨hnonempty, rfl, (withoutExtension_print model tail hne).symm,
    hsegments, sharedModel_of_forall_eq _ hsome fun s hs => model_of_mem_printedSegments hs⟩

end Printed

/-- Two regions with underscores at the edges of names and of a type. -/
def edges : List (Text × List Component) :=
  [("blog.x/".toList, [.name "parent".toList, .marker "_File".toList, .name "_name".toList]),
    ([], [.marker ['T'], .name ['a'], .name ['b', '_']])]

/-- The underscores at the edges are read back. -/
theorem analyze_print_edges :
    IsWord "Post".toList ∧ edges ≠ [] ∧ (∀ r ∈ edges, r.1.BraceFree ∧ Printable r.2) ∧
    Text.BraceFree "-1.d.js".toList ∧
    analyze "blog.x/\x7bPost.parent__(_File)___name\x7d\x7bPost.(T)__a__b_\x7d-1.d.js".toList = .ok
      { given := "blog.x/\x7bPost.parent__(_File)___name\x7d\x7bPost.(T)__a__b_\x7d-1.d.js".toList
        stripped := "blog.x/\x7bPost.parent__(_File)___name\x7d\x7bPost.(T)__a__b_\x7d-1.d".toList
        segments := printedSegments "Post".toList 0 edges
        model := some "Post".toList } ∧
    (printedSegments "Post".toList 0 edges).map (fun s => (s.start, s.stop, s.path, s.markers)) =
      [(7, 36, ["parent".toList, "_name".toList], [⟨"_File".toList, 1⟩]),
        (36, 53, [['a'], ['b', '_']], [⟨['T'], 0⟩])] := by
  have hmodel : IsWord "Post".toList := by decide
  have hregions : ∀ r ∈ edges, r.1.BraceFree ∧ Printable r.2 := by decide
  have htail : Text.BraceFree "-1.d.js".toList := by decide
  have hread := analyze_print hmodel (List.cons_ne_nil _ _ : edges ≠ []) hregions htail
  exact ⟨hmodel, List.cons_ne_nil _ _, hregions, htail, hread, by decide⟩

end Permalink.Template
