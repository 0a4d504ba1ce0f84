import Permalink.Proofs.Resolution.Splice
import Permalink.Proofs.Slug.Characters
import Permalink.Proofs.Template.Reading

/-!
# Resolution — filling the parts of a template

Resolving an analyzed template *fills* its parts: a region whose segment has a value becomes text,
any other region stays (`Part.fill`).  Which value a region has depends on its text alone
(`valueOf`), so all regions of one text are filled alike.

* `Reads.splicedText_eq`: splicing at the offsets of the segments writes the filled parts.
* `SlugOptions.braceFree_pathSlug`: values bring no braces, so filled parts have braces at their
  regions only.
* `result_ofTemplate`: the path is what the filled parts write, but for its slashes, and the errors
  are the segments of the regions that stay.
-/

namespace Permalink

open Template

/-! ### Filling parts -/

namespace Template

/-- A part with text in the place of a region that `value` gives a text. -/
def Part.fill (value : Text → Option Text) : Part → Part
  | .plain t => .plain t
  | .region body =>
    match value (Part.region body).text with
    | some t => .plain t
    | none => .region body

/-- Every part filled. -/
def fill (value : Text → Option Text) (parts : List Part) : List Part := parts.map (Part.fill value)

theorem text_fill_region (value : Text → Option Text) (body : Text) :
    ((Part.region body).fill value).text =
      (value (Part.region body).text).getD (Part.region body).text := by
  rw [Part.fill]
  cases value (Part.region body).text <;> rfl

/-- Texts without braces fill no braces in. -/
theorem Part.BraceFree.fill {value : Text → Option Text}
    (hvalue : ∀ raw t, value raw = some t → t.BraceFree) {p : Part} (h : p.BraceFree) :
    (p.fill value).BraceFree := by
  cases p with
  | plain t => exact h
  | region body =>
      rw [Part.fill]
      split
      · next t ht => exact hvalue _ t ht
      · exact h

theorem braceFree_fill {value : Text → Option Text}
    (hvalue : ∀ raw t, value raw = some t → t.BraceFree) {parts : List Part}
    (hparts : ∀ p ∈ parts, p.BraceFree) : ∀ p ∈ fill value parts, p.BraceFree := by
  intro p hp
  obtain ⟨q, hq, rfl⟩ := List.mem_map.1 hp
  exact (hparts q hq).fill hvalue

/-- The regions that stay are those without a value. -/
theorem regionTexts_fill (value : Text → Option Text) : ∀ parts : List Part,
    regionTexts (fill value parts) = (regionTexts parts).filter fun raw => (value raw).isNone
  | [] => rfl
  | .plain _ :: parts => regionTexts_fill value parts
  | .region body :: parts => by
      have ih := regionTexts_fill value parts
      rw [regionTexts_region, List.filter_cons, ← ih, fill, List.map_cons, Part.fill]
      cases value (Part.region body).text <;> rfl

/-- Only the values of the regions matter. -/
theorem fill_congr {f g : Text → Option Text} {parts : List Part}
    (h : ∀ raw ∈ regionTexts parts, f raw = g raw) : fill f parts = fill g parts := by
  refine List.map_congr_left fun p hp => ?_
  cases p with
  | plain t => rfl
  | region body =>
      have hbody := h _ (mem_regionTexts.2 ⟨body, hp, rfl⟩)
      rw [Part.fill, Part.fill, hbody]

/-- Filling twice gives each region its first value. -/
theorem fill_fill (f g : Text → Option Text) (parts : List Part) :
    fill g (fill f parts) = fill (fun raw => (f raw).or (g raw)) parts := by
  rw [fill, fill, fill, List.map_map]
  refine List.map_congr_left fun p _ => ?_
  cases p with
  | plain t => rfl
  | region body =>
      rw [Function.comp_apply, Part.fill, Part.fill]
      cases f (Part.region body).text <;> rfl

theorem fill_none (parts : List Part) : fill (fun _ => none) parts = parts := by
  rw [fill]
  refine List.map_id'' (fun p => ?_) parts
  cases p <;> rfl

/-! ### Filling is splicing -/

theorem sliceFrom_append (before after : Text) :
    Text.sliceFrom (before ++ after) before.length = after := by
  rw [Text.sliceFrom, Text.offset_natCast (by simp), List.drop_left]

/-- **Splicing writes the filled parts.**  Of the text, `before` is what lies behind the cursor and
`gap` what has been passed over since the last region. -/
theorem Reads.splicedText_eq {value : Text → Option Text} {place : Segment → Text} {i : Nat}
    {parts : List Part} {segments : List Segment} (h : Reads i parts segments)
    (hplace : ∀ s ∈ segments, place s = (value s.raw).getD s.raw) :
    ∀ before gap : Text, before.length + gap.length = i →
      Resolution.splicedText (before ++ (gap ++ written parts)) place before.length segments =
        gap ++ written (fill value parts) := by
  -- Text joins the gap; a region ends it, and the next gap is empty behind that region.
  induction h with
  | nil =>
      rintro before gap -
      rw [Resolution.splicedText, sliceFrom_append]
      rfl
  | @plain i t parts segments _ ih =>
      intro before gap hi
      have ih := ih hplace before (gap ++ t) (by rw [List.length_append]; omega)
      rw [List.append_assoc, List.append_assoc] at ih
      exact ih
  | @region i body parts s segments hread _ ih =>
      intro before gap hi
      obtain ⟨⟨hraw, hstart, hstop⟩, -⟩ := Segment.ofRaw_eq_ok_iff.1 hread
      obtain ⟨hs, hplace⟩ := List.forall_mem_cons.1 hplace
      have hlength : (before ++ (gap ++ (Part.region body).text)).length =
          i + (body.length + 2) := by
        rw [List.length_append, List.length_append, Part.length_text_region]; omega
      have hgap : Text.slice (before ++ (gap ++ ((Part.region body).text ++ written parts)))
          before.length i = gap := by
        rw [← hi]
        exact slice_append_append ..
      have ih := ih hplace (before ++ (gap ++ (Part.region body).text)) [] (by rw [hlength]; rfl)
      rw [hlength, List.append_assoc, List.append_assoc, List.nil_append, List.nil_append] at ih
      rw [written_cons, Resolution.splicedText, hstart, hstop, hgap, ih, hs, hraw,
        ← text_fill_region, List.append_assoc]
      rfl

end Template

/-! ### The values of regions -/

namespace SlugOptions

/-- **Values bring no braces**, if the separator is none. -/
theorem braceFree_pathSlug {o : SlugOptions}
    (hmark : o.separator.mark ≠ '{' ∧ o.separator.mark ≠ '}') {v : Value} {t : Text}
    (h : o.pathSlug v = .ok t) : t.BraceFree := by
  intro c hc
  rcases mem_pathSlug h hc with rfl | rfl | hword | rfl
  · decide
  · exact hmark
  · have hbrace : Text.isWord '{' = false ∧ Text.isWord '}' = false := by decide
    constructor
    · rintro rfl
      exact Bool.false_ne_true (hbrace.1.symm.trans hword)
    · rintro rfl
      exact Bool.false_ne_true (hbrace.2.symm.trans hword)
  · decide

end SlugOptions

namespace Resolution

variable {o : SlugOptions} {record : Value}

/-- The value of a region by its text: that of the segment it is read as. -/
def valueOf (o : SlugOptions) (record : Value) (raw : Text) : Option Text :=
  match Segment.ofRaw raw 0 0 with
  | .ok s => s.resolved? o record
  | .error _ => none

/-- The value of a segment is that of a value of the record. -/
theorem exists_pathSlug_of_value {s : Segment} {t : Text} (h : s.value o record = .ok (some t)) :
    ∃ v, o.pathSlug v = .ok t := by
  obtain ⟨found, -, h⟩ := Outcome.bind_eq_ok.1 h
  cases found with
  | none => cases h
  | some v =>
      simp only at h
      split at h
      · cases h
      · obtain ⟨u, hu, h⟩ := Outcome.bind_eq_ok.1 h
        cases h
        exact ⟨v, hu⟩

theorem braceFree_of_valueOf (hmark : o.separator.mark ≠ '{' ∧ o.separator.mark ≠ '}')
    {raw t : Text} (h : valueOf o record raw = some t) : t.BraceFree := by
  unfold valueOf at h
  split at h
  · obtain ⟨v, hv⟩ := exists_pathSlug_of_value (Segment.resolved?_eq_some_iff.1 h)
    exact SlugOptions.braceFree_pathSlug hmark hv
  · cases h

/-- The segments of a template have the values of their texts. -/
theorem valueOf_raw {i : Nat} {parts : List Part} {segments : List Segment}
    (h : Reads i parts segments) {s : Segment} (hs : s ∈ segments) :
    valueOf o record s.raw = s.resolved? o record := by
  rw [valueOf, h.ofRaw_raw hs]
  rfl

/-! ### Resolving a template -/

/-- **Resolving a template fills its parts.**  The path is what the filled parts write, but for its
slashes; every segment settles, and the errors are those without a value. -/
theorem result_ofTemplate {t : Template} {parts : List Part} {d : Derived}
    (hlayout : Layout t parts) (h : (ofTemplate o t record).result = .ok d) :
    d.path = Path.collapseSlashes (written (fill (valueOf o record) parts)) ∧
      (∀ s ∈ t.segments, s.Settles o record) ∧
      d.errors = t.segments.filter fun s => (s.resolved? o record).isNone := by
  have hreads := hlayout.reads
  obtain ⟨-, hsettles, rfl⟩ := result_resolve.1 h
  rw [inOrder_of_pairwise hreads.pairwise_start] at hsettles ⊢
  have hplace : ∀ s ∈ t.segments,
      s.replacement o record = (valueOf o record s.raw).getD s.raw := fun s hs => by
    rw [valueOf_raw hreads hs, Segment.replacement]
  have htext := hreads.splicedText_eq hplace [] [] rfl
  rw [List.nil_append, List.nil_append, List.nil_append, hlayout.written] at htext
  exact ⟨congrArg Path.collapseSlashes htext, hsettles,
    List.filter_congr fun s hs => (hsettles s hs).isUnresolved_eq⟩

/-- The texts of the errors are those of the regions that stay. -/
theorem raws_errors {t : Template} {parts : List Part} {d : Derived}
    (hlayout : Layout t parts) (h : (ofTemplate o t record).result = .ok d) :
    d.errors.map (·.raw) = regionTexts (fill (valueOf o record) parts) := by
  obtain ⟨-, -, herrors⟩ := result_ofTemplate hlayout h
  rw [herrors, regionTexts_fill, ← hlayout.reads.raws, List.filter_map]
  refine congrArg _ (List.filter_congr fun s hs => ?_)
  rw [Function.comp_apply, valueOf_raw hlayout.reads hs]

end Resolution
end Permalink
