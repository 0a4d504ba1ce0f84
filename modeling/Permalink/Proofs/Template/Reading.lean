import Permalink.Proofs.Template.Components
import Permalink.Proofs.Template.Parts
import Permalink.Template.Basic

/-!
# Template — how the parts of a template are read

Which regions are segments, and what the segments of an analyzed template are.

* `Segment.IsBody model body`: between braces, `body` makes a segment of `model`.  `Segment.ofRaw`
  reads just these (`isBody_of_ofRaw`, `IsBody.exists_ofRaw`), and what it reads does not depend on
  where the region stands, but for the offsets (`ofRaw_moved`).
* `Template.Reads i parts segments`: the regions among the parts, written from offset `i` on, are
  read as the segments.
* `exists_layout_of_analyze`: an analyzed template has a `Layout`, which are parts that write it and
  that its segments are read from.
-/

namespace Permalink

namespace Segment

/-! ### What makes a segment -/

/-- The text between the braces of a segment of `model`: a name, a period, and a field reference
without periods whose components are names and markers, each marker before a name. -/
def IsBody (model body : Text) : Prop :=
  IsName model ∧ ∃ (field : Text) (components : List Text), body = model ++ '.' :: field ∧
    '.' ∉ field ∧ Field.Split field components ∧ IsReference components

/-- A character of a name: a word character or a line break. -/
theorem IsName.mem {t : Text} (h : IsName t) {c : Char} (hc : c ∈ t) :
    Text.isWord c = true ∨ c = '\n' := by
  obtain ⟨w, ⟨-, hw⟩, rfl | rfl⟩ := h
  · exact .inl (hw c hc)
  · rcases List.mem_append.1 hc with hc | hc
    · exact .inl (hw c hc)
    · exact .inr (List.mem_singleton.1 hc)

/-- A character of a marker: that of a name or a parenthesis. -/
theorem IsMarker.mem {t : Text} (h : IsMarker t) {c : Char} (hc : c ∈ t) :
    Text.isWord c = true ∨ c ∈ ['\n', '(', ')'] := by
  obtain ⟨w, ⟨-, hw⟩, rfl | rfl⟩ := h
  all_goals
    simp only [List.mem_cons, List.mem_append, List.not_mem_nil, or_false] at hc ⊢
    rcases hc with rfl | hc | hc
    · exact .inr (.inr (.inl rfl))
    · exact .inl (hw c hc)
    · rcases hc with rfl | rfl <;> simp

/-- The characters that stand in segments. -/
theorem IsBody.mem {model body : Text} (h : IsBody model body) {c : Char} (hc : c ∈ body) :
    Text.isWord c = true ∨ c ∈ ['\n', '(', ')', '.'] := by
  obtain ⟨hmodel, field, components, rfl, -, hsplit, href⟩ := h
  rcases List.mem_append.1 hc with hc | hc
  · exact (hmodel.mem hc).imp_right (by rintro rfl; decide)
  rcases List.mem_cons.1 hc with rfl | hc
  · exact .inr (by decide)
  rcases hsplit.mem_or_mem hc with rfl | ⟨d, hd, hcd⟩
  · exact .inl (by decide)
  rcases href.mem d hd with hd | hd
  · exact (hd.mem hcd).imp_right (by rintro rfl; decide)
  · refine (hd.mem hcd).imp_right fun h => ?_
    simp only [List.mem_cons, List.not_mem_nil, or_false] at h ⊢
    tauto

theorem IsBody.not_mem {model body : Text} (h : IsBody model body) {c : Char}
    (hc : Text.isWord c = false) (hc' : c ∉ ['\n', '(', ')', '.']) : c ∉ body := fun hm =>
  (h.mem hm).elim (fun hw => Bool.false_ne_true (hc.symm.trans hw)) hc'

theorem IsBody.braceFree {model body : Text} (h : IsBody model body) : body.BraceFree := by
  intro c hc
  constructor
  · rintro rfl
    exact h.not_mem (by decide) (by decide) hc
  · rintro rfl
    exact h.not_mem (by decide) (by decide) hc

/-- A name has no character that neither a word nor a line break has. -/
theorem IsName.not_mem {t : Text} (h : IsName t) {c : Char} (hc : Text.isWord c = false)
    (hc' : c ≠ '\n') : c ∉ t := fun hm =>
  (h.mem hm).elim (fun hw => Bool.false_ne_true (hc.symm.trans hw)) hc'

/-- A field reference is not empty, since its last component is a name. -/
theorem IsReference.field_ne_nil {field : Text} {components : List Text}
    (hsplit : Field.Split field components) (href : IsReference components) : field ≠ [] := by
  rintro rfl
  have hcomponents : components = [[]] := (Field.pieces_eq_iff.2 hsplit).symm
  obtain ⟨w, ⟨hw, -⟩, h | h⟩ := href.last [] (by rw [hcomponents]; rfl)
  · exact hw h.symm
  · simp at h

/-! ### Reading a region -/

/-- The fields of a segment are what its text says. -/
structure Written (s : Segment) : Prop where
  body : (s.raw.drop 1).dropLast = s.model ++ '.' :: s.field
  model : IsName s.model
  field_ne_nil : s.field ≠ []
  field_no_period : '.' ∉ s.field
  components : readComponents s.raw 0 false (Field.pieces s.field) = .ok (s.path, s.markers)

/-- A body with a period after a name is cut there. -/
theorem IsName.span_period {model : Text} (h : IsName model) (field : Text) :
    (model ++ '.' :: field).takeWhile (· != '.') = model ∧
      (model ++ '.' :: field).dropWhile (· != '.') = '.' :: field := by
  have hperiod : '.' ∉ model := h.not_mem (by decide) (by decide)
  exact span_append _ (fun c hc => bne_iff_ne.2 fun e => hperiod (e ▸ hc)) (by simp)

/-- **Reading a region** gives the segment of its text at the offsets. -/
theorem ofRaw_eq_ok_iff {raw : Text} {start stop : Int} {s : Segment} :
    ofRaw raw start stop = .ok s ↔
      (s.raw = raw ∧ s.start = start ∧ s.stop = stop) ∧ s.Written := by
  constructor
  · intro h
    have hcut := List.takeWhile_append_dropWhile (p := (· != '.')) (l := (raw.drop 1).dropLast)
    simp only [ofRaw] at h
    -- Each split is one check of the reader: a period, a model name, a field, no further period.
    split at h
    · cases h
    · next c field hdrop =>
      have hc : c = '.' := by
        have hhead := List.head?_dropWhile_not (· != '.') (raw.drop 1).dropLast
        rw [hdrop] at hhead
        simpa using hhead
      split at h
      · cases h
      · next hmodel =>
        split at h
        · cases h
        · next hne =>
          split at h
          · cases h
          · next hperiod =>
            obtain ⟨r, hr, rfl⟩ := Outcome.map_eq_ok.1 h
            have hfield : field ≠ [] := by simpa using hne
            rw [Field.components_of_ne_nil hfield] at hr
            rw [hdrop, hc] at hcut
            exact ⟨⟨rfl, rfl, rfl⟩, hcut.symm, isName_iff.1 (by simpa using hmodel), hfield,
              by simpa using hperiod, hr⟩
  · rintro ⟨⟨rfl, rfl, rfl⟩, h⟩
    obtain ⟨htake, hdrop⟩ := h.model.span_period s.field
    simp only [ofRaw, h.body, htake, hdrop, isName_iff.2 h.model, Bool.not_true,
      Bool.false_eq_true, if_false]
    rw [if_neg (by simpa using h.field_ne_nil), if_neg (by simpa using h.field_no_period),
      Field.components_of_ne_nil h.field_ne_nil, h.components]
    rfl

/-- What a region is read as, but for the offsets, does not depend on where it stands. -/
theorem ofRaw_moved {raw : Text} {start stop : Int} {s : Segment}
    (h : ofRaw raw start stop = .ok s) (start' stop' : Int) :
    ofRaw raw start' stop' = .ok { s with start := start', stop := stop' } := by
  obtain ⟨⟨hraw, -, -⟩, hbody, hmodel, hne, hperiod, hcomponents⟩ := ofRaw_eq_ok_iff.1 h
  exact ofRaw_eq_ok_iff.2 ⟨⟨hraw, rfl, rfl⟩, hbody, hmodel, hne, hperiod, hcomponents⟩

theorem body_of_text (body : Text) :
    ((Template.Part.region body).text.drop 1).dropLast = body := by
  simp [Template.Part.text]

theorem isBody_of_ofRaw {body : Text} {start stop : Int} {s : Segment}
    (h : ofRaw (Template.Part.region body).text start stop = .ok s) : IsBody s.model body := by
  obtain ⟨⟨hraw, -, -⟩, hs⟩ := ofRaw_eq_ok_iff.1 h
  have hbody := hs.body
  rw [hraw, body_of_text] at hbody
  exact ⟨hs.model, s.field, Field.pieces s.field, hbody, hs.field_no_period,
    Field.split_pieces _, reference_iff.1 (readComponents_ok_iff.1 ⟨_, hs.components⟩)⟩

theorem IsBody.exists_ofRaw {model body : Text} (h : IsBody model body) (start stop : Int) :
    ∃ s, ofRaw (Template.Part.region body).text start stop = .ok s ∧ s.model = model := by
  obtain ⟨hmodel, field, components, rfl, hperiod, hsplit, href⟩ := h
  have hread : ∃ r, readComponents (Template.Part.region (model ++ '.' :: field)).text 0 false
      components = .ok r := readComponents_ok_iff.2 (reference_iff.2 href)
  obtain ⟨r, hr⟩ := hread
  rw [← Field.pieces_eq_iff.2 hsplit] at hr
  exact ⟨⟨(Template.Part.region (model ++ '.' :: field)).text, start, stop, model, field, r.1, r.2⟩,
    ofRaw_eq_ok_iff.2
      ⟨⟨rfl, rfl, rfl⟩, body_of_text _, hmodel, href.field_ne_nil hsplit, hperiod, hr⟩, rfl⟩

end Segment

namespace Template

/-! ### Reading the parts of a template -/

/-- The regions among `parts`, which are written from offset `i` on, are read as `segments`. -/
inductive Reads : (i : Nat) → List Part → List Segment → Prop where
  | nil {i : Nat} : Reads i [] []
  | plain {i : Nat} {t : Text} {parts : List Part} {segments : List Segment} :
      Reads (i + t.length) parts segments → Reads i (.plain t :: parts) segments
  | region {i : Nat} {body : Text} {parts : List Part} {s : Segment} {segments : List Segment} :
      Segment.ofRaw (Part.region body).text i (i + (body.length + 2) : Nat) = .ok s →
      Reads (i + (body.length + 2)) parts segments → Reads i (.region body :: parts) (s :: segments)

/-- A region of written parts, read at its offsets, is read from its text. -/
theorem read_region_iff {before body after : Text} {s : Segment} :
    Segment.read (before ++ ((Part.region body).text ++ after)) before.length
        (before.length + (body.length + 2) : Nat) = .ok s ↔
      Segment.ofRaw (Part.region body).text before.length
        (before.length + (body.length + 2) : Nat) = .ok s := by
  rw [Segment.read, Outcome.mapError_eq_ok, ← Part.length_text_region, slice_append_append]

/-- Reading at the offsets of the regions reads the parts, whatever stands before. -/
theorem reads_iff_forall₂ (parts : List Part) (before : Text) (segments : List Segment) :
    Reads before.length parts segments ↔
      List.Forall₂ (fun r s => Segment.read (before ++ written parts) r.start r.stop = .ok s)
        (regionsFrom before.length parts) segments := by
  -- Each step moves a part from `parts` to `before`; the text as a whole stays the same.
  induction parts generalizing before segments with
  | nil =>
      constructor
      · rintro ⟨⟩
        exact .nil
      · intro h
        cases h
        exact .nil
  | cons p parts ih =>
      cases p with
      | plain t =>
          have ih := ih (before ++ t) segments
          rw [List.length_append, List.append_assoc] at ih
          rw [written_cons, Part.text, regionsFrom, ← ih]
          exact ⟨fun h => by cases h with | plain h => exact h, .plain⟩
      | region body =>
          have ih := ih (before ++ (Part.region body).text)
          simp only [List.length_append, Part.length_text_region, List.append_assoc] at ih
          rw [written_cons, regionsFrom]
          constructor
          · intro h
            cases h with
            | region hs h => exact .cons (read_region_iff.2 hs) ((ih _).1 h)
          · intro h
            cases h with
            | cons hs h => exact .region (read_region_iff.1 hs) ((ih _).2 h)

/-- **The segments of a text** are read from parts that write it. -/
theorem readSegments_eq_ok_iff {stripped : Text} {segments : List Segment} :
    readSegments stripped = .ok segments ↔
      ∃ parts : List Part, (∀ p ∈ parts, p.BraceFree) ∧ written parts = stripped ∧
        Reads 0 parts segments := by
  rw [readSegments, Outcome.bind_eq_ok]
  constructor
  · rintro ⟨regions, hscan, hread⟩
    obtain ⟨parts, hparts, rfl, rfl⟩ := exists_parts_of_scan hscan
    exact ⟨parts, hparts, rfl, (reads_iff_forall₂ parts [] _).2 (Outcome.mapM_eq_ok.1 hread)⟩
  · rintro ⟨parts, hparts, rfl, h⟩
    exact ⟨_, scan_written hparts, Outcome.mapM_eq_ok.2 ((reads_iff_forall₂ parts [] _).1 h)⟩

/-- A region among the parts is read as a segment. -/
theorem Reads.exists_of_region {i : Nat} {parts : List Part} {segments : List Segment}
    (h : Reads i parts segments) {body : Text} (hbody : .region body ∈ parts) :
    ∃ s ∈ segments, ∃ start stop : Int,
      Segment.ofRaw (Part.region body).text start stop = .ok s := by
  induction h with
  | nil => cases hbody
  | plain _ ih =>
      rcases List.mem_cons.1 hbody with h | hbody
      · cases h
      · exact ih hbody
  | region hs _ ih =>
      rcases List.mem_cons.1 hbody with h | hbody
      · cases h
        exact ⟨_, List.mem_cons_self, _, _, hs⟩
      · obtain ⟨s, hmem, hs⟩ := ih hbody
        exact ⟨s, List.mem_cons_of_mem _ hmem, hs⟩

/-- A segment is read from a region among the parts. -/
theorem Reads.exists_region {i : Nat} {parts : List Part} {segments : List Segment}
    (h : Reads i parts segments) {s : Segment} (hs : s ∈ segments) :
    ∃ body, .region body ∈ parts ∧ ∃ start stop : Int,
      Segment.ofRaw (Part.region body).text start stop = .ok s := by
  induction h with
  | nil => cases hs
  | plain _ ih =>
      obtain ⟨body, hmem, h⟩ := ih hs
      exact ⟨body, List.mem_cons_of_mem _ hmem, h⟩
  | region hread _ ih =>
      rcases List.mem_cons.1 hs with rfl | hs
      · exact ⟨_, List.mem_cons_self, _, _, hread⟩
      · obtain ⟨body, hmem, h⟩ := ih hs
        exact ⟨body, List.mem_cons_of_mem _ hmem, h⟩

/-- The texts of the segments are those of the regions. -/
theorem Reads.raws {i : Nat} {parts : List Part} {segments : List Segment}
    (h : Reads i parts segments) : segments.map (·.raw) = regionTexts parts := by
  induction h with
  | nil => rfl
  | plain _ ih => exact ih
  | region hread _ ih =>
      obtain ⟨⟨hraw, -, -⟩, -⟩ := Segment.ofRaw_eq_ok_iff.1 hread
      rw [List.map_cons, ih, hraw, regionTexts_region]

/-- Segments that are read stand in order of their starts. -/
theorem Reads.start_le {i : Nat} {parts : List Part} {segments : List Segment}
    (h : Reads i parts segments) : ∀ s ∈ segments, (i : Int) ≤ s.start := by
  induction h with
  | nil => simp
  | plain _ ih => exact fun s hs => Int.le_trans (by omega) (ih s hs)
  | @region i body parts s segments hread _ ih =>
      obtain ⟨⟨-, hstart, -⟩, -⟩ := Segment.ofRaw_eq_ok_iff.1 hread
      have hle : (i : Int) ≤ s.start := Int.le_of_eq hstart.symm
      exact List.forall_mem_cons.2 ⟨hle, fun s hs => Int.le_trans (by omega) (ih s hs)⟩

theorem Reads.pairwise_start {i : Nat} {parts : List Part} {segments : List Segment}
    (h : Reads i parts segments) : segments.Pairwise fun a b => a.start ≤ b.start := by
  induction h with
  | nil => exact .nil
  | plain _ ih => exact ih
  | region hread hrest ih =>
      obtain ⟨⟨-, hstart, -⟩, -⟩ := Segment.ofRaw_eq_ok_iff.1 hread
      exact .cons (fun s hs => Int.le_trans (by omega) (hrest.start_le s hs)) ih

/-- A segment that is read can be read from its text. -/
theorem Reads.ofRaw_raw {i : Nat} {parts : List Part} {segments : List Segment}
    (h : Reads i parts segments) {s : Segment} (hs : s ∈ segments) (start stop : Int) :
    Segment.ofRaw s.raw start stop = .ok { s with start, stop } := by
  obtain ⟨body, -, start', stop', hread⟩ := h.exists_region hs
  obtain ⟨⟨hraw, -, -⟩, -⟩ := Segment.ofRaw_eq_ok_iff.1 hread
  exact hraw ▸ Segment.ofRaw_moved hread start stop

/-- Regions that are read as segments have no slashes. -/
theorem Reads.slash_not_mem {i : Nat} {parts : List Part} {segments : List Segment}
    (h : Reads i parts segments) : ∀ raw ∈ regionTexts parts, '/' ∉ raw := by
  intro raw hraw
  rw [← h.raws] at hraw
  obtain ⟨s, hs, rfl⟩ := List.mem_map.1 hraw
  obtain ⟨body, -, start, stop, hread⟩ := h.exists_region hs
  obtain ⟨⟨hraw, -, -⟩, -⟩ := Segment.ofRaw_eq_ok_iff.1 hread
  have hbody : '/' ∉ body := (Segment.isBody_of_ofRaw hread).not_mem (by decide) (by decide)
  rw [hraw]
  simp [Part.text, hbody]

/-- Parts whose regions make segments of one model are read as segments of that model. -/
theorem exists_reads {model : Text} : ∀ (parts : List Part) (i : Nat),
    (∀ body, .region body ∈ parts → Segment.IsBody model body) →
    ∃ segments, Reads i parts segments ∧ ∀ s ∈ segments, s.model = model
  | [], _, _ => ⟨[], .nil, by simp⟩
  | .plain t :: parts, i, h => by
      obtain ⟨segments, hreads, hmodel⟩ := exists_reads parts (i + t.length)
        fun body hb => h body (List.mem_cons_of_mem _ hb)
      exact ⟨segments, .plain hreads, hmodel⟩
  | .region body :: parts, i, h => by
      obtain ⟨segments, hreads, hmodel⟩ := exists_reads parts (i + (body.length + 2))
        fun body hb => h body (List.mem_cons_of_mem _ hb)
      have hbody : Segment.IsBody model body := h body List.mem_cons_self
      obtain ⟨s, hs, hsm⟩ := hbody.exists_ofRaw i (i + (body.length + 2) : Nat)
      exact ⟨s :: segments, .region hs hreads, List.forall_mem_cons.2 ⟨hsm, hmodel⟩⟩

/-! ### The model of a template -/

theorem eraseDups_of_forall_eq {a : Text} : ∀ {l : List Text}, l ≠ [] → (∀ b ∈ l, b = a) →
    l.eraseDups = [a]
  | [], h, _ => absurd rfl h
  | b :: l, _, h => by
      obtain ⟨rfl, hl⟩ := List.forall_mem_cons.1 h
      have hrest : l.filter (fun c => !c == b) = [] :=
        List.filter_eq_nil_iff.2 fun c hc => by simp [hl c hc]
      rw [List.eraseDups_cons, hrest, List.eraseDups_nil]

/-- Segments of one model share it. -/
theorem sharedModel_of_forall_eq (template : Text) {model : Text} {segments : List Segment}
    (hne : segments ≠ []) (h : ∀ s ∈ segments, s.model = model) :
    sharedModel template segments = .ok (some model) := by
  have hone : (segments.map (·.model)).eraseDups = [model] :=
    eraseDups_of_forall_eq (by simpa using hne) (by simpa using h)
  rw [sharedModel, hone]

/-- Segments share a model just if they are of one model. -/
theorem exists_sharedModel_iff {template : Text} {segments : List Segment} :
    (∃ m, sharedModel template segments = .ok m) ↔ ∃ model, ∀ s ∈ segments, s.model = model := by
  have hmem : ∀ s ∈ segments, s.model ∈ (segments.map (·.model)).eraseDups := fun s hs =>
    List.mem_eraseDups.2 (List.mem_map_of_mem hs)
  constructor
  · rintro ⟨m, h⟩
    unfold sharedModel at h
    split at h
    · next hnil => exact ⟨[], fun s hs => absurd (hnil ▸ hmem s hs) List.not_mem_nil⟩
    · next model hone => exact ⟨model, fun s hs => List.mem_singleton.1 (hone ▸ hmem s hs)⟩
    · cases h
  · rintro ⟨model, h⟩
    cases segments with
    | nil => exact ⟨none, rfl⟩
    | cons s segments =>
        exact ⟨some model, sharedModel_of_forall_eq template (List.cons_ne_nil _ _) h⟩

/-- **The model that segments share** is that of the first, if all are of it. -/
theorem sharedModel_eq_ok_iff {template : Text} {segments : List Segment} {m : Option Text} :
    sharedModel template segments = .ok m ↔
      m = segments.head?.map (·.model) ∧ ∀ s ∈ segments, some s.model = m := by
  cases segments with
  | nil => exact ⟨fun h => ⟨(Except.ok.inj h).symm, by simp⟩, fun h => by rw [h.1]; rfl⟩
  | cons s segments =>
      have hok : ∀ {model : Text}, (∀ u ∈ s :: segments, u.model = model) →
          sharedModel template (s :: segments) = .ok (some model) := fun h =>
        sharedModel_of_forall_eq template (List.cons_ne_nil s segments) h
      constructor
      · intro h
        obtain ⟨model, hall⟩ := exists_sharedModel_iff.1 ⟨m, h⟩
        obtain rfl : some model = m := Except.ok.inj ((hok hall).symm.trans h)
        exact ⟨congrArg some (hall s List.mem_cons_self).symm,
          fun u hu => congrArg some (hall u hu)⟩
      · rintro ⟨rfl, hall⟩
        exact hok fun u hu => Option.some.inj (hall u hu)

/-! ### Analyzed templates -/

/-- Parts that write a template and that its segments are read from. -/
structure Layout (t : Template) (parts : List Part) : Prop where
  braceFree : ∀ p ∈ parts, p.BraceFree
  written : written parts = t.stripped
  reads : Reads 0 parts t.segments

theorem analyze_eq_ok_iff {given : Text} {t : Template} :
    analyze given = .ok t ↔ given ≠ [] ∧ t.given = given ∧
      t.stripped = Path.withoutExtension given ∧ readSegments t.stripped = .ok t.segments ∧
      sharedModel given t.segments = .ok t.model := by
  rw [analyze]
  cases given with
  | nil => exact ⟨nofun, fun h => absurd rfl h.1⟩
  | cons c rest =>
      simp only [List.isEmpty_cons, Bool.false_eq_true, if_false, Outcome.bind_eq_ok]
      constructor
      · rintro ⟨segments, hsegments, model, hmodel, h⟩
        cases h
        exact ⟨List.cons_ne_nil _ _, rfl, rfl, hsegments, hmodel⟩
      · rintro ⟨-, hgiven, hstripped, hsegments, hmodel⟩
        rw [hstripped] at hsegments
        refine ⟨t.segments, hsegments, t.model, hmodel, ?_⟩
        rw [← hgiven] at hstripped ⊢
        rw [← hstripped]
        rfl

theorem exists_layout_of_analyze {given : Text} {t : Template} (h : analyze given = .ok t) :
    ∃ parts, Layout t parts := by
  obtain ⟨-, -, -, hsegments, -⟩ := analyze_eq_ok_iff.1 h
  obtain ⟨parts, hparts, hwritten, hreads⟩ := readSegments_eq_ok_iff.1 hsegments
  exact ⟨parts, hparts, hwritten, hreads⟩

end Template
end Permalink
