import Permalink.Proofs.Resolution.Splice

/-!
# Resolution — segments at arbitrary offsets

A resolution accepts segments with any offsets, as long as each starts at or behind the end of the
one before it and has the text that stands at its offsets.  Both offsets are read as those of a
slice: one before the text's start counts from its end, one outside the text is its nearer end, and
a slice that ends before it starts is empty.

A *faithful* splice (`FaithfulSplice`) has all segments inside the text and apart from each other,
and copies what stands between them.  **An accepted list of segments is spliced faithfully just if
each segment ends at or behind its start and inside the text** (`faithfulSplice_iff_inside`).  The
acceptance itself does not ensure this: a segment may end before it starts, which takes the cursor
back, and what follows is then copied or replaced twice (`overlapping_segments_accepted`).
-/

namespace Permalink

namespace Text

/-- A slice and what follows it. -/
theorem slice_append_sliceFrom {t : Text} {i j : Int} (hi : 0 ≤ i) (hij : i ≤ j)
    (hj : j ≤ t.length) : slice t i j ++ sliceFrom t j = sliceFrom t i := by
  obtain ⟨m, rfl⟩ := Int.eq_ofNat_of_zero_le hi
  obtain ⟨n, rfl⟩ := Int.eq_ofNat_of_zero_le (Int.le_trans hi hij)
  have hmn : m ≤ n := Int.ofNat_le.1 hij
  have hn : n ≤ t.length := Int.ofNat_le.1 hj
  have hm : m ≤ t.length := Nat.le_trans hmn hn
  rw [slice_natCast hm hn, sliceFrom, sliceFrom, offset_natCast hn, offset_natCast hm]
  calc (t.take n).drop m ++ t.drop n
      = (t.take n ++ t.drop n).drop m :=
        (List.drop_append_of_le_length (by rw [List.length_take]; omega)).symm
    _ = t.drop m := by rw [List.take_append_drop]

theorem sliceFrom_zero (t : Text) : sliceFrom t 0 = t := by
  simp [sliceFrom, offset]

end Text

namespace Resolution

/-! ### Faithful splices -/

/-- The text before each segment, behind the segment before it or, for the first, behind
`cursor`. -/
def gapsFrom (stripped : Text) (cursor : Int) : List Segment → List Text
  | [] => []
  | s :: rest => stripped.slice cursor s.start :: gapsFrom stripped s.stop rest

/-- Where the last segment ends; `cursor` if there is none. -/
def endFrom (cursor : Int) : List Segment → Int
  | [] => cursor
  | s :: rest => endFrom s.stop rest

/-- Gaps, each with a text behind it, and a tail. -/
def interleave : (gaps texts : List Text) → (tail : Text) → Text
  | g :: gaps, x :: texts, tail => g ++ x ++ interleave gaps texts tail
  | _, _, tail => tail

/-- `text` is the template with `place s` in the place of each segment `s` and all else as it is. -/
structure FaithfulSplice (stripped : Text) (place : Segment → Text) (segments : List Segment)
    (text : Text) : Prop where
  /-- Segments lie inside the template. -/
  inside : ∀ s ∈ segments, 0 ≤ s.start ∧ s.start ≤ s.stop ∧ s.stop ≤ stripped.length
  /-- The text of a segment stands at its offsets. -/
  inPlace : ∀ s ∈ segments, stripped.slice s.start s.stop = s.raw
  /-- No segment starts before the last one ended. -/
  apart : segments.IsChain fun a b => a.stop ≤ b.start
  /-- The gaps and segments make up the template, so that no character is in two of them. -/
  whole : interleave (gapsFrom stripped 0 segments) (segments.map (·.raw))
    (stripped.sliceFrom (endFrom 0 segments)) = stripped
  /-- The gaps are copied, and each segment is replaced. -/
  replaced : interleave (gapsFrom stripped 0 segments) (segments.map place)
    (stripped.sliceFrom (endFrom 0 segments)) = text

theorem interleave_gapsFrom (stripped : Text) (place : Segment → Text) :
    ∀ (cursor : Int) (segments : List Segment),
      interleave (gapsFrom stripped cursor segments) (segments.map place)
        (stripped.sliceFrom (endFrom cursor segments)) =
      splicedText stripped place cursor segments
  | _, [] => rfl
  | cursor, s :: rest => by
      have ih := interleave_gapsFrom stripped place s.stop rest
      rw [gapsFrom, List.map_cons, endFrom, interleave, ih, splicedText]

/-- A segment that ends at or behind its start, inside the template. -/
def Inside (stripped : Text) (s : Segment) : Prop :=
  s.start ≤ s.stop ∧ s.stop ≤ stripped.length

theorem fits_iff {stripped : Text} {cursor : Int} {s : Segment} :
    s.fits stripped cursor = true ↔ cursor ≤ s.start ∧ stripped.slice s.start s.stop = s.raw := by
  simp [Segment.fits]

section Fitting

variable {stripped : Text}

/-- Segments that fit have their text in place. -/
theorem FitsFrom.inPlace {cursor : Int} {segments : List Segment}
    (h : FitsFrom stripped cursor segments) :
    ∀ s ∈ segments, stripped.slice s.start s.stop = s.raw := by
  induction segments generalizing cursor with
  | nil => exact fun _ hs => absurd hs List.not_mem_nil
  | cons s rest ih => exact List.forall_mem_cons.2 ⟨(fits_iff.1 h.1).2, ih h.2⟩

/-- Each segment that fits starts at or behind the end of the one before. -/
theorem FitsFrom.apart {cursor : Int} {segments : List Segment}
    (h : FitsFrom stripped cursor segments) : segments.IsChain fun a b => a.stop ≤ b.start := by
  induction segments generalizing cursor with
  | nil => exact .nil
  | cons s rest ih =>
      cases rest with
      | nil => exact .singleton s
      | cons t rest => exact List.isChain_cons_cons.2 ⟨(fits_iff.1 h.2.1).1, ih h.2⟩

/-- The cursor never goes back over segments that end at or behind their starts, so no segment
starts before the text does. -/
theorem FitsFrom.start_nonneg {cursor : Int} {segments : List Segment} (hcursor : 0 ≤ cursor)
    (h : FitsFrom stripped cursor segments) (hin : ∀ s ∈ segments, Inside stripped s) :
    ∀ s ∈ segments, 0 ≤ s.start := by
  induction segments generalizing cursor with
  | nil => exact fun _ hs => absurd hs List.not_mem_nil
  | cons s rest ih =>
      obtain ⟨hs, hrest⟩ := List.forall_mem_cons.1 hin
      have hstart : 0 ≤ s.start := Int.le_trans hcursor (fits_iff.1 h.1).1
      exact List.forall_mem_cons.2 ⟨hstart, ih (Int.le_trans hstart hs.1) h.2 hrest⟩

/-- Segments that fit, put in their own places, give the template back. -/
theorem FitsFrom.splicedText_raw {cursor : Int} {segments : List Segment} (hcursor : 0 ≤ cursor)
    (h : FitsFrom stripped cursor segments) (hin : ∀ s ∈ segments, Inside stripped s) :
    splicedText stripped (·.raw) cursor segments = stripped.sliceFrom cursor := by
  induction segments generalizing cursor with
  | nil => rfl
  | cons s rest ih =>
      obtain ⟨⟨hle, hlength⟩, hrest⟩ := List.forall_mem_cons.1 hin
      obtain ⟨hcs, hraw⟩ := fits_iff.1 h.1
      have hstart : 0 ≤ s.start := Int.le_trans hcursor hcs
      rw [splicedText, ih (Int.le_trans hstart hle) h.2 hrest, ← hraw, List.append_assoc,
        Text.slice_append_sliceFrom hstart hle hlength,
        Text.slice_append_sliceFrom hcursor hcs (Int.le_trans hle hlength)]

/-- **Segments that fit, inside the template, are spliced faithfully.** -/
theorem FitsFrom.faithfulSplice {segments : List Segment} (place : Segment → Text)
    (h : FitsFrom stripped 0 segments) (hin : ∀ s ∈ segments, Inside stripped s) :
    FaithfulSplice stripped place segments (splicedText stripped place 0 segments) where
  inside s hs := ⟨h.start_nonneg (Int.le_refl 0) hin s hs, hin s hs⟩
  inPlace := h.inPlace
  apart := h.apart
  whole := by rw [interleave_gapsFrom, h.splicedText_raw (Int.le_refl 0) hin, Text.sliceFrom_zero]
  replaced := interleave_gapsFrom ..

end Fitting

/-! ### When an accepted list is spliced faithfully -/

/-- **Faithful splices.**  If the segments are accepted, then the path, but for its slashes, is a
faithful splice of the segments in order of their starts just if each segment ends at or behind its
start and inside the template. -/
theorem faithfulSplice_iff_inside {o : SlugOptions} {stripped : Text} {segments : List Segment}
    {record : Value} {d : Derived} (h : (resolve o stripped segments record).result = .ok d) :
    (∃ text, FaithfulSplice stripped (·.replacement o record) (inOrder segments) text ∧
        d.path = Path.collapseSlashes text) ↔
      ∀ s ∈ segments, Inside stripped s := by
  obtain ⟨hfits, -, rfl⟩ := result_resolve.1 h
  constructor
  · rintro ⟨text, hfaithful, -⟩ s hs
    exact (hfaithful.inside s (mem_inOrder.2 hs)).2
  · intro hin
    have hin' : ∀ s ∈ inOrder segments, Inside stripped s := fun s hs => hin s (mem_inOrder.1 hs)
    exact ⟨_, hfits.faithfulSplice _ hin', rfl⟩

/-- A segment of the text `raw` that reads one field of the record. -/
def fieldSegment (field raw : Text) (start stop : Int) : Segment :=
  { raw, start, stop, model := ['P'], field, path := [field], markers := [] }

/-- A record with one field `n`, which holds `content`. -/
def fieldRecord (content : Text) : Value := .mapping [(.text ['n'], .text content)]

/-- Two neighbours in `a/{P.n}{P.m}//b`, the second one first. -/
def neighbours : List Segment :=
  [fieldSegment ['m'] "\x7bP.m\x7d".toList 7 12, fieldSegment ['n'] "\x7bP.n\x7d".toList 2 7]

theorem inOrder_neighbours : inOrder neighbours = neighbours.reverse := by
  simp [inOrder, neighbours, List.mergeSort, fieldSegment]

/-- The neighbours at a record that lacks the second one's field. -/
theorem faithfulSplice_neighbours :
    (resolve {} "a/\x7bP.n\x7d\x7bP.m\x7d//b".toList neighbours (fieldRecord "X Y/z".toList)).result
      = .ok ⟨"a/\x7bP.n\x7d\x7bP.m\x7d//b".toList, "a/x-y/z\x7bP.m\x7d/b".toList,
          [fieldSegment ['m'] "\x7bP.m\x7d".toList 7 12]⟩ ∧
    ((∃ text, FaithfulSplice "a/\x7bP.n\x7d\x7bP.m\x7d//b".toList
          (·.replacement {} (fieldRecord "X Y/z".toList)) (inOrder neighbours) text ∧
          "a/x-y/z\x7bP.m\x7d/b".toList = Path.collapseSlashes text) ↔
      ∀ s ∈ neighbours, Inside "a/\x7bP.n\x7d\x7bP.m\x7d//b".toList s) := by
  have h : (resolve {} "a/\x7bP.n\x7d\x7bP.m\x7d//b".toList neighbours
      (fieldRecord "X Y/z".toList)).result = .ok ⟨"a/\x7bP.n\x7d\x7bP.m\x7d//b".toList,
        "a/x-y/z\x7bP.m\x7d/b".toList, [fieldSegment ['m'] "\x7bP.m\x7d".toList 7 12]⟩ := by
    rw [resolve, inOrder_neighbours]
    decide +kernel
  exact ⟨h, faithfulSplice_iff_inside h⟩

/-- Two segments on the first two characters of `abc`; the end of one is counted from the end. -/
def overlapping : List Segment :=
  [fieldSegment ['n'] ['a', 'b'] 0 (-1), fieldSegment ['n'] ['a', 'b'] 0 2]

/-- **Overlapping segments are accepted**, and the two characters are replaced twice. -/
theorem overlapping_segments_accepted :
    ∃ d, (resolve {} ['a', 'b', 'c'] overlapping (fieldRecord ['x'])).result = .ok d ∧
      d.path = ['x', 'x', 'c'] ∧
      ¬ ∃ text, FaithfulSplice ['a', 'b', 'c'] (·.replacement {} (fieldRecord ['x']))
          (inOrder overlapping) text ∧ d.path = Path.collapseSlashes text := by
  have h : (resolve {} ['a', 'b', 'c'] overlapping (fieldRecord ['x'])).result =
      .ok ⟨['a', 'b', 'c'], ['x', 'x', 'c'], []⟩ := by
    rw [resolve_of_pairwise (by decide)]
    decide +kernel
  refine ⟨_, h, rfl, ?_⟩
  rintro ⟨text, h, -⟩
  have hin := h.inside _ (mem_inOrder.2 List.mem_cons_self)
  exact absurd hin.2.1 (by decide)

end Resolution
end Permalink
