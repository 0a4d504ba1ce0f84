import Mathlib.Data.List.Duplicate
import Mathlib.Data.List.Perm.Subperm
import Permalink.Proofs.Resolution.Faults
import Permalink.Proofs.Resolution.Placement
import Permalink.Proofs.Template.Offsets

/-!
# Resolution — any choice of a template's segments

A resolution can be given some of the segments of an analyzed template, in any order.  They always
fit the template.  The order makes no difference, since each segment says by its start where it
belongs; and the path is that of the template in which the segments given are replaced and the
others stay as they are (`resolve_choice`).  Only no segment may be given twice.

The segments given, put in order, are those of the template filtered by whether they are given
(`inOrder_eq_filter`).  A segment that is left out is copied with the text around it, which is what
putting its own text in its place does (`splicedText_filter`).
-/

namespace Permalink

namespace Text

/-- Two slices of a text that meet. -/
theorem slice_append_slice {t : Text} {i j k : Int} (hi : 0 ≤ i) (hij : i ≤ j) (hjk : j ≤ k)
    (hk : k ≤ t.length) : slice t i j ++ slice t j k = slice t i k := by
  have htail : slice t i j ++ slice t j k ++ sliceFrom t k = slice t i k ++ sliceFrom t k := by
    rw [List.append_assoc, slice_append_sliceFrom (Int.le_trans hi hij) hjk hk,
      slice_append_sliceFrom hi hij (Int.le_trans hjk hk),
      slice_append_sliceFrom hi (Int.le_trans hij hjk) hk]
  exact List.append_cancel_right htail

end Text

namespace Resolution

open Template

variable {text : Text} {segments : List Segment}

/-! ### Segments that stand in the text -/

/-- Segments that stand in the text fit it. -/
theorem fitsFrom_of_placed (h : Placed text segments) {cursor : Int}
    (hcursor : ∀ s ∈ segments, cursor ≤ s.start) : FitsFrom text cursor segments := by
  induction segments generalizing cursor with
  | nil => exact trivial
  | cons s rest ih =>
      obtain ⟨⟨-, hraw, hapart⟩, hrest⟩ := Placed.cons_iff.1 h
      exact ⟨fits_iff.2 ⟨hcursor s List.mem_cons_self, hraw⟩, ih hrest hapart⟩

theorem fitsFrom_zero_of_placed (h : Placed text segments) : FitsFrom text 0 segments :=
  fitsFrom_of_placed h fun s hs => (h.inside s hs).1

theorem inside_of_placed (h : Placed text segments) : ∀ s ∈ segments, Inside text s := fun s hs =>
  ⟨Int.le_of_lt (h.inside s hs).2.1, (h.inside s hs).2.2⟩

/-- Their starts say in which order they belong. -/
theorem inOrder_of_perm (h : Placed text segments) {given : List Segment}
    (hgiven : given.Perm segments) : inOrder given = segments := by
  have hperm : (inOrder given).Perm segments := (perm_inOrder given).trans hgiven
  have hinj : ∀ a b, a ∈ inOrder given → b ∈ segments → a.start ≤ b.start → b.start ≤ a.start →
      a = b := fun a b ha hb hab hba =>
    h.eq_of_start_eq (hperm.mem_iff.1 ha) hb (Int.le_antisymm hab hba)
  exact List.Perm.eq_of_pairwise hinj (pairwise_inOrder given)
    (h.pairwise_start.imp Int.le_of_lt) hperm

/-! ### Segments that are left out -/

/-- Copying up to `stop` and splicing from there is splicing from `cursor`. -/
theorem slice_append_splicedText (place : Segment → Text) (h : Placed text segments)
    {cursor stop : Int} (hcursor : 0 ≤ cursor) (hle : cursor ≤ stop) (hstop : stop ≤ text.length)
    (hstart : ∀ s ∈ segments, stop ≤ s.start) :
    text.slice cursor stop ++ splicedText text place stop segments =
      splicedText text place cursor segments := by
  cases segments with
  | nil => exact Text.slice_append_sliceFrom hcursor hle hstop
  | cons s rest =>
      have hs : stop ≤ s.start := hstart s List.mem_cons_self
      have hinside := h.inside s List.mem_cons_self
      rw [splicedText, splicedText, ← List.append_assoc, ← List.append_assoc,
        Text.slice_append_slice hcursor hle hs (by omega)]

/-- **A segment that is left out** is copied, as if its own text were put in its place. -/
theorem splicedText_filter (place : Segment → Text) (p : Segment → Bool)
    (h : Placed text segments) {cursor : Int} (hcursor : 0 ≤ cursor)
    (hstart : ∀ s ∈ segments, cursor ≤ s.start) :
    splicedText text place cursor (segments.filter p) =
      splicedText text (fun s => if p s then place s else s.raw) cursor segments := by
  induction segments generalizing cursor with
  | nil => rfl
  | cons s rest ih =>
      obtain ⟨⟨⟨hs, hle, hstop⟩, hraw, hapart⟩, hrest⟩ := Placed.cons_iff.1 h
      have hcs : cursor ≤ s.start := hstart s List.mem_cons_self
      have ih := ih hrest (Int.le_trans hs (Int.le_of_lt hle)) hapart
      rw [List.filter_cons, splicedText]
      split
      · rw [splicedText, ih]
      · -- The gap, the text of the segment and the gap behind it are one gap.
        have hleft : Placed text (rest.filter p) := hrest.sublist List.filter_sublist
        have hapart' : ∀ b ∈ rest.filter p, s.stop ≤ b.start := fun b hb =>
          hapart b (List.mem_of_mem_filter hb)
        rw [← ih, ← hraw, Text.slice_append_slice hcursor hcs (Int.le_of_lt hle) hstop,
          slice_append_splicedText place hleft hcursor (by omega) hstop hapart']

/-! ### Any choice of segments -/

/-- Segments given from among those of a text, put in order, are those that are given. -/
theorem inOrder_eq_filter (h : Placed text segments) {given : List Segment}
    (hgiven : given.Subperm segments) : inOrder given = segments.filter (· ∈ given) := by
  obtain ⟨l, hperm, hl⟩ := hgiven
  have hnodup : given.Nodup := hperm.nodup_iff.1 (h.nodup.sublist hl)
  have hmem : ∀ s, s ∈ given ↔ s ∈ segments.filter (· ∈ given) := fun s => by
    rw [List.mem_filter, decide_eq_true_eq]
    exact (and_iff_right_of_imp fun hs => hl.subset (hperm.mem_iff.2 hs)).symm
  -- Neither list has a segment twice, so that to have the same members is to be a permutation.
  have hfilter : given.Perm (segments.filter (· ∈ given)) :=
    (List.perm_ext_iff_of_nodup hnodup (h.nodup.filter _)).2 hmem
  exact inOrder_of_perm (h.sublist List.filter_sublist) hfilter

theorem fitsFrom_inOrder (h : Placed text segments) {given : List Segment}
    (hgiven : given.Subperm segments) : FitsFrom text 0 (inOrder given) := by
  rw [inOrder_eq_filter h hgiven]
  exact fitsFrom_zero_of_placed (h.sublist List.filter_sublist)

/-- The order in which they are given makes no difference. -/
theorem inOrder_eq_of_perm (h : Placed text segments) {given other : List Segment}
    (hgiven : given.Subperm segments) (hother : other.Perm given) :
    inOrder other = inOrder given := by
  rw [inOrder_eq_filter h hgiven, inOrder_eq_filter h (hother.subperm_right.2 hgiven)]
  exact List.filter_congr fun s _ => by simp [hother.mem_iff]

/-! ### Segments given twice -/

/-- Segments in order that fit start behind the cursor, not only the first of them. -/
theorem FitsFrom.cursor_le {cursor : Int} (h : FitsFrom text cursor segments)
    (horder : segments.Pairwise fun a b => a.start ≤ b.start) :
    ∀ s ∈ segments, cursor ≤ s.start := by
  cases segments with
  | nil => simp
  | cons s rest =>
      have hs : cursor ≤ s.start := (fits_iff.1 h.1).1
      exact List.forall_mem_cons.2
        ⟨hs, fun b hb => Int.le_trans hs ((List.pairwise_cons.1 horder).1 b hb)⟩

/-- Of two segments in order that fit, the second starts behind the end of the first. -/
theorem FitsFrom.pairwise {cursor : Int} (h : FitsFrom text cursor segments)
    (horder : segments.Pairwise fun a b => a.start ≤ b.start) :
    segments.Pairwise fun a b => a.stop ≤ b.start := by
  induction segments generalizing cursor with
  | nil => exact .nil
  | cons s rest ih =>
      have hrest := (List.pairwise_cons.1 horder).2
      exact List.pairwise_cons.2 ⟨h.2.cursor_le hrest, ih h.2 hrest⟩

/-- No list with a segment twice is accepted, whatever else is in it: the segment would have to
start at or behind its own end. -/
theorem result_ne_ok_of_two_le_count {o : SlugOptions} {record : Value} {given : List Segment}
    {s : Segment} (hs : s.start < s.stop) (htwice : 2 ≤ given.count s) (d : Derived) :
    (resolve o text given record).result ≠ .ok d := by
  intro h
  obtain ⟨hfits, -, -⟩ := result_resolve.1 h
  have hsub : [s, s].Sublist (inOrder given) := by
    rw [← List.duplicate_iff_sublist, List.duplicate_iff_two_le_count,
      (perm_inOrder given).count_eq]
    exact htwice
  have hself := (hfits.pairwise (pairwise_inOrder given)).sublist hsub
  have hle : s.stop ≤ s.start := List.rel_of_pairwise_cons hself List.mem_cons_self
  omega

/-! ### Resolving a choice -/

/-- What takes the place of a segment of a template if only the segments `given` are resolved. -/
def placeOf (o : SlugOptions) (record : Value) (given : List Segment) (s : Segment) : Text :=
  if s ∈ given then s.replacement o record else s.raw

section Choice

variable {o : SlugOptions} {record : Value} {given : List Segment}

/-- It is not for the choice that a resolution fails. -/
theorem exists_resolve_iff (h : Placed text segments) (hgiven : given.Subperm segments) :
    (∃ d, (resolve o text given record).result = .ok d) ↔ ∀ s ∈ given, s.Settles o record := by
  constructor
  · rintro ⟨d, hd⟩ s hs
    exact (result_resolve.1 hd).2.1 s (mem_inOrder.2 hs)
  · intro hsettles
    have hall : ∀ s ∈ inOrder given, s.Settles o record := fun s hs =>
      hsettles s (mem_inOrder.1 hs)
    exact ⟨_, result_resolve.2 ⟨fitsFrom_inOrder h hgiven, hall, rfl⟩⟩

/-- The path is spliced as if all segments were given, those left out with their own texts. -/
theorem exists_faithfulSplice_of_resolve (h : Placed text segments)
    (hgiven : given.Subperm segments) {d : Derived}
    (hd : (resolve o text given record).result = .ok d) :
    ∃ spliced, FaithfulSplice text (placeOf o record given) segments spliced ∧
      d.path = Path.collapseSlashes spliced := by
  obtain ⟨-, -, rfl⟩ := result_resolve.1 hd
  refine ⟨_, (fitsFrom_zero_of_placed h).faithfulSplice _ (inside_of_placed h), ?_⟩
  dsimp only
  rw [inOrder_eq_filter h hgiven,
    splicedText_filter _ _ h (Int.le_refl 0) fun s hs => (h.inside s hs).1]
  simp only [decide_eq_true_eq]
  rfl

theorem errors_of_resolve (h : Placed text segments) (hgiven : given.Subperm segments)
    {d : Derived} (hd : (resolve o text given record).result = .ok d) :
    d.errors = segments.filter fun s => s ∈ given && s.isUnresolved o record := by
  obtain ⟨-, -, rfl⟩ := result_resolve.1 hd
  dsimp only
  rw [inOrder_eq_filter h hgiven, List.filter_filter]
  exact List.filter_congr fun s _ => Bool.and_comm _ _

end Choice

/-- **Any choice of segments.**  Let segments of an analyzed template be given, in any order.

* The template is not found malformed, and the resolution ends without a fault just if every segment
  given settles.
* The outcome, reports included, does not depend on the order.
* The path is, but for its slashes, the template with the segments given replaced and the others
  left; the errors are those of the segments given that do not resolve, in order.

No list with a segment of the template twice is accepted. -/
theorem resolve_choice {given : Text} {t : Template} (ht : analyze given = .ok t) (o : SlugOptions)
    (record : Value) :
    (∀ chosen : List Segment, chosen.Subperm t.segments →
      (∀ m, (resolve o t.stripped chosen record).result ≠ .error (.malformed m)) ∧
      ((∃ d, (resolve o t.stripped chosen record).result = .ok d) ↔
        ∀ s ∈ chosen, s.Settles o record) ∧
      (∀ other : List Segment, other.Perm chosen →
        resolve o t.stripped other record = resolve o t.stripped chosen record) ∧
      ∀ d, (resolve o t.stripped chosen record).result = .ok d →
        (∃ text, FaithfulSplice t.stripped (placeOf o record chosen) t.segments text ∧
          d.path = Path.collapseSlashes text) ∧
        d.errors = t.segments.filter fun s => s ∈ chosen && s.isUnresolved o record) ∧
    ∀ (twice : List Segment) (s : Segment), s ∈ t.segments → 2 ≤ twice.count s →
      ∀ d, (resolve o t.stripped twice record).result ≠ .ok d := by
  obtain ⟨parts, hlayout⟩ := exists_layout_of_analyze ht
  have hplaced := hlayout.placed
  refine ⟨fun chosen hchosen => ⟨fun m h => ?_, exists_resolve_iff hplaced hchosen,
    fun other hother => ?_, fun d hd => ⟨exists_faithfulSplice_of_resolve hplaced hchosen hd,
      errors_of_resolve hplaced hchosen hd⟩⟩, fun twice s hs htwice =>
    result_ne_ok_of_two_le_count (hplaced.inside s hs).2.1 htwice⟩
  · have hfits := fitsFrom_inOrder hplaced hchosen
    exact (hfits.not_malformed o record).map _ _ h m rfl
  · rw [resolve, resolve, inOrder_eq_of_perm hplaced hchosen hother]

/-- The template `a/{P.n}//{P.m}-{P.n}`. -/
def repeated : Template :=
  { given := "a/\x7bP.n\x7d//\x7bP.m\x7d-\x7bP.n\x7d".toList
    stripped := "a/\x7bP.n\x7d//\x7bP.m\x7d-\x7bP.n\x7d".toList
    segments := [fieldSegment ['n'] "\x7bP.n\x7d".toList 2 7,
      fieldSegment ['m'] "\x7bP.m\x7d".toList 9 14, fieldSegment ['n'] "\x7bP.n\x7d".toList 15 20]
    model := some ['P'] }

/-- Its last two segments, the last one first. -/
def lastTwo : List Segment :=
  [fieldSegment ['n'] "\x7bP.n\x7d".toList 15 20, fieldSegment ['m'] "\x7bP.m\x7d".toList 9 14]

theorem inOrder_lastTwo : inOrder lastTwo = lastTwo.reverse := by
  simp [inOrder, lastTwo, List.mergeSort, fieldSegment]

/-- What a record without the field `m` makes of the last two segments. -/
def lastTwoPath : Derived :=
  { template := repeated.stripped
    path := "a/\x7bP.n\x7d/\x7bP.m\x7d-x-y".toList
    errors := [fieldSegment ['m'] "\x7bP.m\x7d".toList 9 14] }

/-- The last two segments, in either order, and the first one twice. -/
theorem resolve_choice_lastTwo :
    analyze repeated.given = .ok repeated ∧ lastTwo.Subperm repeated.segments ∧
    lastTwo.reverse.Perm lastTwo ∧
    (∀ m, (resolve {} repeated.stripped lastTwo (fieldRecord "X Y".toList)).result ≠
      .error (.malformed m)) ∧
    (resolve {} repeated.stripped lastTwo (fieldRecord "X Y".toList)).result = .ok lastTwoPath ∧
    resolve {} repeated.stripped lastTwo.reverse (fieldRecord "X Y".toList) =
      resolve {} repeated.stripped lastTwo (fieldRecord "X Y".toList) ∧
    (∃ text, FaithfulSplice repeated.stripped (placeOf {} (fieldRecord "X Y".toList) lastTwo)
      repeated.segments text ∧ lastTwoPath.path = Path.collapseSlashes text) ∧
    ∀ d, (resolve {} repeated.stripped
      (repeated.segments ++ [fieldSegment ['n'] "\x7bP.n\x7d".toList 2 7])
      (fieldRecord "X Y".toList)).result ≠ .ok d := by
  have ht : analyze repeated.given = .ok repeated := by decide
  have hsub : lastTwo.Subperm repeated.segments := by decide
  have hperm : lastTwo.reverse.Perm lastTwo := List.reverse_perm lastTwo
  have hpath : (resolve {} repeated.stripped lastTwo (fieldRecord "X Y".toList)).result =
      .ok lastTwoPath := by
    rw [resolve, inOrder_lastTwo]
    decide +kernel
  obtain ⟨hchoice, htwice⟩ := resolve_choice ht {} (fieldRecord "X Y".toList)
  obtain ⟨hfits, -, horder, hplaced⟩ := hchoice lastTwo hsub
  exact ⟨ht, hsub, hperm, hfits, hpath, horder _ hperm, (hplaced _ hpath).1,
    htwice _ (fieldSegment ['n'] "\x7bP.n\x7d".toList 2 7) (by decide) (by decide)⟩

end Resolution
end Permalink
