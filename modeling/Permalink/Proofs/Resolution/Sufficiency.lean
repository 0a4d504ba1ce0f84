import Permalink.Proofs.Number.Numeral
import Permalink.Proofs.Resolution.Diagnostics
import Permalink.Proofs.Value.Restricted

/-!
# Resolution — what is selected is enough

The selection of a template names the fields to fetch.  Fetching no more than these makes no
difference: the selected part of a plain record gives the path that the whole record gives, with the
same errors, and so does every record with the same selected part (`derive_restrictTo`).

A resolution reads its record through the values of the segments, and to show it
(`result_derive_congr`).  The value of a segment is where its path leads, and each start of that
path is selected, so that the value is the same (`Segment.value_restrictTo`).

But the record is shown as a whole, if a segment does not resolve.  So an integer of too many digits
in a field that is not selected ends a resolution that the selected part comes through
(`derive_unselectedLong`), and this is the only difference that such fields make.
-/

namespace Permalink

open Outcome (ErrorsIn)

/-! ### The value of a segment -/

/-- **The value of a segment is read from what is selected.** -/
theorem Segment.value_restrictTo (o : SlugOptions) {record : Value} (hrecord : record.IsPlain)
    {selection : Selection} {s : Segment}
    (hselected : ∀ p, Selection.IsStart p s.path → p ∈ selection.namePaths) :
    s.value o (record.restrictTo selection) = s.value o record := by
  obtain ⟨found, hfound, -⟩ := hrecord.lookup s.path
  rw [value, value, hrecord.lookupField_eq, (hrecord.restrictTo selection).lookupField_eq,
    hrecord.lookup_restrictTo hselected, hfound]
  cases found with
  | none => rfl
  | some v =>
      -- A mapping gives no value, whatever is kept of it; any other value is kept whole.
      by_cases hshape : v.shape = .mapping
      · exact (if_pos ((Value.shape_restrict _ v).trans hshape)).trans (if_pos hshape).symm
      · have hkept := Value.restrict_of_shape_ne hshape
          fun p => s.path ++ p ∈ selection.namePaths
        rw [Except.map, Option.map_some, hkept]

/-- On a plain record without an integer of too many digits a segment can fail in its slugs
alone. -/
theorem Segment.errorsIn_value_of_plain (o : SlugOptions) {record : Value}
    (hrecord : record.IsPlain) (hlong : ¬ record.HoldsLong) (s : Segment) :
    ErrorsIn Fault.IsOfSlug (s.value o record) := by
  obtain ⟨found, hfound, -⟩ := hrecord.lookup s.path
  rw [value, hrecord.lookupField_eq, hfound]
  cases found with
  | none => exact .ok none
  | some v =>
      obtain ⟨text, htext⟩ : ∃ text, v.toText = .ok text :=
        (Value.failsIff_toText v).exists_ok_iff.2 fun h =>
          hlong (hrecord.holdsLong_of_lookup hfound h)
      change ErrorsIn _ (if v.shape = .mapping then _ else _)
      split
      · exact .ok none
      · exact (SlugOptions.errorsIn_pathSlug_of_toText o htext).bind fun _ => .ok _

namespace Resolution

/-! ### Resolutions -/

/-- A splice over such a record can fail in its slugs alone, if the segments fit. -/
theorem errorsIn_spliceFrom_of_plain {o : SlugOptions} {stripped : Text} {record : Value}
    (hrecord : record.IsPlain) (hlong : ¬ record.HoldsLong) {cursor : Int}
    {segments : List Segment} (hfits : FitsFrom stripped cursor segments) :
    ErrorsIn Fault.IsOfSlug (spliceFrom o stripped record cursor segments).result := by
  obtain ⟨shown, hshown⟩ := hrecord.failsIff_serialize.exists_ok_iff.2 hlong
  induction segments generalizing cursor with
  | nil => exact .ok _
  | cons s rest ih =>
      have hvalue := Segment.errorsIn_value_of_plain o hrecord hlong s
      rw [spliceFrom, if_pos hfits.1, hshown]
      split
      · next fault hfault => exact .error (hvalue fault hfault)
      · exact (ih hfits.2).map _
      · exact (ih hfits.2).map _

theorem FirstUnresolved.congr {o : SlugOptions} {record other : Value} {segments : List Segment}
    {s : Segment} (h : FirstUnresolved o record segments s)
    (hvalue : ∀ s ∈ segments, s.value o other = s.value o record) :
    FirstUnresolved o other segments s := by
  induction h with
  | here hnone => exact .here ((hvalue _ List.mem_cons_self).trans hnone)
  | later hsome _ ih =>
      obtain ⟨hfirst, hrest⟩ := List.forall_mem_cons.1 hvalue
      exact .later (hfirst.trans hsome) (ih hrest)

section Selected

variable {given : Text} {t : Template}

/-- The starts of the paths of an analyzed template are selected.  The names in them have no period,
so that none is taken for a key that opens a type. -/
theorem mem_namePaths_of_analyze (ht : Template.analyze given = .ok t) {s : Segment}
    (hs : s ∈ t.segments) {p : List Text} (hp : Selection.IsStart p s.path) :
    p ∈ (Selection.ofSegments t.segments).namePaths := by
  refine Selection.mem_namePaths_ofSegments hs (fun name hname => ?_) hp
  have hname' : Segment.IsName name :=
    (Template.written_of_analyze ht hs).1.isName_of_mem_path hname
  exact Segment.isFragment_eq_false (hname'.not_mem (by decide) (by decide))

/-- A template that comes to a segment that does not resolve ends on an integer of too many digits
just if the record holds one. -/
theorem result_derive_eq_integerLength_iff (ht : Template.analyze given = .ok t)
    {setting : Option Value} {o : SlugOptions} (ho : SlugOptions.ofValue? setting = .ok o)
    {record : Value} (hrecord : record.IsPlain) {s : Segment}
    (hfirst : FirstUnresolved o record t.segments s) :
    (derive setting given record).result = .error .integerLength ↔ record.HoldsLong := by
  constructor
  · intro h
    by_contra hlong
    obtain ⟨horder, hfits⟩ := fitsFrom_of_analyze ht
    rw [derive_eq_resolve ht ho, resolve, horder] at h
    -- What can fail of a record that can be shown are slugs.
    have hslug := errorsIn_spliceFrom_of_plain (o := o) hrecord hlong hfits
    cases hslug _ (Outcome.map_eq_error.1 h)
  · intro hlong
    have hshown := (hrecord.failsIff_serialize _).2 ⟨rfl, hlong⟩
    rw [derive_of_unshown ht ho hshown hfirst]

/-- **Plain records with the same values for the segments** have the same outcome just if a template
that comes to a segment that does not resolve can show both of them or neither. -/
theorem result_derive_eq_iff (ht : Template.analyze given = .ok t) {setting : Option Value}
    {record other : Value} (hrecord : record.IsPlain) (hother : other.IsPlain)
    (hvalue : ∀ (o : SlugOptions), ∀ s ∈ t.segments, s.value o other = s.value o record) :
    (derive setting given other).result = (derive setting given record).result ↔
      ∀ o s, SlugOptions.ofValue? setting = .ok o → FirstUnresolved o record t.segments s →
        (other.HoldsLong ↔ record.HoldsLong) := by
  constructor
  · intro heq o s ho hfirst
    have hfirst' : FirstUnresolved o other t.segments s := hfirst.congr (hvalue o)
    rw [← result_derive_eq_integerLength_iff ht ho hrecord hfirst,
      ← result_derive_eq_integerLength_iff ht ho hother hfirst', heq]
  · intro hlong
    refine result_derive_congr ht setting hvalue fun o s ho hfirst fault => ?_
    rw [(fitsFrom_of_analyze ht).1] at hfirst
    rw [hother.failsIff_serialize, hrecord.failsIff_serialize, hlong o s ho hfirst]

/-- **What is selected is enough.**  Under any setting, the selected part of a plain record gives by
a template what the record gives, the same path with the same errors or the same fault, in all cases
but one: the template comes to a segment that does not resolve, and the record holds an integer of
too many digits and its selected part none.  Then the record gives the fault of that.

So every plain record of which the same is selected gives the same, whatever stands in the fields
that are not, unless just one of the two holds such an integer. -/
theorem derive_restrictTo (ht : Template.analyze given = .ok t) (setting : Option Value)
    {record : Value} (hrecord : record.IsPlain) :
    ((derive setting given (record.restrictTo (Selection.ofSegments t.segments))).result =
        (derive setting given record).result ↔
      ∀ o s, SlugOptions.ofValue? setting = .ok o → FirstUnresolved o record t.segments s →
        record.HoldsLong → (record.restrictTo (Selection.ofSegments t.segments)).HoldsLong) ∧
    (∀ o s, SlugOptions.ofValue? setting = .ok o → FirstUnresolved o record t.segments s →
      record.HoldsLong → (derive setting given record).result = .error .integerLength) ∧
    ∀ other : Value, other.IsPlain →
      other.restrictTo (Selection.ofSegments t.segments) =
        record.restrictTo (Selection.ofSegments t.segments) →
      ((derive setting given other).result = (derive setting given record).result ↔
        ∀ o s, SlugOptions.ofValue? setting = .ok o → FirstUnresolved o record t.segments s →
          (other.HoldsLong ↔ record.HoldsLong)) := by
  have hvalue : ∀ v : Value, v.IsPlain → ∀ (o : SlugOptions), ∀ s ∈ t.segments,
      s.value o (v.restrictTo (Selection.ofSegments t.segments)) = s.value o v :=
    fun v hv o s hs => Segment.value_restrictTo o hv fun p hp => mem_namePaths_of_analyze ht hs hp
  refine ⟨?_, fun o s ho hfirst => (result_derive_eq_integerLength_iff ht ho hrecord hfirst).2,
    fun other hother hsame => result_derive_eq_iff ht hrecord hother fun o s hs => ?_⟩
  · rw [result_derive_eq_iff ht hrecord (hrecord.restrictTo _) (hvalue record hrecord)]
    have hkept : (record.restrictTo (Selection.ofSegments t.segments)).HoldsLong →
        record.HoldsLong := hrecord.holdsLong_of_restrict
    exact forall₄_congr fun _ _ _ _ => ⟨fun h => h.2, fun h => ⟨hkept, h⟩⟩
  · rw [← hvalue other hother o s hs, hsame, hvalue record hrecord o s hs]

end Selected

/-- The template `{P.a__(T)__b}/{P.a}-{P.c__d}`, in which one path starts another. -/
def nestedPaths : Template :=
  let text := "\x7bP.a__(T)__b\x7d/\x7bP.a\x7d-\x7bP.c__d\x7d".toList
  { given := text, stripped := text
    segments := [Segment.printed ['P'] 0 [.name ['a'], .marker ['T'], .name ['b']],
      Segment.printed ['P'] 14 [.name ['a']], Segment.printed ['P'] 20 [.name ['c'], .name ['d']]]
    model := some ['P'] }

/-- A record with `other` in the fields `e` and `a.e`, which the template does not name. -/
def recordWith (other : Value) : Value :=
  .mapping [(.text ['e'], other),
    (.text ['a'], .mapping [(.text ['b'], .text ['X', ' ', 'Y']), (.text ['e'], other)]),
    (.text ['c'], .mapping [(.text ['d'], .null)])]

/-- What is selected of the record. -/
def selectedRecord : Value :=
  .mapping [(.text ['a'], .mapping [(.text ['b'], .text ['X', ' ', 'Y'])]),
    (.text ['c'], .mapping [(.text ['d'], .null)])]

theorem isPlain_recordWith {other : Value} (h : other.IsPlain) : (recordWith other).IsPlain := by
  have hb : Value.IsPlain (.text ['X', ' ', 'Y']) := .scalar rfl
  have ha : Value.IsPlain (.mapping [(.text ['b'], .text ['X', ' ', 'Y']), (.text ['e'], other)]) :=
    .mapping (by simp) (by simp [hb, h])
  have hc : Value.IsPlain (.mapping [(.text ['d'], .null)]) :=
    .mapping (by simp) (by simp [Value.IsPlain.null])
  exact .mapping (by simp) (by simp [ha, hc, h])

/-- The path and the errors of the template do not depend on the fields that it does not name. -/
theorem derive_restrictTo_recordWith :
    Template.analyze nestedPaths.given = .ok nestedPaths ∧
    (recordWith .null).IsPlain ∧ (recordWith (.bool true)).IsPlain ∧
    (recordWith .null).restrictTo (Selection.ofSegments nestedPaths.segments) = selectedRecord ∧
    (derive none nestedPaths.given selectedRecord).result =
      (derive none nestedPaths.given (recordWith .null)).result ∧
    (derive none nestedPaths.given (recordWith (.bool true))).result =
      (derive none nestedPaths.given (recordWith .null)).result ∧
    (derive none nestedPaths.given (recordWith .null)).result =
      .ok ⟨nestedPaths.stripped, "x-y/\x7bP.a\x7d-\x7bP.c__d\x7d".toList,
        [Segment.printed ['P'] 14 [.name ['a']],
          Segment.printed ['P'] 20 [.name ['c'], .name ['d']]]⟩ := by
  have ht : Template.analyze nestedPaths.given = .ok nestedPaths := by decide
  have hnull : (recordWith .null).IsPlain := isPlain_recordWith .null
  have htrue : (recordWith (.bool true)).IsPlain := isPlain_recordWith (.scalar rfl)
  have hselected : ∀ other, (recordWith other).restrictTo
      (Selection.ofSegments nestedPaths.segments) = selectedRecord := fun _ => rfl
  have hnullShown : ¬ (recordWith .null).HoldsLong :=
    hnull.failsIff_serialize.exists_ok_iff.1 ⟨_, rfl⟩
  have htrueShown : ¬ (recordWith (.bool true)).HoldsLong :=
    htrue.failsIff_serialize.exists_ok_iff.1 ⟨_, rfl⟩
  obtain ⟨hpart, -, hsame⟩ := derive_restrictTo ht none hnull
  rw [hselected] at hpart hsame
  refine ⟨ht, hnull, htrue, hselected _, hpart.2 fun _ _ _ _ h => absurd h hnullShown,
    (hsame _ htrue (hselected _)).2 fun _ _ _ _ => iff_of_false htrueShown hnullShown, ?_⟩
  rw [derive_eq_resolve ht rfl, resolve_of_pairwise (by decide)]
  decide +kernel

/-- A record with nothing but an integer of one digit too many, in the field `big`. -/
def unselectedLong : Value := .mapping [(.text "big".toList, .int (10 ^ Fault.digitLimit))]

/-- **A field that is not selected and ends a resolution.**  Nothing is selected of the record, and
the empty record gives a path with two errors. -/
theorem derive_unselectedLong :
    Template.analyze twoFields.given = .ok twoFields ∧ unselectedLong.IsPlain ∧
    unselectedLong.restrictTo (Selection.ofSegments twoFields.segments) = .mapping [] ∧
    (derive none twoFields.given (.mapping [])).result =
      .ok ⟨twoFields.stripped, twoFields.stripped, twoFields.segments⟩ ∧
    (derive none twoFields.given unselectedLong).result = .error .integerLength := by
  have ht : Template.analyze twoFields.given = .ok twoFields := by decide
  have ho : SlugOptions.ofValue? none = .ok {} := rfl
  have hplain : unselectedLong.IsPlain := .mapping (by simp) (by simpa using .scalar rfl)
  -- The integer is kept out of what is computed.
  have hselected : ∀ n, Value.restrictTo (Selection.ofSegments twoFields.segments)
      (.mapping [(.text "big".toList, .int n)]) = .mapping [] := fun n => rfl
  have hvalue : ∀ n, (Segment.printed ['P'] 0 [.name ['a']]).value {}
      (.mapping [(.text "big".toList, .int n)]) = .ok none := fun n => rfl
  have hfirst : FirstUnresolved {} unselectedLong twoFields.segments _ := .here (hvalue _)
  have hlong : unselectedLong.HoldsLong := .entry List.mem_cons_self (.int Decimal.isLong_pow)
  refine ⟨ht, hplain, hselected _, ?_,
    (result_derive_eq_integerLength_iff ht ho hplain hfirst).2 hlong⟩
  rw [derive_eq_resolve ht ho, resolve_of_pairwise (by decide)]
  decide +kernel

end Resolution
end Permalink
