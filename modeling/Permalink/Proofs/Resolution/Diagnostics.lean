import Permalink.Proofs.Resolution.Choice
import Permalink.Proofs.Resolution.Trace
import Permalink.Proofs.Template.Canonical
import Permalink.Proofs.Value.Data

/-!
# Resolution — segments that do not resolve

A segment that does not resolve is reported and kept, and the resolution goes on with the next one:
if the record can be shown.  If it cannot, since there is a key, a part or an integer in it that has
no form as data (`Value.Formless`), the resolution ends there.  Of the first segment that does not
resolve only the line that names it has been reported, and of the others nothing
(`derive_of_unshown`).

* `derive_returns_iff`: where every segment can be looked up and made a slug, a template gives a
  path with all its errors and reports just if the record can be shown or nothing is to be reported.
* `derive_tuple_key`: a record that cannot be shown.
-/

namespace Permalink

open Value (Formless)

/-- A segment settles if it resolves, and otherwise if the record can be shown. -/
theorem Segment.settles_iff {o : SlugOptions} {record : Value} {s : Segment}
    (hvalue : ∃ found, s.value o record = .ok found) :
    s.Settles o record ↔ (Formless record → s.isUnresolved o record = false) := by
  obtain ⟨found, hvalue⟩ := hvalue
  cases found with
  | some text => simp [Settles, isUnresolved, hvalue]
  | none => simp [Settles, isUnresolved, hvalue, Value.exists_serialize_iff]

namespace Resolution

variable {o : SlugOptions} {stripped : Text} {record : Value} {segments : List Segment}
  {s : Segment}

/-- Where no value fails, the first segment that does not resolve has values in front of it. -/
theorem firstUnresolved_of_find? (hvalue : ∀ s ∈ segments, ∃ found, s.value o record = .ok found)
    (hfirst : segments.find? (·.isUnresolved o record) = some s) :
    FirstUnresolved o record segments s := by
  induction segments with
  | nil => cases hfirst
  | cons a rest ih =>
      obtain ⟨⟨found, ha⟩, hrest⟩ := List.forall_mem_cons.1 hvalue
      cases found with
      | some text =>
          have hresolves : a.isUnresolved o record = false := by rw [Segment.isUnresolved, ha]
          rw [List.find?_cons, hresolves] at hfirst
          exact .later ha (ih hrest hfirst)
      | none =>
          have hunresolved : a.isUnresolved o record = true := by rw [Segment.isUnresolved, ha]
          rw [List.find?_cons, hunresolved] at hfirst
          obtain rfl := Option.some.inj hfirst
          exact .here ha

section Derive

variable {given : Text} {t : Template} {setting : Option Value}

/-- The segments of an analyzed template fit it as they stand. -/
theorem fitsFrom_of_analyze (ht : Template.analyze given = .ok t) :
    inOrder t.segments = t.segments ∧ FitsFrom t.stripped 0 t.segments := by
  obtain ⟨parts, hlayout⟩ := Template.exists_layout_of_analyze ht
  exact ⟨inOrder_of_perm hlayout.placed (List.Perm.refl _), fitsFrom_zero_of_placed hlayout.placed⟩

/-- A template gives nothing but a line and a fault on a record that cannot be shown, if it comes to
a segment that does not resolve. -/
theorem derive_of_unshown (ht : Template.analyze given = .ok t)
    (ho : SlugOptions.ofValue? setting = .ok o) {fault : Fault}
    (hshown : record.serialize = .error fault)
    (hfirst : FirstUnresolved o record t.segments s) :
    derive setting given record = ⟨[s.errorLine], .error fault⟩ := by
  obtain ⟨horder, hfits⟩ := fitsFrom_of_analyze ht
  rw [derive_eq_resolve ht ho, resolve, horder, spliceFrom_of_unshown hshown hfits hfirst]
  rfl

/-- **When segments that do not resolve are reported and nothing fails.**  Let every segment of an
analyzed template be looked up and made a slug without a fault.  The template gives a path, with an
error for each segment that does not resolve and both reports on each of them, just if the record
can be shown or all segments resolve.

Which records cannot be shown depends on their keys, outside of models, on the ranges, the bytes and
the keys in their models, and on the lengths of their integers.  On such a record the first segment
that does not resolve ends the resolution, with the line that names it as the only report. -/
theorem derive_returns_iff (ht : Template.analyze given = .ok t)
    (ho : SlugOptions.ofValue? setting = .ok o)
    (hvalue : ∀ s ∈ t.segments, ∃ found, s.value o record = .ok found) :
    ((∃ d, (derive setting given record).result = .ok d ∧
        d.errors = t.segments.filter (·.isUnresolved o record) ∧
        Trace record d.errors (derive setting given record).reports) ↔
      (Formless record → ∀ s ∈ t.segments, s.isUnresolved o record = false)) ∧
    ((∃ fault, record.serialize = .error fault) ↔ Formless record) ∧
    ∀ fault s, record.serialize = .error fault →
      t.segments.find? (·.isUnresolved o record) = some s →
      derive setting given record = ⟨[s.errorLine], .error fault⟩ := by
  obtain ⟨horder, hfits⟩ := fitsFrom_of_analyze ht
  have hsettles : (∀ s ∈ t.segments, s.Settles o record) ↔
      (Formless record → ∀ s ∈ t.segments, s.isUnresolved o record = false) := by
    constructor
    · intro h hformless s hs
      exact (Segment.settles_iff (hvalue s hs)).1 (h s hs) hformless
    · intro h s hs
      exact (Segment.settles_iff (hvalue s hs)).2 fun hformless => h hformless s hs
  refine ⟨?_, Value.exists_serialize_eq_error_iff,
    fun fault s hshown hfirst =>
      derive_of_unshown ht ho hshown (firstUnresolved_of_find? hvalue hfirst)⟩
  rw [derive_eq_resolve ht ho, ← hsettles]
  constructor
  · rintro ⟨d, hd, -⟩
    rw [← horder]
    exact (result_resolve.1 hd).2.1
  · intro hall
    -- Segments that fit and settle give a path, and a run that gives one reports their trace.
    rw [← horder] at hfits hall
    have hok := result_resolve.2 ⟨hfits, hall, rfl⟩
    obtain ⟨r, hrun, -⟩ := Outcome.map_eq_ok.1 hok
    refine ⟨_, hok, ?_, reports_of_ok hrun⟩
    rw [horder]

end Derive

/-- The template `{P.a}/{P.b}`. -/
def twoFields : Template :=
  let text := "\x7bP.a\x7d/\x7bP.b\x7d".toList
  { given := text, stripped := text
    segments := [Segment.printed ['P'] 0 [.name ['a']], Segment.printed ['P'] 6 [.name ['b']]]
    model := some ['P'] }

/-- A record that has the first field, and a model that holds a set. -/
def modelRecord : Value :=
  .mapping [(.text ['a'], .text ['X']),
    (.text ['c'], .model ['M'] false [(['d'], .items .set [.int 1])] [])]

/-- The second field is an error of the path, and is reported with the record. -/
theorem derive_returns_iff_model :
    ∃ d, (derive none twoFields.given modelRecord).result = .ok d ∧
      d.errors = [Segment.printed ['P'] 6 [.name ['b']]] ∧
      Trace modelRecord d.errors (derive none twoFields.given modelRecord).reports := by
  have ht : Template.analyze twoFields.given = .ok twoFields := by decide
  have hvalue : ∀ s ∈ twoFields.segments, ∃ found, s.value {} modelRecord = .ok found := by
    intro s hs
    rcases List.mem_pair.1 hs with rfl | rfl
    · exact ⟨some ['x'], by decide +kernel⟩
    · exact ⟨none, by decide +kernel⟩
  have hshown : ¬ Formless modelRecord := Value.exists_serialize_iff.1 ⟨_, rfl⟩
  have ho : SlugOptions.ofValue? none = .ok {} := rfl
  obtain ⟨d, hd, herrors, htrace⟩ :=
    (derive_returns_iff ht ho hvalue).1.2 fun hformless => absurd hformless hshown
  exact ⟨d, hd, herrors.trans (by decide +kernel), htrace⟩

/-- A record with neither field, in which a mapping has a tuple as a key. -/
def tupleKeyRecord : Value :=
  .mapping [(.text ['c'], .mapping [(.items .tuple [.int 1], .int 2)])]

/-- **A tuple as a key.**  Neither field resolves.  The first one is named, the record is not shown,
and the second one is not reached. -/
theorem derive_tuple_key :
    Template.analyze twoFields.given = .ok twoFields ∧
    (∀ s ∈ twoFields.segments, s.value {} tupleKeyRecord = .ok none) ∧
    derive none twoFields.given tupleKeyRecord =
      ⟨[(Segment.printed ['P'] 0 [.name ['a']]).errorLine], .error (.key "tuple".toList)⟩ := by
  have ht : Template.analyze twoFields.given = .ok twoFields := by decide
  have ho : SlugOptions.ofValue? none = .ok {} := rfl
  have hvalue : ∀ s ∈ twoFields.segments, s.value {} tupleKeyRecord = .ok none := by
    intro s hs
    rcases List.mem_pair.1 hs with rfl | rfl
    · decide +kernel
    · decide +kernel
  have hfirst : FirstUnresolved {} tupleKeyRecord twoFields.segments _ :=
    .here (hvalue _ List.mem_cons_self)
  exact ⟨ht, hvalue, derive_of_unshown ht ho rfl hfirst⟩

end Resolution
end Permalink
