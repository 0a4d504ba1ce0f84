import Permalink.Proofs.Resolution.Splice
import Permalink.Proofs.Value.Data

/-!
# Resolution — where faults come from

Looking up a path, making a slug and showing a record can fail, but no such fault concerns the
template: it is never that the template is malformed (`errorsIn_value`, `errorsIn_serialize`).  So a
resolution finds its template malformed only over a segment that does not fit
(`FitsFrom.not_malformed`).
-/

namespace Permalink

open Outcome (ErrorsIn FailsIff)

/-- The fault is not that a template is malformed. -/
def Fault.NotMalformed (f : Fault) : Prop := ∀ m, f ≠ .malformed m

/-- An integer of too many digits is no matter of templates. -/
theorem Outcome.FailsIff.notMalformed {α : Type} {Q : Prop} {x : Except Fault α}
    (h : FailsIff .integerLength Q x) : ErrorsIn Fault.NotMalformed x :=
  h.errorsIn.mono fun f hf => by
    rw [hf]
    exact nofun

/-! ### Looking up -/

namespace Value

theorem errorsIn_index? (name : Text) : ErrorsIn Fault.NotMalformed (index? name) := by
  unfold index?
  split
  · exact .ok none
  · dsimp only
    split
    · exact .error nofun
    · split
      · exact .ok _
      · exact .error nofun

theorem errorsIn_count (p : Progression) : ErrorsIn Fault.NotMalformed p.count := by
  unfold Progression.count
  split
  · exact .ok _
  · exact .error nofun

theorem errorsIn_item? (v : Value) (i : Nat) : ErrorsIn Fault.NotMalformed (v.item? i) := by
  unfold item?
  split
  · exact .ok _
  · exact .ok _
  · exact (errorsIn_count _).map _
  · exact .ok none

theorem errorsIn_child? (v : Value) (name : Text) :
    ErrorsIn Fault.NotMalformed (v.child? name) := by
  have hitem : ErrorsIn Fault.NotMalformed (v.itemNamed? name) := by
    refine (errorsIn_index? name).bind fun index => ?_
    cases index with
    | none => exact .ok none
    | some i => exact errorsIn_item? v i
  have hslot : ErrorsIn Fault.NotMalformed (v.slot? name) := by
    unfold slot?
    split
    · exact .ok _
    · exact .ok _
    · split
      · exact hitem
      · exact .ok none
  exact hslot.map _

theorem errorsIn_lookup : ∀ (path : List Text) (v : Value),
    ErrorsIn Fault.NotMalformed (v.lookup path)
  | [], v => .ok v.defined
  | name :: path, v => by
      refine (errorsIn_child? v name).bind fun found => ?_
      cases found with
      | none => exact .ok none
      | some w => exact errorsIn_lookup path w

theorem errorsIn_lookupField (record : Value) (path : List Text) :
    ErrorsIn Fault.NotMalformed (record.lookupField path) := by
  have hfirst : ErrorsIn Fault.NotMalformed record.firstOfGroup := by
    refine (errorsIn_child? record _).bind fun found => ?_
    cases found with
    | none => exact .ok none
    | some group =>
        dsimp only
        split
        · exact errorsIn_child? group _
        · exact .ok none
  refine hfirst.bind fun item => ?_
  cases item with
  | none => exact errorsIn_lookup path record
  | some item =>
      refine (errorsIn_lookup path item).bind fun found => ?_
      cases found with
      | none => exact errorsIn_lookup path record
      | some w => exact .ok (some w)

/-! ### Showing a record -/

theorem errorsIn_entryName (v : Value) : ErrorsIn Fault.NotMalformed (entryName v) := by
  unfold entryName
  split
  case h_5 n => exact (Decimal.failsIff_write n).notMalformed
  all_goals first | exact .ok _ | exact .error nofun

theorem errorsIn_encodedText (content : List UInt8) :
    ErrorsIn Fault.NotMalformed (encodedText content) := by
  unfold encodedText
  split
  · exact .ok _
  · exact .error nofun

mutual

theorem errorsIn_modelEntryName : ∀ k : Value, ErrorsIn Fault.NotMalformed (modelEntryName k)
  | .bool _ => .ok _
  | .bytes _ content => errorsIn_encodedText content
  | .range _ => .error nofun
  | .items .tuple xs => (errorsIn_modelEntryNames xs).map _
  | .null | .int _ | .real _ | .text _ | .date _ | .items .list _ | .items .set _ | .mapping _
  | .model .. => by
      rw [modelEntryName]
      · exact (failsIff_shown _).notMalformed
      all_goals nofun

theorem errorsIn_modelEntryNames :
    ∀ xs : List Value, ErrorsIn Fault.NotMalformed (modelEntryNames xs)
  | [] => .ok []
  | x :: xs =>
      (errorsIn_modelEntryName x).bind fun _ => (errorsIn_modelEntryNames xs).bind fun _ => .ok _

end

mutual

theorem errorsIn_modelData : ∀ v : Value, ErrorsIn Fault.NotMalformed (modelData v)
  | .null => .ok _
  | .bool _ => .ok _
  | .int _ => .ok _
  | .real _ => .ok _
  | .text _ => .ok _
  | .bytes _ content => (errorsIn_encodedText content).map _
  | .date _ => .ok _
  | .range _ => .error nofun
  | .items _ xs => (errorsIn_modelItems xs).map _
  | .mapping entries => (errorsIn_modelEntries entries).map _
  | .model _ _ fields extra =>
      (errorsIn_modelFields fields).bind fun _ => (errorsIn_modelFields extra).bind fun _ => .ok _

theorem errorsIn_modelItems : ∀ xs : List Value, ErrorsIn Fault.NotMalformed (modelItems xs)
  | [] => .ok []
  | x :: xs => (errorsIn_modelData x).bind fun _ => (errorsIn_modelItems xs).bind fun _ => .ok _

theorem errorsIn_modelEntries :
    ∀ entries : List (Value × Value), ErrorsIn Fault.NotMalformed (modelEntries entries)
  | [] => .ok []
  | (k, v) :: rest =>
      (errorsIn_modelEntryName k).bind fun _ => (errorsIn_modelData v).bind fun _ =>
        (errorsIn_modelEntries rest).bind fun _ => .ok _

theorem errorsIn_modelFields :
    ∀ fields : List (Text × Value), ErrorsIn Fault.NotMalformed (modelFields fields)
  | [] => .ok []
  | (_, v) :: rest =>
      (errorsIn_modelData v).bind fun _ => (errorsIn_modelFields rest).bind fun _ => .ok _

end

mutual

theorem errorsIn_write (level : Nat) : ∀ v : Value, ErrorsIn Fault.NotMalformed (write level v)
  | .null => .ok _
  | .bool _ | .int _ | .real _ | .text _ | .date _ | .bytes .. | .items .set _ =>
      (failsIff_write_of_scalar rfl level).notMalformed
  | .range p => ((failsIff_shown (range p)).map _).notMalformed
  | .items .list xs => (errorsIn_writeItems (level + 1) xs).map _
  | .items .tuple xs => (errorsIn_writeItems (level + 1) xs).map _
  | .mapping entries => (errorsIn_writeEntries (level + 1) entries).map _
  | .model .. => (errorsIn_modelData _).bind fun j => (Json.failsIff_write level j).notMalformed

theorem errorsIn_writeItems (level : Nat) :
    ∀ xs : List Value, ErrorsIn Fault.NotMalformed (writeItems level xs)
  | [] => .ok []
  | x :: xs =>
      (errorsIn_write level x).bind fun _ => (errorsIn_writeItems level xs).bind fun _ => .ok _

theorem errorsIn_writeEntries (level : Nat) :
    ∀ entries : List (Value × Value), ErrorsIn Fault.NotMalformed (writeEntries level entries)
  | [] => .ok []
  | (k, v) :: rest =>
      (errorsIn_entryName k).bind fun _ => (errorsIn_write level v).bind fun _ =>
        (errorsIn_writeEntries level rest).bind fun _ => .ok _

end

theorem errorsIn_serialize (v : Value) : ErrorsIn Fault.NotMalformed v.serialize :=
  errorsIn_write 0 v

end Value

/-! ### Values of segments -/

/-- The fault is one of a replacement or of the separator. -/
inductive Fault.IsOfSlug : Fault → Prop where
  | replacement {part : Nat} {kind : Text} : IsOfSlug (.replacement part kind)
  | escape : IsOfSlug .escape

theorem Fault.IsOfSlug.notMalformed {f : Fault} (h : f.IsOfSlug) : f.NotMalformed := by
  cases h with
  | replacement => exact nofun
  | escape => exact nofun

namespace SlugOptions

theorem errorsIn_slug (o : SlugOptions) (t : Text) : ErrorsIn Fault.IsOfSlug (o.slug t) := by
  have hreplace : ErrorsIn Fault.IsOfSlug (o.replace t) := by
    refine .foldlM (fun t r => ?_) o.replacements t
    unfold Replacement.apply
    split
    all_goals first | exact .ok _ | exact .error .replacement
  refine hreplace.bind fun u => ?_
  split
  · exact .error .escape
  · exact .ok _

/-- Where a value has a text, its slugs alone can fail. -/
theorem errorsIn_pathSlug_of_toText (o : SlugOptions) {v : Value} {t : Text}
    (ht : v.toText = .ok t) : ErrorsIn Fault.IsOfSlug (o.pathSlug v) := by
  rw [pathSlug, ht]
  exact (ErrorsIn.mapM (errorsIn_slug o) _).bind fun _ => .ok _

theorem errorsIn_pathSlug (o : SlugOptions) (v : Value) :
    ErrorsIn Fault.NotMalformed (o.pathSlug v) := by
  cases ht : v.toText with
  | error fault =>
      have hfault : fault.NotMalformed := (Value.failsIff_toText v).notMalformed fault ht
      rw [pathSlug, ht]
      exact .error hfault
  | ok t => exact (errorsIn_pathSlug_of_toText o ht).mono fun _ => Fault.IsOfSlug.notMalformed

end SlugOptions

theorem Segment.errorsIn_value (o : SlugOptions) (record : Value) (s : Segment) :
    ErrorsIn Fault.NotMalformed (s.value o record) := by
  refine (Value.errorsIn_lookupField record s.path).bind fun found => ?_
  cases found with
  | none => exact .ok none
  | some v =>
      dsimp only
      split
      · exact .ok none
      · exact (SlugOptions.errorsIn_pathSlug o v).bind fun _ => .ok _

/-! ### Resolutions -/

namespace Resolution

/-- At a segment that fits, a splice finds no template malformed, unless it gets past it and does so
behind it. -/
theorem errorsIn_spliceFrom_cons {o : SlugOptions} {stripped : Text} {record : Value} {cursor : Int}
    {s : Segment} {rest : List Segment} (hfit : s.fits stripped cursor = true)
    (hrest : s.Settles o record →
      ErrorsIn Fault.NotMalformed (spliceFrom o stripped record s.stop rest).result) :
    ErrorsIn Fault.NotMalformed
      (spliceFrom o stripped record cursor (s :: rest)).result := by
  have hvalue := Segment.errorsIn_value o record s
  have hshown := Value.errorsIn_serialize record
  rw [spliceFrom, if_pos hfit]
  -- A fault of the value or of the record shown ends the splice; else the rest decides.
  split
  · next fault hfault => exact .error (hvalue fault hfault)
  · next text htext => exact (hrest (.inl ⟨text, htext⟩)).map _
  · next hnone =>
      split
      · next fault hfault => exact .error (hshown fault hfault)
      · next shown hshow => exact (hrest (.inr ⟨hnone, shown, hshow⟩)).map _

/-- **Segments that fit make no template malformed.** -/
theorem FitsFrom.not_malformed (o : SlugOptions) {stripped : Text} (record : Value) {cursor : Int}
    {segments : List Segment} (h : FitsFrom stripped cursor segments) :
    ErrorsIn Fault.NotMalformed (spliceFrom o stripped record cursor segments).result := by
  induction segments generalizing cursor with
  | nil => exact .ok _
  | cons s rest ih => exact errorsIn_spliceFrom_cons h.1 fun _ => ih h.2

end Resolution
end Permalink
