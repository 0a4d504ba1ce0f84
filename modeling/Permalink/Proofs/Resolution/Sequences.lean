import Permalink.Proofs.Resolution.Splice
import Permalink.Proofs.Value.PathText

/-!
# Resolution — sequences with the same items

A path shows of a list or tuple its items, and not what holds them.  So where segments lead to
sequences with the same items, however deep (`Value.SameItems`), two records have the same path
(`derive_of_readsAlike`): unless there is a range among them, which is shown with its name.

* `toText_eq_iff_no_range`: the path text of a sequence is made of those of its items if it is no
  range, and two sequences with the same items have the same if there is none in either; and no
  sequence that has a text does so otherwise.
* `range_in_path`: a range and the list of its items.
-/

namespace Permalink

namespace Value

/-- Two sequences with the same items, where again it does not matter what holds the items of
those. -/
structure SameItems (v w : Value) : Prop where
  left : v.shape = .sequence
  right : w.shape = .sequence
  itemized_eq : w.itemized = v.itemized

/-- Two sequences of which the items are the same values have the same items. -/
theorem sameItems_of_sequenceItems {v w : Value} (hv : v.shape = .sequence)
    (hw : w.shape = .sequence) (h : w.sequenceItems = v.sequenceItems) : SameItems v w :=
  ⟨hv, hw, by rw [itemized_of_sequence hv, itemized_of_sequence hw, h]⟩

/-- **The same items make the same text**, if there is no range. -/
theorem SameItems.toText_eq {v w : Value} (h : SameItems v w) (hv : ¬ HoldsRange v)
    (hw : ¬ HoldsRange w) : w.toText = v.toText := by
  rw [← toText_itemized hv, ← toText_itemized hw, h.itemized_eq]

/-- The outcomes of two lookups are the same, or are sequences with the same items and no range. -/
inductive ReadsAlike : Except Fault (Option Value) → Except Fault (Option Value) → Prop where
  | same (outcome : Except Fault (Option Value)) : ReadsAlike outcome outcome
  | sequences {v w : Value} : SameItems v w → ¬ HoldsRange v → ¬ HoldsRange w →
      ReadsAlike (.ok (some v)) (.ok (some w))

end Value

open Value (SameItems HoldsRange ReadsAlike)

/-- A segment that reads alike on two records has the same value. -/
theorem Segment.value_of_readsAlike (o : SlugOptions) {record other : Value} {s : Segment}
    (h : ReadsAlike (record.lookupField s.path) (other.lookupField s.path)) :
    s.value o other = s.value o record := by
  rw [value, value]
  generalize record.lookupField s.path = x at h
  generalize other.lookupField s.path = y at h
  cases h with
  | same => rfl
  | @sequences v w hitems hv hw =>
      have hslug : o.pathSlug w = o.pathSlug v := by
        rw [SlugOptions.pathSlug, SlugOptions.pathSlug, hitems.toText_eq hv hw]
      have hleft : v.shape ≠ .mapping := by rw [hitems.left]; nofun
      have hright : w.shape ≠ .mapping := by rw [hitems.right]; nofun
      change (if w.shape = .mapping then pure none else o.pathSlug w >>= fun t => pure (some t)) =
        if v.shape = .mapping then pure none else o.pathSlug v >>= fun t => pure (some t)
      rw [if_neg hleft, if_neg hright, hslug]

namespace Resolution

/-- **Records that read alike** have the same path by a template, if errors can be reported. -/
theorem derive_of_readsAlike {given : Text} {t : Template} (ht : Template.analyze given = .ok t)
    {setting : Option Value} {record other : Value} {d : Derived}
    (halike : ∀ s ∈ t.segments, ReadsAlike (record.lookupField s.path) (other.lookupField s.path))
    (hd : (derive setting given record).result = .ok d)
    (hshown : d.errors = [] ∨ ∃ shown, other.serialize = .ok shown) :
    (derive setting given other).result = .ok d := by
  obtain ⟨o, ho, hd⟩ := (result_derive_eq_ok ht).1 hd
  refine (result_derive_eq_ok ht).2 ⟨o, ho, ?_⟩
  obtain ⟨hfits, hsettles, rfl⟩ := result_resolve.1 hd
  have hvalue : ∀ s ∈ inOrder t.segments, s.value o other = s.value o record := fun s hs =>
    Segment.value_of_readsAlike o (halike s (mem_inOrder.1 hs))
  have hplace : ∀ s ∈ inOrder t.segments, s.replacement o other = s.replacement o record :=
    fun s hs => by
      rw [Segment.replacement, Segment.replacement, Segment.resolved?, Segment.resolved?,
        hvalue s hs]
  have herrors : (inOrder t.segments).filter (·.isUnresolved o other) =
      (inOrder t.segments).filter (·.isUnresolved o record) :=
    List.filter_congr fun s hs => by
      rw [Segment.isUnresolved, Segment.isUnresolved, hvalue s hs]
  refine result_resolve.2 ⟨hfits, fun s hs => ?_, ?_⟩
  · rw [Segment.Settles, hvalue s hs]
    rcases hsettles s hs with htext | ⟨hnone, -⟩
    · exact .inl htext
    · -- The segment is an error, so that the other record can be shown.
      have hmem : s ∈ (inOrder t.segments).filter (·.isUnresolved o record) :=
        List.mem_filter.2 ⟨hs, by rw [Segment.isUnresolved, hnone]⟩
      exact .inr ⟨hnone, hshown.resolve_left (List.ne_nil_of_mem hmem)⟩
  · rw [herrors, splicedText_congr hplace]

/-- **When sequences are shown by their items.**  The path text of a sequence that is no range is
made of those of its items, with commas between, and so on for the items if there is no range among
them: so sequences with the same items and without ranges have the same text, or none.

Of a sequence that has a text this is exact.  It is the text of its items just if the sequence is no
range, and that of its items however deep just if there is none among them; and of two sequences
with the same items, of which one has no range, the other has the same text just if it has none
either.  Where the segments of a template lead to the same or to such sequences on two records, the
path of one is the path of the other. -/
theorem toText_eq_iff_no_range {v : Value} (h : v.shape = .sequence) :
    ((∀ p, v ≠ .range p) →
      v.toText = (v.sequenceItems.mapM Value.toText).map (List.intercalate [','])) ∧
    (¬ HoldsRange v → v.itemized.toText = v.toText) ∧
    (∀ w, SameItems v w → ¬ HoldsRange v → ¬ HoldsRange w → w.toText = v.toText) ∧
    (∀ text, v.toText = .ok text →
      ((v.sequenceItems.mapM Value.toText).map (List.intercalate [',']) = .ok text ↔
        ∀ p, v ≠ .range p) ∧
      (v.itemized.toText = .ok text ↔ ¬ HoldsRange v) ∧
      ∀ w, SameItems v w → ¬ HoldsRange v → (w.toText = .ok text ↔ ¬ HoldsRange w)) ∧
    ∀ (given : Text) (t : Template) (setting : Option Value) (record other : Value) (d : Derived),
      Template.analyze given = .ok t →
      (∀ s ∈ t.segments,
        ReadsAlike (record.lookupField s.path) (other.lookupField s.path)) →
      (derive setting given record).result = .ok d →
      (d.errors = [] ∨ ∃ shown, other.serialize = .ok shown) →
      (derive setting given other).result = .ok d := by
  refine ⟨Value.toText_of_ne_range h, Value.toText_itemized, fun w hitems => hitems.toText_eq,
    fun text htext => ⟨Value.toText_sequence_iff h htext, Value.toText_itemized_iff htext,
      fun w hitems hv => ?_⟩,
    fun given t setting record other d ht => derive_of_readsAlike ht⟩
  constructor
  · intro hw
    rw [← Value.toText_itemized_iff hw, hitems.itemized_eq, Value.toText_itemized hv, htext]
  · intro hw
    rw [hitems.toText_eq hv hw, htext]

/-- The template `{P.a}`. -/
def oneField : Template :=
  { given := "\x7bP.a\x7d".toList, stripped := "\x7bP.a\x7d".toList
    segments := [Segment.printed ['P'] 0 [.name ['a']]], model := some ['P'] }

/-- A record with one field. -/
def fieldOf (v : Value) : Value := .mapping [(.text ['a'], v)]

/-- The range of 0, 1 and 2. -/
def threeNumbers : Value := .range ⟨0, 3, 1⟩

/-- A list of a list of 1 and 2.0, and a text. -/
def nestedList : Value :=
  .items .list [.items .list [.int 1, .real (.finite false 2 0)], .text "a b".toList]

/-- The same items in tuples. -/
def nestedTuple : Value :=
  .items .tuple [.items .tuple [.int 1, .real (.finite false 2 0)], .text "a b".toList]

/-- Lists and tuples of the same items have the same text, and the same path. -/
theorem toText_eq_iff_no_range_nested :
    nestedList.shape = .sequence ∧ SameItems nestedList nestedTuple ∧ ¬ HoldsRange nestedList ∧
    ¬ HoldsRange nestedTuple ∧ nestedTuple.toText = nestedList.toText ∧
    (derive none oneField.given (fieldOf nestedList)).result =
      .ok ⟨oneField.stripped, "1-2-a-b".toList, []⟩ ∧
    (derive none oneField.given (fieldOf nestedTuple)).result =
      .ok ⟨oneField.stripped, "1-2-a-b".toList, []⟩ := by
  have hitems : SameItems nestedList nestedTuple := ⟨rfl, rfl, rfl⟩
  have hinner : ∀ kind, ¬ HoldsRange (.items kind [.int 1, .real (.finite false 2 0)]) :=
    fun kind => Value.not_holdsRange_items (by
      intro x hx
      rcases List.mem_pair.1 hx with rfl | rfl <;> nofun)
  have houter : ∀ kind kind', ¬ HoldsRange (.items kind
      [.items kind' [.int 1, .real (.finite false 2 0)], .text "a b".toList]) :=
    fun kind kind' => Value.not_holdsRange_items (by
      intro x hx
      rcases List.mem_pair.1 hx with rfl | rfl
      · exact hinner kind'
      · nofun)
  have hlist : ¬ HoldsRange nestedList := houter .list .list
  have htuple : ¬ HoldsRange nestedTuple := houter .tuple .tuple
  have ht : Template.analyze oneField.given = .ok oneField := by decide
  have hshape : nestedList.shape = .sequence := rfl
  obtain ⟨-, -, hsame, -, hderive⟩ := toText_eq_iff_no_range hshape
  have hpath : (derive none oneField.given (fieldOf nestedList)).result =
      .ok ⟨oneField.stripped, "1-2-a-b".toList, []⟩ := by decide +kernel
  refine ⟨hshape, hitems, hlist, htuple, hsame _ hitems hlist htuple, hpath,
    hderive _ _ _ _ _ _ ht (fun s hs => ?_) hpath (.inl rfl)⟩
  obtain rfl := List.mem_singleton.1 hs
  exact .sequences hitems hlist htuple

/-- **A range in a path.**  It has the items 0, 1 and 2, but is not shown as the list of these. -/
theorem range_in_path :
    threeNumbers.shape = .sequence ∧ threeNumbers.sequenceItems = [.int 0, .int 1, .int 2] ∧
    SameItems threeNumbers (.items .list [.int 0, .int 1, .int 2]) ∧
    (threeNumbers.sequenceItems.mapM Value.toText).map (List.intercalate [',']) =
      .ok "0,1,2".toList ∧
    threeNumbers.toText = .ok "range(0, 3)".toList ∧
    (derive none oneField.given (fieldOf (.items .list [.int 0, .int 1, .int 2]))).result =
      .ok ⟨oneField.stripped, "0-1-2".toList, []⟩ ∧
    (derive none oneField.given (fieldOf threeNumbers)).result =
      .ok ⟨oneField.stripped, "range-0-3".toList, []⟩ := by
  have hitems : threeNumbers.sequenceItems = [.int 0, .int 1, .int 2] := rfl
  exact ⟨rfl, hitems, Value.sameItems_of_sequenceItems rfl rfl hitems.symm, by decide, by decide,
    by decide +kernel, by decide +kernel⟩

end Resolution
end Permalink
