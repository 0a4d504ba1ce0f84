import Mathlib.Algebra.Order.BigOperators.Group.List
import Permalink.Proofs.Number.Numeral
import Permalink.Proofs.Text.Runs
import Permalink.Proofs.Value.Sequences
import Permalink.Value.Literal

/-!
# Value — the path text of a sequence

The path text of a list or tuple is made of the path texts of its items.  That of a range is not: it
is what is shown of it, with its name and its bounds (`toText_sequence_iff`).

`itemized` puts the list of its items in the place of every sequence, however deep it stands among
the items of others.  This changes nothing in the path text unless there is a range
(`toText_itemized_iff`): each range has the letter `r` in its text, which its items have not.

A value that holds an integer of too many digits has no path text.  Where there is no range it has
none either way, and where there is one, what is said of texts is said of those that there are.
-/

namespace Permalink

/-- A character that is not the one between them stands in joined texts as often as in all of
them. -/
theorem Text.count_intercalate {m x : Char} (h : x ≠ m) (us : List Text) :
    (List.intercalate [m] us).count x = (us.map (List.count x)).sum := by
  have hm : (m == x) = false := beq_eq_false_iff_ne.2 h.symm
  rw [List.count_eq_length_filter, filter_intercalate_flatten (q := (· == x)) hm,
    ← List.count_eq_length_filter, List.count_flatten]

namespace Value

/-! ### Sequences as lists -/

mutual

/-- A value with the list of its items in the place of a sequence, and so for each of the items. -/
def itemized : Value → Value
  | items .list xs => items .list (itemizedAll xs)
  | items .tuple xs => items .list (itemizedAll xs)
  | range p => items .list (range p).sequenceItems
  | v => v

/-- Some values with the list of its items in the place of each sequence. -/
def itemizedAll : List Value → List Value
  | [] => []
  | x :: xs => itemized x :: itemizedAll xs

end

/-- The value is a range, or a list or tuple with a range among its items, at any depth. -/
inductive HoldsRange : Value → Prop where
  | range {p : Progression} : HoldsRange (range p)
  | item {kind : Collection} {x : Value} {xs : List Value} : kind ≠ .set → x ∈ xs →
      HoldsRange x → HoldsRange (items kind xs)

theorem not_holdsRange_items {kind : Collection} {xs : List Value}
    (h : ∀ x ∈ xs, ¬ HoldsRange x) : ¬ HoldsRange (items kind xs) := by
  intro hholds
  cases hholds with
  | item _ hx hrange => exact h _ hx hrange

/-- A sequence is a list, a tuple or a range. -/
theorem sequence_cases {v : Value} (h : v.shape = .sequence) :
    (∃ xs, v = items .list xs) ∨ (∃ xs, v = items .tuple xs) ∨ ∃ p, v = range p := by
  unfold shape at h
  split at h
  · cases h
  · cases h
  · cases h
  · exact .inl ⟨_, rfl⟩
  · exact .inr (.inl ⟨_, rfl⟩)
  · exact .inr (.inr ⟨_, rfl⟩)
  · cases h

theorem itemizedAll_eq_map (xs : List Value) : itemizedAll xs = xs.map itemized := by
  induction xs with
  | nil => rfl
  | cons x xs ih => rw [itemizedAll, ih, List.map_cons]

/-- A sequence is itemized as the list of its items, each of them itemized. -/
theorem itemized_of_sequence {v : Value} (h : v.shape = .sequence) :
    v.itemized = items .list (v.sequenceItems.map itemized) := by
  obtain ⟨xs, rfl⟩ | ⟨xs, rfl⟩ | ⟨p, rfl⟩ := sequence_cases h
  · rw [itemized, itemizedAll_eq_map]
    rfl
  · rw [itemized, itemizedAll_eq_map]
    rfl
  · -- The items of a range are numbers, which are left as they are.
    have hitems : (range p).sequenceItems.map itemized = (range p).sequenceItems := by
      rw [sequenceItems, List.map_map]
      rfl
    rw [itemized, hitems]

/-! ### Texts of sequences -/

theorem toText_list (xs : List Value) :
    (items .list xs).toText = (xs.mapM toText).map (List.intercalate [',']) := by
  rw [toText, toTexts_eq_mapM]

theorem toText_tuple (xs : List Value) :
    (items .tuple xs).toText = (xs.mapM toText).map (List.intercalate [',']) := by
  rw [toText, toTexts_eq_mapM]

theorem toText_range (p : Progression) : (range p).toText = rangeLiteral p := rfl

/-- The text of a range has the first letter of its name. -/
theorem mem_toText_range {p : Progression} {t : Text} (h : (range p).toText = .ok t) : 'r' ∈ t := by
  obtain ⟨bounds, -, rfl⟩ := Outcome.map_eq_ok.1 ((toText_range p).symm.trans h)
  exact List.mem_cons_self

/-- The texts of the items of a range, with commas between, have not. -/
theorem not_mem_items_of_range {p : Progression} {ts : List Text}
    (h : (range p).sequenceItems.mapM toText = .ok ts) : 'r' ∉ List.intercalate [','] ts := by
  rw [← List.count_eq_zero, Text.count_intercalate (by decide), List.sum_eq_zero_iff]
  intro k hk
  obtain ⟨t, ht, rfl⟩ := List.mem_map.1 hk
  obtain ⟨item, hitem, htext⟩ := Outcome.exists_of_mem_mapM h ht
  obtain ⟨i, -, rfl⟩ := List.mem_map.1 hitem
  -- An item is shown in digits and a minus sign.
  obtain ⟨-, rfl⟩ := Decimal.write_eq_ok_iff.1 (show Decimal.write (p.term i) = .ok t from htext)
  refine List.count_eq_zero.2 fun hmem => ?_
  rcases Text.isDigit_of_mem_ofInt hmem with h | h
  · cases h
  · cases h

/-- **A list or tuple has the texts of its items**, with commas between. -/
theorem toText_of_ne_range {v : Value} (h : v.shape = .sequence) (hrange : ∀ p, v ≠ range p) :
    v.toText = (v.sequenceItems.mapM toText).map (List.intercalate [',']) := by
  obtain ⟨xs, rfl⟩ | ⟨xs, rfl⟩ | ⟨p, rfl⟩ := sequence_cases h
  · exact toText_list xs
  · exact toText_tuple xs
  · exact absurd rfl (hrange p)

/-- **A sequence with a text has that of its items** just if it is no range. -/
theorem toText_sequence_iff {v : Value} (h : v.shape = .sequence) {t : Text}
    (ht : v.toText = .ok t) :
    (v.sequenceItems.mapM toText).map (List.intercalate [',']) = .ok t ↔ ∀ p, v ≠ range p := by
  constructor
  · rintro hitems p rfl
    obtain ⟨ts, hts, rfl⟩ := Outcome.map_eq_ok.1 hitems
    exact not_mem_items_of_range hts (mem_toText_range ht)
  · intro hrange
    rw [← toText_of_ne_range h hrange, ht]

/-! ### Itemized values -/

mutual

/-- Where there is no range, an itemized value has the same text. -/
theorem toText_itemized : ∀ {v : Value}, ¬ HoldsRange v → v.itemized.toText = v.toText
  | .items .list xs, h => by
      rw [itemized, toText, toText, toTexts_itemizedAll fun x hx hr => h (.item nofun hx hr)]
  | .items .tuple xs, h => by
      rw [itemized, toText, toText, toTexts_itemizedAll fun x hx hr => h (.item nofun hx hr)]
  | .range p, h => absurd .range h
  | .null, _ | .bool _, _ | .int _, _ | .real _, _ | .text _, _ | .bytes .., _ | .date _, _
  | .items .set _, _ | .mapping _, _ | .model .., _ => rfl

theorem toTexts_itemizedAll : ∀ {xs : List Value}, (∀ x ∈ xs, ¬ HoldsRange x) →
    toTexts (itemizedAll xs) = toTexts xs
  | [], _ => rfl
  | x :: xs, h => by
      obtain ⟨hx, hxs⟩ := List.forall_mem_cons.1 h
      rw [itemizedAll, toTexts, toTexts, toText_itemized hx, toTexts_itemizedAll hxs]

end

mutual

/-- Itemized, a value has no more letters `r` in its text, and fewer if there is a range. -/
theorem count_itemized : ∀ {v : Value} {t t' : Text},
    v.toText = .ok t → v.itemized.toText = .ok t' →
    t'.count 'r' ≤ t.count 'r' ∧ (HoldsRange v → t'.count 'r' < t.count 'r')
  | .items .list xs, t, t', h, h' | .items .tuple xs, t, t', h, h' => by
      rw [toText] at h
      rw [itemized, toText] at h'
      obtain ⟨ts, hts, rfl⟩ := Outcome.map_eq_ok.1 h
      obtain ⟨ts', hts', rfl⟩ := Outcome.map_eq_ok.1 h'
      obtain ⟨hle, hlt⟩ := count_itemizedAll hts hts'
      rw [Text.count_intercalate (by decide), Text.count_intercalate (by decide)]
      exact ⟨hle, fun (.item _ hx h) => hlt ⟨_, hx, h⟩⟩
  | .range p, t, t', h, h' => by
      rw [itemized, toText_list] at h'
      obtain ⟨ts', hts', rfl⟩ := Outcome.map_eq_ok.1 h'
      have hzero : (List.intercalate [','] ts').count 'r' = 0 :=
        List.count_eq_zero.2 (not_mem_items_of_range hts')
      have hpos : 0 < t.count 'r' := List.count_pos_iff.2 (mem_toText_range h)
      exact ⟨by omega, fun _ => by omega⟩
  | .items .set _, _, _, h, h' => by
      obtain rfl := Except.ok.inj (h.symm.trans h')
      exact ⟨Nat.le_refl _, fun (.item hset _ _) => absurd rfl hset⟩
  | .null, _, _, h, h' | .bool _, _, _, h, h' | .int _, _, _, h, h' | .real _, _, _, h, h'
  | .text _, _, _, h, h' | .bytes .., _, _, h, h' | .date _, _, _, h, h'
  | .mapping _, _, _, h, h' | .model .., _, _, h, h' => by
      obtain rfl := Except.ok.inj (h.symm.trans h')
      exact ⟨Nat.le_refl _, nofun⟩

theorem count_itemizedAll : ∀ {xs : List Value} {ts ts' : List Text}, toTexts xs = .ok ts →
    toTexts (itemizedAll xs) = .ok ts' →
    (ts'.map (List.count 'r')).sum ≤ (ts.map (List.count 'r')).sum ∧
      ((∃ x ∈ xs, HoldsRange x) →
        (ts'.map (List.count 'r')).sum < (ts.map (List.count 'r')).sum)
  | [], _, _, h, h' => by
      obtain rfl := Except.ok.inj (h.symm.trans h')
      exact ⟨Nat.le_refl _, nofun⟩
  | x :: xs, _, _, h, h' => by
      rw [toTexts] at h
      rw [itemizedAll, toTexts] at h'
      obtain ⟨t, ht, h⟩ := Outcome.bind_eq_ok.1 h
      obtain ⟨ts, hts, ⟨⟩⟩ := Outcome.bind_eq_ok.1 h
      obtain ⟨t', ht', h'⟩ := Outcome.bind_eq_ok.1 h'
      obtain ⟨ts', hts', ⟨⟩⟩ := Outcome.bind_eq_ok.1 h'
      obtain ⟨hxle, hxlt⟩ := count_itemized ht ht'
      obtain ⟨hle, hlt⟩ := count_itemizedAll hts hts'
      simp only [List.map_cons, List.sum_cons, List.exists_mem_cons_iff]
      refine ⟨Nat.add_le_add hxle hle, ?_⟩
      rintro (hx | hxs)
      · exact Nat.add_lt_add_of_lt_of_le (hxlt hx) hle
      · exact Nat.add_lt_add_of_le_of_lt hxle (hlt hxs)

end

/-- **Itemized, a value has the same text** just if there is no range. -/
theorem toText_itemized_iff {v : Value} {t : Text} (ht : v.toText = .ok t) :
    v.itemized.toText = .ok t ↔ ¬ HoldsRange v := by
  constructor
  · intro htext hrange
    exact Nat.lt_irrefl _ ((count_itemized ht htext).2 hrange)
  · intro hrange
    rw [toText_itemized hrange, ht]

end Value
end Permalink
