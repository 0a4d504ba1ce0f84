import Permalink.Proofs.Number.Numeral
import Permalink.Proofs.Value.Paths

/-!
# Value — items by index

A sequence is a list, a tuple or a range; its items stand in order (`sequenceItems`), and `item?`
takes one of them (`item?_eq`) if they can be counted.  The items of a list or tuple always can; a
range lies in no memory, and may have too many.

* `child?_of_sequence`: a name finds the item at the number that it denotes.  Its script and its
  zeros in front do not matter, and no other name finds anything: no index counts from the end.
-/

namespace Permalink
namespace Value

/-- The items of a sequence, in order. -/
def sequenceItems : Value → List Value
  | items .list xs | items .tuple xs => xs
  | range p => (List.range p.length).map fun i => int (p.term i)
  | _ => []

/-- A range has as many items as terms. -/
theorem length_sequenceItems_range (p : Progression) :
    (range p).sequenceItems.length = p.length := by
  rw [sequenceItems, List.length_map, List.length_range]

/-- A sequence of no more items than are counted is countable. -/
theorem not_uncountable {v : Value} (h : v.sequenceItems.length ≤ Fault.termLimit) :
    ¬ Uncountable v := by
  rintro ⟨p, rfl, hlong⟩
  rw [length_sequenceItems_range] at h
  exact absurd h (Nat.not_le.2 hlong)

/-- **An index takes an item**, if the items can be counted. -/
theorem item?_eq {v : Value} (h : ¬ Uncountable v) (i : Nat) :
    v.item? i = .ok v.sequenceItems[i]? := by
  unfold item? sequenceItems
  split
  · rfl
  · rfl
  · next p =>
    have hcount : p.count = .ok p.length := if_pos (Nat.not_lt.1 fun hlong => h ⟨p, rfl, hlong⟩)
    rw [hcount, Except.map]
    split
    · next hi => simp [hi]
    · next hi => simp [Nat.not_lt.1 hi]
  · next hlist htuple hrange =>
    split
    · exact absurd rfl (hlist _)
    · exact absurd rfl (htuple _)
    · exact absurd rfl (hrange _)
    · rfl

/-- Whatever an index takes is the item there. -/
theorem eq_of_item?_eq_ok {v : Value} {i : Nat} {found : Option Value} (h : v.item? i = .ok found) :
    found = v.sequenceItems[i]? := by
  have hcount : ¬ Uncountable v := fun hlong => by
    obtain ⟨f, hf⟩ := (exists_item?_eq_error_iff (n := i)).2 hlong
    rw [h] at hf
    cases hf
  exact Except.ok.inj (h.symm.trans (item?_eq hcount i))

/-- Where the items cannot be counted every index fails. -/
theorem item?_of_uncountable {v : Value} (h : Uncountable v) (i : Nat) :
    v.item? i = .error .rangeLength := by
  obtain ⟨p, rfl, hlong⟩ := h
  rw [item?, Progression.count, if_neg (Nat.not_le.2 hlong)]
  rfl

section Child

variable {v : Value} {name : Text} {n : Nat}

/-- A name that denotes a number takes the item at that index. -/
theorem child?_eq_item? (h : v.shape = .sequence) (hname : Text.Denotes name n)
    (hlength : name.length ≤ Fault.digitLimit) :
    v.child? name = (v.item? n).map (·.bind defined) := by
  rw [child?, slot?_of_sequence h, itemNamed?_of_writes (writes_iff.2 ⟨hname, hlength⟩)]

/-- **A number as a name** finds the item that has it as its index, unless that is null. -/
theorem child?_of_denotes (h : v.shape = .sequence) (hcount : ¬ Uncountable v)
    (hname : Text.Denotes name n) (hlength : name.length ≤ Fault.digitLimit) :
    v.child? name = .ok (v.sequenceItems[n]?.bind defined) := by
  rw [child?_eq_item? h hname hlength, item?_eq hcount]
  rfl

/-- **Any other name** finds nothing. -/
theorem child?_of_not_digits (h : v.shape = .sequence)
    (hname : name = [] ∨ ∃ c ∈ name, Text.isDigit c = false) : v.child? name = .ok none := by
  rw [child?, slot?_of_sequence h, itemNamed?, index?_eq_none_iff.2 hname]
  rfl

/-- What is found in a sequence is an item of it, at the number that the name denotes. -/
theorem exists_of_child?_eq_some {w : Value} (h : v.shape = .sequence)
    (hfound : v.child? name = .ok (some w)) :
    ∃ n, Text.Denotes name n ∧ v.sequenceItems[n]? = some w := by
  obtain ⟨hslot, -⟩ := child?_eq_some_iff_slot?.1 hfound
  rw [slot?_of_sequence h] at hslot
  obtain ⟨n, hwrites, hitem⟩ := itemNamed?_eq_some_iff.1 hslot
  exact ⟨n, (writes_iff.1 hwrites).1, (eq_of_item?_eq_ok hitem).symm⟩

end Child

/-- An index of an item that is counted has no more digits than can be read. -/
theorem length_ofNat_le {i : Nat} (hi : i ≤ Fault.termLimit) :
    (Text.ofNat i).length ≤ Fault.digitLimit := by
  have hlimit : Fault.termLimit < 10 ^ 19 := by decide
  have hlength : (Text.ofNat i).length ≤ 19 :=
    (Text.length_ofNat_le_iff (by decide)).2 (hi.trans_lt hlimit)
  exact hlength.trans (by decide)

/-- **Items by index.**  Let a sequence have no more items than are counted, as every list and tuple
has.  An index, written in its digits, finds the item that stands there, unless it is null.  Decimal
digits of any script find the item at the number that they denote, again unless it is null, and
nothing behind the last item.  Of a range of more terms every such index fails.

In any sequence nothing is found under a name that has another character or none at all, and what
is found is the item at the number that its name denotes. -/
theorem child?_of_sequence {v : Value} (h : v.shape = .sequence) :
    (v.sequenceItems.length ≤ Fault.termLimit →
      (∀ i w, v.sequenceItems[i]? = some w → v.child? (Text.ofNat i) = .ok w.defined) ∧
      ∀ name n, Text.Denotes name n → name.length ≤ Fault.digitLimit →
        v.child? name = .ok (v.sequenceItems[n]?.bind defined)) ∧
    (Uncountable v → ∀ name n, Text.Denotes name n → name.length ≤ Fault.digitLimit →
      v.child? name = .error .rangeLength) ∧
    (∀ name : Text, (name = [] ∨ ∃ c ∈ name, Text.isDigit c = false) → v.child? name = .ok none) ∧
    ∀ name w, v.child? name = .ok (some w) →
      ∃ n, Text.Denotes name n ∧ v.sequenceItems[n]? = some w := by
  refine ⟨fun hlength => ?_, fun hlong name n hname hdigits => ?_,
    fun name => child?_of_not_digits h, fun name w => exists_of_child?_eq_some h⟩
  · have hcount := not_uncountable hlength
    refine ⟨fun i w hw => ?_, fun name n => child?_of_denotes h hcount⟩
    have hi : i ≤ Fault.termLimit := (List.getElem?_eq_some_iff.1 hw).1.le.trans hlength
    rw [child?_of_denotes h hcount (Text.denotes_ofNat i) (length_ofNat_le hi), hw,
      Option.bind_some]
  · rw [child?_eq_item? h hname hdigits, item?_of_uncountable hlong]
    rfl

/-- Of the pair of null and 0, a one finds the second item, with a zero of another script in front
too; nothing is found under a zero, a two or a negative number. -/
theorem child?_of_sequence_pair :
    let pair := items .tuple [null, int 0]
    pair.shape = .sequence ∧ pair.sequenceItems.length ≤ Fault.termLimit ∧
      pair.child? ['1'] = .ok (some (int 0)) ∧
      pair.child? ['٠', '1'] = .ok (some (int 0)) ∧ pair.child? ['0'] = .ok none ∧
      pair.child? ['2'] = .ok none ∧ pair.child? ['-', '1'] = .ok none := by
  have hshape : (items .tuple [null, int 0]).shape = .sequence := rfl
  have hcount : (items .tuple [null, int 0]).sequenceItems.length ≤ Fault.termLimit := by decide
  obtain ⟨hcounted, -, hother, -⟩ := child?_of_sequence hshape
  obtain ⟨hindex, hdenotes⟩ := hcounted hcount
  refine ⟨hshape, hcount, hindex 1 _ rfl, ?_, hindex 0 _ rfl, ?_,
    hother _ (.inr ⟨'-', List.mem_cons_self, rfl⟩)⟩
  · exact hdenotes _ 1 ((Text.denotes_ofNat 1).zero_cons rfl) (by decide)
  · exact hdenotes _ 2 (Text.denotes_ofNat 2) (by decide)

end Value
end Permalink
