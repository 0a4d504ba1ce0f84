import Permalink.Proofs.Outcome
import Permalink.Value.Literal

/-!
# Value — what cannot be shown

An integer of too many digits has no text, and neither has what is shown with one in it.  A value
*holds* such an integer if it is one, if a bound of a range is one, or if there is one in an item, a
key, an entry or a field, at any depth (`HoldsLong`).

There is no other cause: a value has a literal, is shown and has a path text just if it holds none
(`failsIff_literal`, `failsIff_shown`, `failsIff_toText`).
-/

namespace Permalink

open Outcome (FailsIff)

theorem Decimal.failsIff_write (n : Int) : FailsIff .integerLength (IsLong n) (write n) := by
  unfold write
  split
  · next h => exact fun e => ⟨fun he => ⟨(Except.error.inj he).symm, h⟩, fun he => he.1 ▸ rfl⟩
  · next h => exact .ok h

namespace Value

/-- An integer of too many digits is shown in the value, at any depth. -/
inductive HoldsLong : Value → Prop where
  | int {n : Int} : Decimal.IsLong n → HoldsLong (int n)
  | bound {p : Progression} {n : Int} : n ∈ shownBounds p → Decimal.IsLong n →
      HoldsLong (range p)
  | item {kind : Collection} {x : Value} {xs : List Value} : x ∈ xs → HoldsLong x →
      HoldsLong (items kind xs)
  | key {e : Value × Value} {entries : List (Value × Value)} : e ∈ entries → HoldsLong e.1 →
      HoldsLong (mapping entries)
  | entry {e : Value × Value} {entries : List (Value × Value)} : e ∈ entries → HoldsLong e.2 →
      HoldsLong (mapping entries)
  | field {modelName : Text} {isOpen : Bool} {fields extra : List (Text × Value)}
      {e : Text × Value} : e ∈ fields ++ extra → HoldsLong e.2 →
      HoldsLong (model modelName isOpen fields extra)

theorem exists_mem_append {α : Type} {p : α → Prop} {as bs : List α} :
    (∃ a ∈ as ++ bs, p a) ↔ (∃ a ∈ as, p a) ∨ ∃ b ∈ bs, p b := by
  simp only [List.mem_append, or_and_right, exists_or]

theorem holdsLong_int_iff {n : Int} : HoldsLong (int n) ↔ Decimal.IsLong n :=
  ⟨fun (.int h) => h, .int⟩

theorem holdsLong_items_iff {kind : Collection} {xs : List Value} :
    HoldsLong (items kind xs) ↔ ∃ x ∈ xs, HoldsLong x :=
  ⟨fun (.item hx h) => ⟨_, hx, h⟩, fun ⟨_, hx, h⟩ => .item hx h⟩

theorem holdsLong_mapping_iff {entries : List (Value × Value)} :
    HoldsLong (mapping entries) ↔ ∃ e ∈ entries, HoldsLong e.1 ∨ HoldsLong e.2 := by
  constructor
  · rintro (_ | _ | _ | ⟨he, h⟩ | ⟨he, h⟩ | _)
    · exact ⟨_, he, .inl h⟩
    · exact ⟨_, he, .inr h⟩
  · rintro ⟨e, he, h | h⟩
    · exact .key he h
    · exact .entry he h

theorem holdsLong_model_iff {modelName : Text} {isOpen : Bool}
    {fields extra : List (Text × Value)} :
    HoldsLong (model modelName isOpen fields extra) ↔
      (∃ e ∈ fields, HoldsLong e.2) ∨ ∃ e ∈ extra, HoldsLong e.2 := by
  rw [← exists_mem_append]
  exact ⟨fun (.field he h) => ⟨_, he, h⟩, fun ⟨_, he, h⟩ => .field he h⟩

/-! ### Literals -/

theorem failsIff_rangeLiteral (p : Progression) :
    FailsIff .integerLength (HoldsLong (range p)) (rangeLiteral p) := by
  have hbounds : ∀ ns : List Int,
      FailsIff .integerLength (∃ n ∈ ns, Decimal.IsLong n) (ns.mapM Decimal.write) := by
    intro ns
    induction ns with
    | nil => exact .ok nofun
    | cons n ns ih =>
        rw [List.mapM_cons, List.exists_mem_cons_iff]
        exact (Decimal.failsIff_write n).bind fun _ => ih.map _
  exact ((hbounds _).map _).congr
    ⟨fun ⟨_, hn, h⟩ => .bound hn h, fun (.bound hn h) => ⟨_, hn, h⟩⟩

-- What is put together of literals fails just if one of them does, by recursion as in `literal`.
mutual

theorem failsIff_literal : ∀ v : Value, FailsIff .integerLength (HoldsLong v) v.literal
  | .null | .bool _ | .real _ | .text _ | .bytes false _ | .bytes true _ | .date _ => .ok nofun
  | .int n => (Decimal.failsIff_write n).congr holdsLong_int_iff.symm
  | .range p => failsIff_rangeLiteral p
  | .items kind xs => by
      rw [literal, holdsLong_items_iff]
      exact (failsIff_literals xs).map _
  | .mapping entries => by
      rw [literal, holdsLong_mapping_iff]
      exact (failsIff_entryLiterals entries).map _
  | .model modelName isOpen fields extra => by
      rw [literal, holdsLong_model_iff]
      exact (failsIff_fieldLiterals fields).bind fun _ => (failsIff_fieldLiterals extra).map _

theorem failsIff_literals : ∀ xs : List Value,
    FailsIff .integerLength (∃ x ∈ xs, HoldsLong x) (literals xs)
  | [] => .ok nofun
  | x :: xs => by
      rw [literals, List.exists_mem_cons_iff]
      exact (failsIff_literal x).bind fun _ => (failsIff_literals xs).map _

theorem failsIff_entryLiterals : ∀ entries : List (Value × Value),
    FailsIff .integerLength (∃ e ∈ entries, HoldsLong e.1 ∨ HoldsLong e.2) (entryLiterals entries)
  | [] => .ok nofun
  | (k, v) :: rest => by
      rw [entryLiterals, List.exists_mem_cons_iff, or_assoc]
      exact (failsIff_literal k).bind fun _ => (failsIff_literal v).bind fun _ =>
        (failsIff_entryLiterals rest).map _

theorem failsIff_fieldLiterals : ∀ fields : List (Text × Value),
    FailsIff .integerLength (∃ e ∈ fields, HoldsLong e.2) (fieldLiterals fields)
  | [] => .ok nofun
  | (_, v) :: rest => by
      rw [fieldLiterals, List.exists_mem_cons_iff]
      exact (failsIff_literal v).bind fun _ => (failsIff_fieldLiterals rest).map _

end

/-- **What is shown**: all but a value with an integer of too many digits. -/
theorem failsIff_shown (v : Value) : FailsIff .integerLength (HoldsLong v) v.shown := by
  unfold shown
  split
  · exact .ok nofun
  · exact .ok nofun
  · rw [holdsLong_model_iff]
    exact (failsIff_fieldLiterals _).bind fun _ => (failsIff_fieldLiterals _).map _
  · exact failsIff_literal v

/-! ### Path texts -/

mutual

/-- **What has a path text**: all but a value with an integer of too many digits. -/
theorem failsIff_toText : ∀ v : Value, FailsIff .integerLength (HoldsLong v) v.toText
  | .bool _ => .ok nofun
  | .real x => by
      rw [toText]
      split
      · exact .ok nofun
      · exact .ok nofun
  | .items .list xs | .items .tuple xs => by
      rw [toText, holdsLong_items_iff]
      exact (failsIff_toTexts xs).map _
  | .null | .int _ | .text _ | .bytes _ _ | .date _ | .range _ | .items .set _ | .mapping _
  | .model .. => failsIff_shown _

theorem failsIff_toTexts : ∀ xs : List Value,
    FailsIff .integerLength (∃ x ∈ xs, HoldsLong x) (toTexts xs)
  | [] => .ok nofun
  | x :: xs => by
      rw [toTexts, List.exists_mem_cons_iff]
      exact (failsIff_toText x).bind fun _ => (failsIff_toTexts xs).map _

end

end Value
end Permalink
