import Permalink.Proofs.Selection.KeyPaths
import Permalink.Proofs.Value.Data
import Permalink.Value.Lookup

/-!
# Value — plain values and what is kept of them

A value is *plain* when it is built of mappings from texts, of scalars and of nulls (`IsPlain`).  In
a plain value a path leads through mappings only, no lookup fails, and there is no group
(`IsPlain.lookupField_eq`).

`Value.restrict` keeps the entries of mappings that a test on their paths keeps.  In what is kept, a
path leads to what is kept of where it led, if all its starts are kept (`IsPlain.lookup_restrict`),
and nowhere if one of them is not (`IsPlain.lookup_restrict_of_dropped`).

A plain value can be shown unless it holds an integer of too many digits
(`IsPlain.failsIff_serialize`), and what is kept of it holds one only if it does itself.
-/

namespace Permalink

open Outcome (FailsIff)

namespace Value

open Selection (IsStart isStart_cons)

/-! ### Plain values -/

/-- The value is built of mappings from texts, of scalars and of nulls. -/
inductive IsPlain : Value → Prop where
  | null : IsPlain null
  | scalar {v : Value} : v.shape = .scalar → IsPlain v
  | mapping {entries : List (Value × Value)} : (∀ e ∈ entries, ∃ t, e.1 = text t) →
      (∀ e ∈ entries, IsPlain e.2) → IsPlain (mapping entries)

/-- What stands under a name is the second part of an entry. -/
theorem exists_mem_of_keyed? {name : Text} {w : Value} {entries : List (Value × Value)}
    (h : keyed? name entries = some w) : ∃ e ∈ entries, e.2 = w := by
  induction entries using keyed?.induct name with
  | case1 => cases h
  | case2 v rest =>
      rw [keyed?, if_pos rfl] at h
      exact ⟨_, List.mem_cons_self, Option.some.inj h⟩
  | case3 t v rest hne ih =>
      rw [keyed?, if_neg hne] at h
      obtain ⟨e, he, hw⟩ := ih h
      exact ⟨e, List.mem_cons_of_mem _ he, hw⟩
  | case4 e rest hkey ih =>
      rw [keyed?] at h
      · obtain ⟨e', he', hw⟩ := ih h
        exact ⟨e', List.mem_cons_of_mem _ he', hw⟩
      · exact hkey

/-- A name leads nowhere from a scalar. -/
theorem child?_of_scalar {v : Value} (h : v.shape = .scalar) (name : Text) :
    v.child? name = .ok none := by
  have hslot : v.slot? name = .ok none := by
    unfold slot?
    split
    · cases h
    · cases h
    · rw [if_neg (by rw [h]; decide)]
  rw [child?, hslot]
  rfl

theorem child?_mapping (entries : List (Value × Value)) (name : Text) :
    (mapping entries).child? name = .ok ((keyed? name entries).bind defined) := rfl

/-- What is under a name of a mapping is what an entry maps to. -/
theorem exists_entry_of_child? {entries : List (Value × Value)} {name : Text} {w : Value}
    (h : (mapping entries).child? name = .ok (some w)) : ∃ e ∈ entries, e.2 = w := by
  rw [child?_mapping] at h
  obtain ⟨u, hu, hdefined⟩ := Option.bind_eq_some_iff.1 (Except.ok.inj h)
  obtain ⟨rfl, -⟩ := defined_eq_some_iff.1 hdefined
  exact exists_mem_of_keyed? hu

/-- Entries with texts as keys are written if what they map to is. -/
theorem failsIff_writeEntries {level : Nat} {entries : List (Value × Value)}
    (hkeys : ∀ e ∈ entries, ∃ t, e.1 = text t)
    (h : ∀ e ∈ entries, FailsIff .integerLength e.2.HoldsLong (e.2.write level)) :
    FailsIff .integerLength (∃ e ∈ entries, e.1.HoldsLong ∨ e.2.HoldsLong)
      (writeEntries level entries) := by
  induction entries with
  | nil => exact .ok (by simp)
  | cons e rest ih =>
      obtain ⟨⟨t, ht⟩, hmore⟩ := List.forall_mem_cons.1 hkeys
      obtain ⟨he, hrest⟩ := List.forall_mem_cons.1 h
      obtain ⟨k, v⟩ := e
      obtain rfl : k = text t := ht
      have hname : FailsIff .integerLength (text t).HoldsLong (entryName (text t)) :=
        .ok (by rintro ⟨⟩)
      rw [writeEntries, List.exists_mem_cons_iff, or_assoc]
      exact hname.bind fun _ => he.bind fun _ => (ih hmore hrest).map _

namespace IsPlain

/-- What is under a name of a plain value is plain. -/
theorem child? {v : Value} (hv : v.IsPlain) (name : Text) :
    ∃ found, v.child? name = .ok found ∧ ∀ w ∈ found, w.IsPlain := by
  cases hv with
  | null => exact ⟨none, rfl, nofun⟩
  | scalar h => exact ⟨none, child?_of_scalar h name, nofun⟩
  | @mapping entries _ hplain =>
      refine ⟨_, rfl, fun w hw => ?_⟩
      obtain ⟨e, he, rfl⟩ := exists_entry_of_child? (congrArg Except.ok hw)
      exact hplain e he

/-- A plain value is no group. -/
theorem firstOfGroup {v : Value} (hv : v.IsPlain) : v.firstOfGroup = .ok none := by
  obtain ⟨found, hfound, hplain⟩ := hv.child? ['n', 'o', 'd', 'e', 's']
  rw [Value.firstOfGroup, hfound]
  cases found with
  | none => rfl
  | some group =>
      have hshape : group.shape ≠ .sequence := by
        cases hplain group rfl with
        | null => decide
        | scalar h => rw [h]; decide
        | mapping _ _ => exact nofun
      exact if_neg hshape

/-- **In a plain value a path is looked up on the value itself.** -/
theorem lookupField_eq {v : Value} (hv : v.IsPlain) (path : List Text) :
    v.lookupField path = v.lookup path :=
  lookupField_eq_lookup hv.firstOfGroup path

/-- **Where a path leads in a plain value**: nowhere or to a plain value, and without a fault. -/
theorem lookup {v : Value} (hv : v.IsPlain) (path : List Text) :
    ∃ found, v.lookup path = .ok found ∧ ∀ w ∈ found, w.IsPlain := by
  induction path generalizing v with
  | nil => exact ⟨_, rfl, fun w hw => (defined_eq_some_iff.1 hw).1 ▸ hv⟩
  | cons name path ih =>
      obtain ⟨found, hfound, hplain⟩ := hv.child? name
      rw [Value.lookup, hfound]
      cases found with
      | none => exact ⟨none, rfl, nofun⟩
      | some w => exact ih (hplain w rfl)

/-- A path leads to an integer of too many digits only in a value that holds one. -/
theorem holdsLong_of_lookup {v : Value} (hv : v.IsPlain) {path : List Text} {w : Value}
    (hw : v.lookup path = .ok (some w)) (hlong : w.HoldsLong) : v.HoldsLong := by
  induction path generalizing v with
  | nil =>
      obtain ⟨rfl, -⟩ := defined_eq_some_iff.1 (Except.ok.inj hw)
      exact hlong
  | cons name path ih =>
      obtain ⟨found, hfound, hplain⟩ := hv.child? name
      rw [Value.lookup, hfound] at hw
      cases found with
      | none => cases hw
      | some u =>
          have hu : u.HoldsLong := ih (hplain u rfl) hw
          cases hv with
          | null => cases hfound
          | scalar h =>
              rw [child?_of_scalar h] at hfound
              cases hfound
          | mapping _ _ =>
              obtain ⟨e, he, rfl⟩ := exists_entry_of_child? hfound
              exact .entry he hu

/-- **Which plain values can be shown**: those without an integer of too many digits.  Their keys
are texts, and there is no model in them. -/
theorem failsIff_write {v : Value} (hv : v.IsPlain) (level : Nat) :
    FailsIff .integerLength v.HoldsLong (v.write level) := by
  induction hv generalizing level with
  | null => exact .ok (by rintro ⟨⟩)
  | scalar hshape => exact failsIff_write_of_scalar hshape level
  | mapping hkeys _ ih =>
      rw [write, holdsLong_mapping_iff]
      exact (failsIff_writeEntries hkeys fun e he => ih e he _).map _

theorem failsIff_serialize {v : Value} (hv : v.IsPlain) :
    FailsIff .integerLength v.HoldsLong v.serialize :=
  hv.failsIff_write 0

end IsPlain

/-! ### What is kept of a value -/

mutual

/-- The value with only those entries, of its mapping and of the mappings in it, whose path from
the root `keep` accepts. -/
def restrict (keep : List Text → Bool) : Value → Value
  | mapping entries => mapping (restrictEntries keep entries)
  | v => v

/-- The entries that are kept, and of each what is kept. -/
def restrictEntries (keep : List Text → Bool) : List (Value × Value) → List (Value × Value)
  | [] => []
  | (text t, v) :: rest =>
    if keep [t] then (text t, restrict (fun p => keep (t :: p)) v) :: restrictEntries keep rest
    else restrictEntries keep rest
  | _ :: rest => restrictEntries keep rest

end

theorem restrict_of_shape_ne {v : Value} (h : v.shape ≠ .mapping) (keep : List Text → Bool) :
    v.restrict keep = v := by
  cases v with
  | mapping _ => exact absurd rfl h
  | _ => rfl

/-- What is kept of a value is stepped into as the value is. -/
theorem shape_restrict (keep : List Text → Bool) (v : Value) :
    (v.restrict keep).shape = v.shape := by
  cases v <;> rfl

theorem defined_restrict (keep : List Text → Bool) (v : Value) :
    (v.restrict keep).defined = v.defined.map (restrict keep) := by
  cases v <;> rfl

theorem restrictEntries_of_ne_text {keep : List Text → Bool} {k v : Value} (hk : ∀ t, k ≠ text t)
    {rest : List (Value × Value)} :
    restrictEntries keep ((k, v) :: rest) = restrictEntries keep rest := by
  rw [restrictEntries]
  exact fun t w h => hk t (Prod.mk.inj h).1

theorem keyed?_of_ne_text {name : Text} {k v : Value} (hk : ∀ t, k ≠ text t)
    {rest : List (Value × Value)} : keyed? name ((k, v) :: rest) = keyed? name rest := by
  rw [keyed?]
  exact fun t w h => hk t (Prod.mk.inj h).1

/-- The entries that are kept. -/
theorem mem_restrictEntries {keep : List Text → Bool} {e : Value × Value}
    {entries : List (Value × Value)} : e ∈ restrictEntries keep entries ↔
      ∃ t v, (text t, v) ∈ entries ∧ keep [t] = true ∧
        e = (text t, restrict (fun p => keep (t :: p)) v) := by
  induction entries with
  | nil => simp [restrictEntries]
  | cons e' rest ih =>
      obtain ⟨k, v⟩ := e'
      by_cases hk : ∃ t, k = text t
      · obtain ⟨t, rfl⟩ := hk
        rw [restrictEntries]
        split
        · next hkeep =>
          rw [List.mem_cons, ih]
          constructor
          · rintro (rfl | ⟨t', v', hmem, hkept, rfl⟩)
            · exact ⟨t, v, List.mem_cons_self, hkeep, rfl⟩
            · exact ⟨t', v', List.mem_cons_of_mem _ hmem, hkept, rfl⟩
          · rintro ⟨t', v', hmem, hkept, rfl⟩
            rcases List.mem_cons.1 hmem with heq | hmem
            · cases heq
              exact .inl rfl
            · exact .inr ⟨t', v', hmem, hkept, rfl⟩
        · next hdrop =>
          rw [ih]
          constructor
          · rintro ⟨t', v', hmem, hkept, rfl⟩
            exact ⟨t', v', List.mem_cons_of_mem _ hmem, hkept, rfl⟩
          · rintro ⟨t', v', hmem, hkept, rfl⟩
            rcases List.mem_cons.1 hmem with heq | hmem
            · cases heq
              exact absurd hkept hdrop
            · exact ⟨t', v', hmem, hkept, rfl⟩
      · have hk' : ∀ t, k ≠ text t := fun t ht => hk ⟨t, ht⟩
        rw [restrictEntries_of_ne_text hk', ih]
        simp only [List.mem_cons, Prod.mk.injEq, fun t => (hk' t).symm, false_and, false_or]

/-- The entry of a name is kept or dropped with the name. -/
theorem keyed?_restrictEntries (keep : List Text → Bool) (name : Text)
    (entries : List (Value × Value)) : keyed? name (restrictEntries keep entries) =
      if keep [name] then (keyed? name entries).map (restrict fun p => keep (name :: p))
      else none := by
  induction entries with
  | nil => cases keep [name] <;> rfl
  | cons e rest ih =>
      obtain ⟨k, v⟩ := e
      by_cases hk : ∃ t, k = text t
      · obtain ⟨t, rfl⟩ := hk
        rw [restrictEntries]
        by_cases ht : t = name
        · subst ht
          cases hkeep : keep [t] with
          | true => simp [keyed?]
          | false => simpa [hkeep] using ih
        · -- The entry of another name is passed over, whether it is kept or not.
          rw [keyed?, if_neg ht, ← ih]
          split
          · rw [keyed?, if_neg ht]
          · rfl
      · have hk' : ∀ t, k ≠ text t := fun t ht => hk ⟨t, ht⟩
        rw [restrictEntries_of_ne_text hk', keyed?_of_ne_text hk', ih]

namespace IsPlain

variable {v : Value} {keep : List Text → Bool}

/-- **What is kept of a plain value is plain.** -/
theorem restrict (hv : v.IsPlain) (keep : List Text → Bool) : (v.restrict keep).IsPlain := by
  induction hv generalizing keep with
  | null => exact .null
  | @scalar v h =>
      rw [restrict_of_shape_ne (by rw [h]; decide)]
      exact .scalar h
  | mapping _ _ ih =>
      refine .mapping (fun e he => ?_) fun e he => ?_
      · obtain ⟨t, _, _, _, rfl⟩ := mem_restrictEntries.1 he
        exact ⟨t, rfl⟩
      · obtain ⟨t, w, hmem, _, rfl⟩ := mem_restrictEntries.1 he
        exact ih _ hmem _

/-- Nothing is held by what is kept that the value does not hold. -/
theorem holdsLong_of_restrict (hv : v.IsPlain) (h : (v.restrict keep).HoldsLong) : v.HoldsLong := by
  induction hv generalizing keep with
  | null => exact h
  | scalar hshape => rwa [restrict_of_shape_ne (by rw [hshape]; decide)] at h
  | mapping _ _ ih =>
      rw [Value.restrict, holdsLong_mapping_iff] at h
      obtain ⟨e, he, h⟩ := h
      obtain ⟨t, w, hmem, _, rfl⟩ := mem_restrictEntries.1 he
      rcases h with h | h
      · cases h
      · exact .entry hmem (ih _ hmem h)

/-- A step in what is kept of a plain value. -/
theorem child?_restrict (hv : v.IsPlain) (keep : List Text → Bool) (name : Text) :
    (v.restrict keep).child? name =
      if keep [name] then
        (v.child? name).map (Option.map (Value.restrict fun p => keep (name :: p)))
      else .ok none := by
  cases hv with
  | null => split <;> rfl
  | scalar h =>
      rw [restrict_of_shape_ne (by rw [h]; decide), child?_of_scalar h]
      split <;> rfl
  | @mapping entries _ _ =>
      rw [Value.restrict, child?_mapping, child?_mapping, keyed?_restrictEntries]
      split
      · cases keyed? name entries with
        | none => rfl
        | some w => exact congrArg Except.ok (defined_restrict _ w)
      · rfl

/-- **A path whose starts are all kept** leads to what is kept of where it led. -/
theorem lookup_restrict (hv : v.IsPlain) {path : List Text}
    (hkeep : ∀ p, IsStart p path → keep p = true) : (v.restrict keep).lookup path =
      (v.lookup path).map (Option.map (Value.restrict fun p => keep (path ++ p))) := by
  induction path generalizing v keep with
  | nil => exact congrArg Except.ok (defined_restrict keep v)
  | cons name path ih =>
      obtain ⟨found, hfound, hplain⟩ := hv.child? name
      have hname : keep [name] = true := hkeep _ (isStart_cons.2 (.inl rfl))
      rw [Value.lookup, Value.lookup, hv.child?_restrict, if_pos hname, hfound]
      cases found with
      | none => rfl
      | some w =>
          exact ih (hplain w rfl) fun p hp => hkeep _ (isStart_cons.2 (.inr ⟨p, hp, rfl⟩))

/-- **A path with a start that is dropped** leads nowhere. -/
theorem lookup_restrict_of_dropped (hv : v.IsPlain) {p path : List Text} (hp : IsStart p path)
    (hdrop : keep p = false) : (v.restrict keep).lookup path = .ok none := by
  induction path generalizing v keep p with
  | nil => exact absurd hp Selection.not_isStart_nil
  | cons name path ih =>
      obtain ⟨found, hfound, hplain⟩ := hv.child? name
      rw [Value.lookup, hv.child?_restrict, hfound]
      rcases isStart_cons.1 hp with rfl | ⟨q, hq, rfl⟩
      · rw [hdrop]
        rfl
      · split
        · cases found with
          | none => rfl
          | some w => exact ih (hplain w rfl) hq hdrop
        · rfl

end IsPlain

/-! ### What is selected of a record -/

/-- The record with the entries that are selected: those whose path is a path of names in the
selection. -/
def restrictTo (selection : Selection) (record : Value) : Value :=
  record.restrict fun p => p ∈ selection.namePaths

theorem IsPlain.restrictTo {record : Value} (h : record.IsPlain) (selection : Selection) :
    (record.restrictTo selection).IsPlain :=
  h.restrict _

/-- **A path whose starts are all selected** leads to what is selected of where it led. -/
theorem IsPlain.lookup_restrictTo {record : Value} (hrecord : record.IsPlain)
    {selection : Selection} {path : List Text}
    (hselected : ∀ p, IsStart p path → p ∈ selection.namePaths) :
    (record.restrictTo selection).lookup path = (record.lookup path).map
      (Option.map (Value.restrict fun p => path ++ p ∈ selection.namePaths)) :=
  hrecord.lookup_restrict fun p hp => decide_eq_true (hselected p hp)

end Value
end Permalink
