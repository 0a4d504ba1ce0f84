import Permalink.Proofs.Value.Paths

/-!
# Value — paths one behind the other

* `lookup_append`: a path that is put together of two is looked up as the first on the value and the
  second on what that finds.
* `lookupField_eq_of_first`, `lookupField_eq_of_none`: on a record the first item of its group
  decides; only where there is none, or where it has nothing at the path, is the path looked up on
  the record itself.
* `lookup_composes`: both, with what is found.  That is never null, but may be what counts as false.
-/

namespace Permalink
namespace Value

variable {v w record item : Value} {path : List Text}

/-- **A path of two** is looked up as one and then the other. -/
theorem lookup_append (v : Value) (front rest : List Text) :
    v.lookup (front ++ rest) = v.lookup front >>= fun found =>
      match found with
      | none => .ok none
      | some w => w.lookup rest := by
  induction front generalizing v with
  | nil =>
      rw [List.nil_append, lookup]
      cases h : v.defined with
      | none =>
          obtain rfl := defined_eq_none_iff.1 h
          exact lookup_null rest
      | some w =>
          obtain ⟨rfl, -⟩ := defined_eq_some_iff.1 h
          rfl
  | cons name front ih =>
      rw [List.cons_append, lookup, lookup]
      cases v.child? name with
      | error f => rfl
      | ok found =>
          cases found with
          | none => rfl
          | some w => exact ih w

/-- **The first item decides** where it has something at the path. -/
theorem lookupField_eq_of_first (hfirst : record.firstOfGroup = .ok (some item))
    (hitem : item.lookup path = .ok (some w)) : record.lookupField path = .ok (some w) := by
  rw [lookupField, hfirst]
  change (item.lookup path >>= _) = _
  rw [hitem]
  rfl

/-- **Where it has nothing**, the record does. -/
theorem lookupField_eq_of_none (hfirst : record.firstOfGroup = .ok (some item))
    (hitem : item.lookup path = .ok none) : record.lookupField path = record.lookup path := by
  rw [lookupField, hfirst]
  change (item.lookup path >>= _) = _
  rw [hitem]
  rfl

theorem IsFirstOf.ne_null (h : IsFirstOf record item) : item ≠ null := by
  obtain ⟨group, -, -, hholds⟩ := h
  exact hholds.ne_null

/-- What is found on a record is where the path leads from what it is looked up on. -/
theorem exists_origin_of_lookupField (h : record.lookupField path = .ok (some w)) :
    ∃ origin, IsOrigin record origin ∧ Leads origin path w ∧ w ≠ null := by
  rcases lookupField_cases record path with
    ⟨-, f, hlookup⟩ | ⟨-, ⟨-, hlookup⟩ | ⟨item, hfirst, hlookup⟩⟩
  · rw [hlookup] at h
    cases h
  · rw [hlookup] at h
    exact ⟨record, .record, lookup_eq_some_iff.1 h⟩
  · rw [hlookup] at h
    obtain ⟨found, hfound, h⟩ := Outcome.bind_eq_ok.1 h
    cases found with
    | none => exact ⟨record, .record, lookup_eq_some_iff.1 h⟩
    | some u =>
        cases h
        exact ⟨item, .first ((hfirst item).2 rfl), lookup_eq_some_iff.1 hfound⟩

/-- **Looking up composes, and the first item of a group goes first.**

A path put together of two is looked up as the first and then, on what that finds, as the second; it
finds nothing, or fails, where the first does.  A lookup finds just the value to which the path
leads, unless that is null; so do the search for a first item and the lookup on a record, and a
value that counts as false is found like any other.

On records with the same first item, whatever else they hold, a path that leads somewhere from that
item gives the same.  On a record with no such item, or with one on which the path finds nothing, it
is looked up as on any value. -/
theorem lookup_composes :
    (∀ (v : Value) (p q : List Text), v.lookup (p ++ q) = v.lookup p >>= fun found =>
      match found with
      | none => .ok none
      | some w => w.lookup q) ∧
    (∀ (v w : Value) (p : List Text), v.lookup p = .ok (some w) ↔ Leads v p w ∧ w ≠ null) ∧
    (∀ record item : Value,
      record.firstOfGroup = .ok (some item) ↔ IsFirstOf record item ∧ item ≠ null) ∧
    (∀ (record w : Value) (p : List Text), record.lookupField p = .ok (some w) →
      ∃ origin, IsOrigin record origin ∧ Leads origin p w ∧ w ≠ null) ∧
    (∀ (record record' item w : Value) (p : List Text), record.firstOfGroup = .ok (some item) →
      record'.firstOfGroup = .ok (some item) → item.lookup p = .ok (some w) →
      record.lookupField p = .ok (some w) ∧ record'.lookupField p = .ok (some w)) ∧
    (∀ (record : Value) (p : List Text), record.firstOfGroup = .ok none →
      record.lookupField p = record.lookup p) ∧
    ∀ (record item : Value) (p : List Text), record.firstOfGroup = .ok (some item) →
      item.lookup p = .ok none → record.lookupField p = record.lookup p := by
  refine ⟨lookup_append, fun _ _ _ => lookup_eq_some_iff, ?_,
    fun _ _ _ => exists_origin_of_lookupField, ?_, fun _ p h => lookupField_eq_lookup h p,
    fun _ _ _ => lookupField_eq_of_none⟩
  · intro record item
    rw [firstOfGroup_eq_some_iff]
    exact ⟨fun h => ⟨h, h.ne_null⟩, And.left⟩
  · intro record record' item w p hfirst hfirst' hitem
    exact ⟨lookupField_eq_of_first hfirst hitem, lookupField_eq_of_first hfirst' hitem⟩

/-- A group of which the first item maps `a` to what counts as false. -/
def falsyGroup (w : Value) : Value :=
  mapping [(text ['n', 'o', 'd', 'e', 's'], items .list [mapping [(text ['a'], w)]]),
    (text ['a'], text ['x']), (text ['b'], text [])]

/-- Zero, falsehood, the empty text and the empty list are found on the first item, although the
group has more to offer; what the item lacks is found on the group. -/
theorem lookup_composes_falsy :
    (falsyGroup (int 0)).lookupField [['a']] = .ok (some (int 0)) ∧
    (falsyGroup (bool false)).lookupField [['a']] = .ok (some (bool false)) ∧
    (falsyGroup (text [])).lookupField [['a']] = .ok (some (text [])) ∧
    (falsyGroup (items .list [])).lookupField [['a']] = .ok (some (items .list [])) ∧
    (falsyGroup null).lookupField [['a']] = .ok (some (text ['x'])) ∧
    (falsyGroup (int 0)).lookupField [['b']] = .ok (some (text [])) := by
  obtain ⟨-, -, -, -, hfirst, -, hnone⟩ := lookup_composes
  have hfound : ∀ w, (mapping [(text ['a'], w)]).lookup [['a']] = .ok (some w) →
      (falsyGroup w).lookupField [['a']] = .ok (some w) := fun w hw =>
    (hfirst (falsyGroup w) (falsyGroup w) _ w _ rfl rfl hw).1
  exact ⟨hfound _ rfl, hfound _ rfl, hfound _ rfl, hfound _ rfl,
    (hnone _ (mapping [(text ['a'], null)]) _ rfl rfl).trans rfl,
    (hnone _ (mapping [(text ['a'], int 0)]) _ rfl rfl).trans rfl⟩

end Value
end Permalink
