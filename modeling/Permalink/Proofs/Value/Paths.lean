import Permalink.Proofs.Outcome
import Permalink.Proofs.Template.Canonical
import Permalink.Proofs.Value.Index

/-!
# Value — where paths lead, break off and stick

A value *holds* others under names: a mapping what the first entry of a name maps it to, a model
what its first field of that name is, a sequence the item at the index that the name writes.  What
is null is not held (`Holds`).  A path *leads* from a value to another through values that are held,
name by name (`Leads`).

Where it leads nowhere there is a name in it under which the value reached so far holds nothing, and
there the path *breaks off* (`BreaksOff`).  It *sticks* there if that value is a sequence and the
name is of digits but cannot be read, or is a number but the items cannot be counted (`Sticks`).

* `lookup_eq_some_iff`, `exists_lookup_eq_error_iff`: a lookup finds where a path leads, and fails
  for just the paths that stick.
* `exists_lookupField_iff`: the lookup of a segment on a record fails just if the items of the
  record's group cannot be counted, or if its path sticks on what it is looked up on, which is the
  first item of the group, if there is one, and the record itself if the path breaks off on that.
  Where it does not fail, it finds nothing just if the path breaks off on both.
* `lookupField_raised_digit`: a path that does stick.
-/

namespace Permalink

namespace Value

/-! ### What a value holds -/

/-- The first entry of a key maps it to `w`. -/
inductive FirstEntry {κ : Type} (key : κ) (w : Value) : List (κ × Value) → Prop where
  | here {rest : List (κ × Value)} : FirstEntry key w ((key, w) :: rest)
  | there {e : κ × Value} {rest : List (κ × Value)} : e.1 ≠ key → FirstEntry key w rest →
      FirstEntry key w (e :: rest)

/-- The value holds another under a name. -/
inductive Holds : Value → Text → Value → Prop where
  | entry {entries : List (Value × Value)} {name : Text} {w : Value} :
      FirstEntry (text name) w entries → w ≠ null → Holds (mapping entries) name w
  | field {modelName : Text} {isOpen : Bool} {fields extra : List (Text × Value)} {name : Text}
      {w : Value} : FirstEntry name w (fields ++ extra) → w ≠ null →
      Holds (model modelName isOpen fields extra) name w
  | item {v : Value} {name : Text} {n : Nat} {w : Value} : v.shape = .sequence → Writes name n →
      v.item? n = .ok (some w) → w ≠ null → Holds v name w

/-- The value is a range of more terms than are counted. -/
def Uncountable (v : Value) : Prop := ∃ p, v = range p ∧ Fault.termLimit < p.length

/-- A name fails in the value: that is a sequence, and the name is made of digits that cannot be
read, or it is a number and the items cannot be counted. -/
structure SticksAt (v : Value) (name : Text) : Prop where
  sequence : v.shape = .sequence
  stuck : Unreadable name ∨ (∃ n, Writes name n) ∧ Uncountable v

theorem firstEntry_cons_iff {κ : Type} {key : κ} {w : Value} {e : κ × Value}
    {rest : List (κ × Value)} :
    FirstEntry key w (e :: rest) ↔ e = (key, w) ∨ e.1 ≠ key ∧ FirstEntry key w rest := by
  constructor
  · intro h
    cases h with
    | here => exact .inl rfl
    | there hne hrest => exact .inr ⟨hne, hrest⟩
  · rintro (rfl | ⟨hne, hrest⟩)
    · exact .here
    · exact .there hne hrest

theorem keyed?_eq_some_iff {name : Text} {w : Value} {entries : List (Value × Value)} :
    keyed? name entries = some w ↔ FirstEntry (text name) w entries := by
  induction entries using keyed?.induct name with
  | case1 => exact ⟨nofun, nofun⟩
  | case2 v rest => simp [keyed?, firstEntry_cons_iff]
  | case3 t v rest hne ih => simp [keyed?, firstEntry_cons_iff, hne, ih]
  | case4 e rest hkey ih =>
      have hne : e.1 ≠ text name := fun he => hkey name e.2 (Prod.ext he rfl)
      rw [keyed?, ih, firstEntry_cons_iff]
      · constructor
        · exact fun h => .inr ⟨hne, h⟩
        · rintro (rfl | ⟨-, h⟩)
          · exact absurd rfl hne
          · exact h
      · exact hkey

theorem lookup_eq_some_iff_firstEntry {name : Text} {w : Value} {fields : List (Text × Value)} :
    fields.lookup name = some w ↔ FirstEntry name w fields := by
  induction fields with
  | nil => exact ⟨nofun, nofun⟩
  | cons e rest ih =>
      obtain ⟨k, v⟩ := e
      rw [List.lookup_cons, firstEntry_cons_iff]
      by_cases hk : k = name
      · subst hk
        simp
      · rw [beq_false_of_ne (Ne.symm hk)]
        simp [hk, ih]

theorem fields_eq_some_iff {name : Text} {w : Value} {fields extra : List (Text × Value)} :
    (field? name fields <|> field? name extra) = some w ↔ FirstEntry name w (fields ++ extra) := by
  rw [← lookup_eq_some_iff_firstEntry, List.lookup_append, field?, field?]
  cases fields.lookup name with
  | none => rfl
  | some v => rfl

/-- What is in a slot is found unless it is null. -/
theorem child?_eq_some_iff_slot? {v w : Value} {name : Text} :
    v.child? name = .ok (some w) ↔ v.slot? name = .ok (some w) ∧ w ≠ null := by
  rw [child?, Outcome.map_eq_ok]
  constructor
  · rintro ⟨found, hslot, hfound⟩
    obtain ⟨u, rfl, hu⟩ := Option.bind_eq_some_iff.1 hfound
    obtain ⟨rfl, hne⟩ := defined_eq_some_iff.1 hu
    exact ⟨hslot, hne⟩
  · rintro ⟨hslot, hne⟩
    exact ⟨some w, hslot, defined_eq_some_iff.2 ⟨rfl, hne⟩⟩

theorem slot?_of_sequence {v : Value} (h : v.shape = .sequence) (name : Text) :
    v.slot? name = v.itemNamed? name := by
  unfold slot?
  split
  · cases h
  · cases h
  · rw [if_pos h]

/-- A number as a name leads to the item at that index. -/
theorem itemNamed?_of_writes {name : Text} {n : Nat} (h : Writes name n) (v : Value) :
    v.itemNamed? name = v.item? n := by
  rw [itemNamed?, index?_eq_some_iff.2 h]
  rfl

theorem itemNamed?_eq_some_iff {v w : Value} {name : Text} :
    v.itemNamed? name = .ok (some w) ↔ ∃ n, Writes name n ∧ v.item? n = .ok (some w) := by
  rw [itemNamed?, Outcome.bind_eq_ok]
  constructor
  · rintro ⟨index, hindex, hitem⟩
    cases index with
    | none => cases hitem
    | some n => exact ⟨n, index?_eq_some_iff.1 hindex, hitem⟩
  · rintro ⟨n, hwrites, hitem⟩
    exact ⟨some n, index?_eq_some_iff.2 hwrites, hitem⟩

/-- An index fails in a range of too many terms, and nowhere else. -/
theorem exists_item?_eq_error_iff {v : Value} {n : Nat} :
    (∃ f, v.item? n = .error f) ↔ Uncountable v := by
  unfold item?
  split
  · exact Outcome.exists_ok_eq_error_iff nofun
  · exact Outcome.exists_ok_eq_error_iff nofun
  · next p =>
    rw [Outcome.exists_map_eq_error_iff, Progression.count]
    split
    · next hle =>
      refine Outcome.exists_ok_eq_error_iff ?_
      rintro ⟨_, ⟨⟩, hlong⟩
      exact absurd hle (Nat.not_le.2 hlong)
    · next hlong => exact ⟨fun _ => ⟨p, rfl, Nat.not_le.1 hlong⟩, fun _ => ⟨_, rfl⟩⟩
  · next hrange =>
    refine Outcome.exists_ok_eq_error_iff ?_
    rintro ⟨p, rfl, -⟩
    exact hrange p rfl

theorem exists_itemNamed?_eq_error_iff {v : Value} {name : Text} :
    (∃ f, v.itemNamed? name = .error f) ↔
      Unreadable name ∨ (∃ n, Writes name n) ∧ Uncountable v := by
  rcases index?_cases name with ⟨hother, h⟩ | ⟨n, hn, -⟩ | ⟨hunreadable, f, h⟩
  · rw [itemNamed?, h]
    refine Outcome.exists_ok_eq_error_iff ?_
    rintro (hname | ⟨⟨n, hname⟩, -⟩)
    · exact not_other hname.ne_nil hname.digits hother
    · exact not_other hname.ne_nil hname.digits hother
  · rw [itemNamed?_of_writes hn, exists_item?_eq_error_iff]
    exact ⟨fun hlong => .inr ⟨⟨n, hn⟩, hlong⟩,
      fun hstuck => (hstuck.resolve_left hn.not_unreadable).2⟩
  · rw [itemNamed?, h]
    exact ⟨fun _ => .inl hunreadable, fun _ => ⟨f, rfl⟩⟩

/-- **What is found under a name** is what the value holds there. -/
theorem child?_eq_some_iff {v w : Value} {name : Text} :
    v.child? name = .ok (some w) ↔ Holds v name w := by
  rw [child?_eq_some_iff_slot?]
  constructor
  · rintro ⟨hslot, hne⟩
    unfold slot? at hslot
    split at hslot
    · exact .entry (keyed?_eq_some_iff.1 (Except.ok.inj hslot)) hne
    · exact .field (fields_eq_some_iff.1 (Except.ok.inj hslot)) hne
    · split at hslot
      · next hshape =>
        obtain ⟨n, hwrites, hitem⟩ := itemNamed?_eq_some_iff.1 hslot
        exact .item hshape hwrites hitem hne
      · cases hslot
  · intro h
    cases h with
    | entry hfirst hne => exact ⟨congrArg Except.ok (keyed?_eq_some_iff.2 hfirst), hne⟩
    | field hfirst hne => exact ⟨congrArg Except.ok (fields_eq_some_iff.2 hfirst), hne⟩
    | item hshape hwrites hitem hne =>
        rw [slot?_of_sequence hshape, itemNamed?_of_writes hwrites]
        exact ⟨hitem, hne⟩

/-- **Where a name fails.** -/
theorem exists_child?_eq_error_iff {v : Value} {name : Text} :
    (∃ f, v.child? name = .error f) ↔ SticksAt v name := by
  rw [child?, Outcome.exists_map_eq_error_iff]
  by_cases hshape : v.shape = .sequence
  · rw [slot?_of_sequence hshape, exists_itemNamed?_eq_error_iff]
    exact ⟨fun hstuck => ⟨hshape, hstuck⟩, SticksAt.stuck⟩
  · constructor
    · rintro ⟨f, hf⟩
      unfold slot? at hf
      split at hf
      · cases hf
      · cases hf
      · rw [if_neg hshape] at hf
        cases hf
    · intro hsticks
      exact absurd hsticks.sequence hshape

theorem Holds.ne_null {v w : Value} {name : Text} (h : Holds v name w) : w ≠ null := by
  cases h with
  | entry _ hne => exact hne
  | field _ hne => exact hne
  | item _ _ _ hne => exact hne

/-- A value holds one other under a name. -/
theorem Holds.unique {v w u : Value} {name : Text} (hw : Holds v name w) (hu : Holds v name u) :
    w = u := by
  rw [← child?_eq_some_iff] at hw hu
  rw [hw] at hu
  exact Option.some.inj (Except.ok.inj hu)

/-! ### Where paths lead -/

/-- A path leads from a value to another through values that are held. -/
inductive Leads : Value → List Text → Value → Prop where
  | nil {v : Value} : Leads v [] v
  | cons {v w u : Value} {name : Text} {path : List Text} : Holds v name w → Leads w path u →
      Leads v (name :: path) u

/-- The path leads to a value that, with the name that is next, is of the class `P`. -/
def Meets (P : Value → Text → Prop) (v : Value) (path : List Text) : Prop :=
  ∃ front name rest w, path = front ++ name :: rest ∧ Leads v front w ∧ P w name

/-- The path has a name under which the value reached holds nothing. -/
def BreaksOff (v : Value) (path : List Text) : Prop :=
  Meets (fun w name => ∀ u, ¬ Holds w name u) v path

/-- The path has a name that fails in the value reached. -/
def Sticks (v : Value) (path : List Text) : Prop := Meets SticksAt v path

section Leads

variable {P : Value → Text → Prop} {v w : Value} {name : Text} {path : List Text}

theorem leads_nil_iff : Leads v [] w ↔ v = w := by
  constructor
  · intro h
    cases h
    rfl
  · rintro rfl
    exact .nil

theorem leads_cons_iff {u : Value} :
    Leads v (name :: path) u ↔ ∃ w, Holds v name w ∧ Leads w path u := by
  constructor
  · intro h
    cases h with
    | cons hholds hleads => exact ⟨_, hholds, hleads⟩
  · rintro ⟨w, hholds, hleads⟩
    exact .cons hholds hleads

theorem not_meets_nil : ¬ Meets P v [] := by
  rintro ⟨front, name, rest, w, hpath, -, -⟩
  simp at hpath

/-- The first name is met at once, any other behind it. -/
theorem meets_cons_iff :
    Meets P v (name :: path) ↔ P v name ∨ ∃ w, Holds v name w ∧ Meets P w path := by
  constructor
  · rintro ⟨front, name', rest, w, hpath, hleads, hP⟩
    cases hleads with
    | nil =>
        obtain ⟨rfl, -⟩ := List.cons.inj hpath
        exact .inl hP
    | cons hholds hleads =>
        rw [List.cons_append, List.cons.injEq] at hpath
        obtain ⟨rfl, rfl⟩ := hpath
        exact .inr ⟨_, hholds, _, _, _, _, rfl, hleads, hP⟩
  · rintro (hP | ⟨w, hholds, front, name', rest, w', rfl, hleads, hP⟩)
    · exact ⟨[], name, path, v, rfl, .nil, hP⟩
    · exact ⟨name :: front, name', rest, w', rfl, .cons hholds hleads, hP⟩

/-- **A path leads somewhere or breaks off.** -/
theorem breaksOff_iff : BreaksOff v path ↔ ∀ w, ¬ Leads v path w := by
  induction path generalizing v with
  | nil => exact ⟨fun h => absurd h not_meets_nil, fun h => absurd .nil (h v)⟩
  | cons name path ih =>
      rw [BreaksOff, meets_cons_iff]
      simp only [leads_cons_iff]
      constructor
      · rintro (hnone | ⟨w, hw, hbreaks⟩) u ⟨w', hw', hleads⟩
        · exact hnone w' hw'
        · obtain rfl := hw.unique hw'
          exact ih.1 hbreaks u hleads
      · intro hnone
        by_cases hname : ∃ w, Holds v name w
        · obtain ⟨w, hw⟩ := hname
          exact .inr ⟨w, hw, ih.2 fun u hu => hnone u ⟨w, hw, hu⟩⟩
        · exact .inl fun u hu => hname ⟨u, hu⟩

/-- A path of names leads to no null. -/
theorem Leads.ne_null (h : Leads v path w) (hpath : path ≠ []) : w ≠ null := by
  induction h with
  | nil => exact absurd rfl hpath
  | @cons v w u name path hholds hleads ih =>
      by_cases hnil : path = []
      · subst hnil
        rw [← leads_nil_iff.1 hleads]
        exact hholds.ne_null
      · exact ih hnil

/-! ### Looking up a path -/

/-- **A lookup finds where the path leads.** -/
theorem lookup_eq_some_iff : v.lookup path = .ok (some w) ↔ Leads v path w ∧ w ≠ null := by
  induction path generalizing v with
  | nil =>
      rw [lookup, Except.ok.injEq, defined_eq_some_iff, leads_nil_iff]
      constructor
      · rintro ⟨rfl, hne⟩
        exact ⟨rfl, hne⟩
      · rintro ⟨rfl, hne⟩
        exact ⟨rfl, hne⟩
  | cons name path ih =>
      rw [lookup, Outcome.bind_eq_ok, leads_cons_iff]
      constructor
      · rintro ⟨found, hfound, h⟩
        cases found with
        | none => cases h
        | some u =>
            obtain ⟨hleads, hne⟩ := ih.1 h
            exact ⟨⟨u, child?_eq_some_iff.1 hfound, hleads⟩, hne⟩
      · rintro ⟨⟨u, hholds, hleads⟩, hne⟩
        exact ⟨some u, child?_eq_some_iff.2 hholds, ih.2 ⟨hleads, hne⟩⟩

/-- **A lookup fails where the path sticks.** -/
theorem exists_lookup_eq_error_iff : (∃ f, v.lookup path = .error f) ↔ Sticks v path := by
  induction path generalizing v with
  | nil =>
      refine ⟨?_, fun h => absurd h not_meets_nil⟩
      rintro ⟨f, hf⟩
      cases hf
  | cons name path ih =>
      rw [Sticks, meets_cons_iff, ← exists_child?_eq_error_iff]
      simp only [lookup, Outcome.bind_eq_error, exists_or]
      refine or_congr_right ?_
      constructor
      · rintro ⟨f, found, hfound, hf⟩
        cases found with
        | none => cases hf
        | some w => exact ⟨w, child?_eq_some_iff.1 hfound, ih.1 ⟨f, hf⟩⟩
      · rintro ⟨w, hholds, hsticks⟩
        obtain ⟨f, hf⟩ := ih.2 hsticks
        exact ⟨f, some w, child?_eq_some_iff.2 hholds, hf⟩

/-- **A lookup that does not fail finds nothing where the path breaks off.** -/
theorem eq_none_iff_breaksOff {found : Option Value} (hpath : path ≠ [])
    (h : v.lookup path = .ok found) : found = none ↔ BreaksOff v path := by
  rw [breaksOff_iff]
  constructor
  · rintro rfl w hleads
    rw [lookup_eq_some_iff.2 ⟨hleads, hleads.ne_null hpath⟩] at h
    cases h
  · intro hnone
    cases found with
    | none => rfl
    | some w => exact absurd (lookup_eq_some_iff.1 h).1 (hnone w)

end Leads

/-! ### Looking up a path on a record -/

/-- The value is the first item of the record's group. -/
def IsFirstOf (record item : Value) : Prop :=
  ∃ group, Holds record ['n', 'o', 'd', 'e', 's'] group ∧ group.shape = .sequence ∧
    Holds group ['0'] item

/-- A path is looked up on the first item of the record's group, if there is one, and then on the
record. -/
inductive IsOrigin (record : Value) : Value → Prop where
  | first {item : Value} : IsFirstOf record item → IsOrigin record item
  | record : IsOrigin record record

/-- The record's group is a range of more items than are counted. -/
def GroupUncountable (record : Value) : Prop :=
  ∃ group, Holds record ['n', 'o', 'd', 'e', 's'] group ∧ Uncountable group

/-- The record's group cannot be counted; or the path sticks on the first item of it or, where it
breaks off on that, on the record. -/
inductive FieldSticks (record : Value) (path : List Text) : Prop where
  | group : GroupUncountable record → FieldSticks record path
  | first {item : Value} : IsFirstOf record item → Sticks item path → FieldSticks record path
  | record : (∀ item, IsFirstOf record item → BreaksOff item path) → Sticks record path →
      FieldSticks record path

section LookupField

variable {record item : Value} {path : List Text}

theorem firstOfGroup_eq_some_iff :
    record.firstOfGroup = .ok (some item) ↔ IsFirstOf record item := by
  rw [firstOfGroup, Outcome.bind_eq_ok]
  constructor
  · rintro ⟨found, hfound, h⟩
    cases found with
    | none => cases h
    | some group =>
        dsimp only at h
        split at h
        · next hshape =>
          exact ⟨group, child?_eq_some_iff.1 hfound, hshape, child?_eq_some_iff.1 h⟩
        · cases h
  · rintro ⟨group, hgroup, hshape, hitem⟩
    refine ⟨some group, child?_eq_some_iff.2 hgroup, ?_⟩
    dsimp only
    rw [if_pos hshape]
    exact child?_eq_some_iff.2 hitem

/-- The field of a group is found or not: its name is no index. -/
theorem exists_child?_nodes (record : Value) :
    ∃ found, record.child? ['n', 'o', 'd', 'e', 's'] = .ok found := by
  cases h : record.child? ['n', 'o', 'd', 'e', 's'] with
  | ok found => exact ⟨found, rfl⟩
  | error f =>
      have hdigit : ¬ Text.isDigit 'n' = true := by decide
      rcases (exists_child?_eq_error_iff.1 ⟨f, h⟩).stuck with hname | ⟨⟨n, hname⟩, -⟩
      · exact absurd (hname.digits 'n' List.mem_cons_self) hdigit
      · exact absurd (hname.digits 'n' List.mem_cons_self) hdigit

/-- **A group is looked for without a fault**, unless its items cannot be counted. -/
theorem exists_firstOfGroup_eq_error_iff :
    (∃ f, record.firstOfGroup = .error f) ↔ GroupUncountable record := by
  have hzero : Writes ['0'] 0 := ⟨by decide, by decide, by decide⟩
  obtain ⟨found, hfound⟩ := exists_child?_nodes record
  simp only [GroupUncountable, ← child?_eq_some_iff, firstOfGroup, hfound]
  cases found with
  | none => exact Outcome.exists_ok_eq_error_iff nofun
  | some group =>
      have hgroup : (∃ g, (.ok (some group) : Except Fault (Option Value)) = .ok (some g) ∧
          Uncountable g) ↔ Uncountable group :=
        ⟨fun ⟨_, hg, hlong⟩ => Option.some.inj (Except.ok.inj hg) ▸ hlong, fun h => ⟨_, rfl, h⟩⟩
      rw [hgroup]
      show (∃ f, (if group.shape = .sequence then group.child? ['0'] else .ok none) = .error f) ↔ _
      split
      · next hshape =>
        rw [exists_child?_eq_error_iff]
        exact ⟨fun h => (h.stuck.resolve_left hzero.not_unreadable).2,
          fun hlong => ⟨hshape, .inr ⟨⟨0, hzero⟩, hlong⟩⟩⟩
      · next hshape =>
        refine Outcome.exists_ok_eq_error_iff ?_
        rintro ⟨p, rfl, -⟩
        exact hshape rfl

/-- **How a path is looked up on a record.** -/
theorem lookupField_cases (record : Value) (path : List Text) :
    (GroupUncountable record ∧ ∃ f, record.lookupField path = .error f) ∨
    ¬ GroupUncountable record ∧
      ((∀ item, ¬ IsFirstOf record item) ∧ record.lookupField path = record.lookup path ∨
      ∃ item, (∀ item', IsFirstOf record item' ↔ item' = item) ∧
        record.lookupField path = item.lookup path >>= fun found =>
          match found with
          | none => record.lookup path
          | some w => .ok (some w)) := by
  simp only [← exists_firstOfGroup_eq_error_iff, ← firstOfGroup_eq_some_iff]
  cases hfirst : record.firstOfGroup with
  | error f =>
      refine .inl ⟨⟨f, rfl⟩, f, ?_⟩
      rw [lookupField, hfirst]
      rfl
  | ok first =>
      refine .inr ⟨by simp, ?_⟩
      cases first with
      | none => exact .inl ⟨by simp, lookupField_eq_lookup hfirst path⟩
      | some item =>
          refine .inr ⟨item, fun item' => ?_, ?_⟩
          · simp [eq_comm]
          · rw [lookupField, hfirst]
            rfl

/-- **A lookup on a record fails** where the path sticks. -/
theorem exists_lookupField_eq_error_iff (hpath : path ≠ []) :
    (∃ f, record.lookupField path = .error f) ↔ FieldSticks record path := by
  rcases lookupField_cases record path with
    ⟨hgroup, hlookup⟩ | ⟨hgroup, ⟨hnone, hlookup⟩ | ⟨item, hfirst, hlookup⟩⟩
  · exact ⟨fun _ => .group hgroup, fun _ => hlookup⟩
  · rw [hlookup, exists_lookup_eq_error_iff]
    constructor
    · exact fun hsticks => .record (fun item hitem => absurd hitem (hnone item)) hsticks
    · rintro (h | @⟨item, hitem, -⟩ | ⟨-, hsticks⟩)
      · exact absurd h hgroup
      · exact absurd hitem (hnone item)
      · exact hsticks
  · rw [hlookup]
    simp only [Outcome.bind_eq_error]
    constructor
    · rintro ⟨f, hf | ⟨found, hfound, hf⟩⟩
      · exact .first ((hfirst item).2 rfl) (exists_lookup_eq_error_iff.1 ⟨f, hf⟩)
      · cases found with
        | none =>
            refine .record (fun item' hitem' => ?_) (exists_lookup_eq_error_iff.1 ⟨f, hf⟩)
            obtain rfl := (hfirst item').1 hitem'
            exact (eq_none_iff_breaksOff hpath hfound).1 rfl
        | some w => cases hf
    · rintro (h | @⟨item', hitem', hsticks⟩ | ⟨hbreaks, hsticks⟩)
      · exact absurd h hgroup
      · obtain rfl := (hfirst item').1 hitem'
        obtain ⟨f, hf⟩ := exists_lookup_eq_error_iff.2 hsticks
        exact ⟨f, .inl hf⟩
      · -- What breaks off on the item may stick on it as well.
        cases hitem : item.lookup path with
        | error f => exact ⟨f, .inl rfl⟩
        | ok found =>
            obtain rfl := (eq_none_iff_breaksOff hpath hitem).2 (hbreaks item ((hfirst item).2 rfl))
            obtain ⟨f, hf⟩ := exists_lookup_eq_error_iff.2 hsticks
            exact ⟨f, .inr ⟨none, rfl, hf⟩⟩

/-- **It finds nothing** where the path breaks off on all that it is looked up on. -/
theorem lookupField_eq_none_iff (hpath : path ≠ []) {found : Option Value}
    (h : record.lookupField path = .ok found) :
    found = none ↔ ∀ origin, IsOrigin record origin → BreaksOff origin path := by
  have horigin : (∀ origin, IsOrigin record origin → BreaksOff origin path) ↔
      (∀ item, IsFirstOf record item → BreaksOff item path) ∧ BreaksOff record path := by
    constructor
    · intro hall
      exact ⟨fun item hitem => hall item (.first hitem), hall record .record⟩
    · rintro ⟨hitem, hrecord⟩ origin (hfirst | -)
      · exact hitem origin hfirst
      · exact hrecord
  rw [horigin]
  rcases lookupField_cases record path with
    ⟨-, f, hlookup⟩ | ⟨-, ⟨hnone, hlookup⟩ | ⟨item, hfirst, hlookup⟩⟩
  · rw [hlookup] at h
    cases h
  · rw [hlookup] at h
    rw [eq_none_iff_breaksOff hpath h]
    simp [hnone]
  · simp only [hfirst, forall_eq]
    rw [hlookup] at h
    obtain ⟨first, hitem, h⟩ := Outcome.bind_eq_ok.1 h
    have hbreaks := eq_none_iff_breaksOff hpath hitem
    cases first with
    | none => rw [← hbreaks, eq_none_iff_breaksOff hpath h, eq_self, true_and]
    | some w =>
        cases h
        simp [← hbreaks]

end LookupField

end Value

namespace Template

open Value (IsOrigin BreaksOff FieldSticks)

/-- **Looking up a segment.**  The path of a segment is looked up on every record without a fault,
unless it sticks: unless it reaches a sequence where its next name is made of digits that cannot be
read as a number, or a range of more terms than are counted where its next name is a number; or
unless the record's group is such a range.  Where it does not fail, it finds nothing just if, on the
first item of the record's group and on the record, it has a name under which the value reached
holds nothing. -/
theorem exists_lookupField_iff {given : Text} {t : Template} (ht : analyze given = .ok t)
    {s : Segment} (hs : s ∈ t.segments) (record : Value) :
    ((∃ found, record.lookupField s.path = .ok found) ↔ ¬ FieldSticks record s.path) ∧
    ∀ found, record.lookupField s.path = .ok found →
      (found = none ↔ ∀ origin, IsOrigin record origin → BreaksOff origin s.path) := by
  have hpath : s.path ≠ [] := (written_of_analyze ht hs).1.path_ne_nil
  refine ⟨?_, fun found hfound => Value.lookupField_eq_none_iff hpath hfound⟩
  rw [← Value.exists_lookupField_eq_error_iff hpath]
  cases record.lookupField s.path with
  | ok found => simp
  | error f => simp

/-- The template `{P.a__²}`, of which the second name is a raised digit. -/
def raisedDigit : Template :=
  let text := "\x7bP.a__²\x7d".toList
  { given := text, stripped := text
    segments := [Segment.printed ['P'] 0 [.name ['a'], .name ['²']]], model := some ['P'] }

/-- A record of which the first item has a text where the record has a mapping. -/
def groupedRecord : Value :=
  .mapping [(.text ['n', 'o', 'd', 'e', 's'],
      .items .tuple [.mapping [(.text ['a'], .text ['1', '2'])], .null]),
    (.text ['a'], .mapping [(.text ['²'], .bool false)])]

/-- The path breaks off on the first item, and leads to a value on the record. -/
theorem exists_lookupField_iff_grouped :
    analyze raisedDigit.given = .ok raisedDigit ∧ ∃ s ∈ raisedDigit.segments,
      groupedRecord.lookupField s.path = .ok (some (.bool false)) ∧
      ¬ FieldSticks groupedRecord s.path ∧
      ¬ ∀ origin, IsOrigin groupedRecord origin → BreaksOff origin s.path := by
  have ht : analyze raisedDigit.given = .ok raisedDigit := by decide
  obtain ⟨hreturns, hnone⟩ := exists_lookupField_iff ht List.mem_cons_self groupedRecord
  have hfound : groupedRecord.lookupField [['a'], ['²']] = .ok (some (.bool false)) := rfl
  refine ⟨ht, _, List.mem_cons_self, hfound, hreturns.1 ⟨_, hfound⟩, ?_⟩
  intro hbreaks
  cases (hnone _ hfound).2 hbreaks

/-- **A raised digit as an index.**  In a list the name that is a raised digit is looked for as an
index, and fails. -/
theorem lookupField_raised_digit :
    analyze raisedDigit.given = .ok raisedDigit ∧ ∃ s ∈ raisedDigit.segments,
      (Value.mapping [(.text ['a'], .items .list [.text ['x']])]).lookupField s.path =
        .error (.index ['²']) :=
  ⟨by decide, _, List.mem_cons_self, rfl⟩

end Template
end Permalink
