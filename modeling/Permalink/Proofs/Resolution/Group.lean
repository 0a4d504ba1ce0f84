import Permalink.Proofs.Resolution.Splice
import Permalink.Proofs.Template.Canonical
import Permalink.Proofs.Value.Data

/-!
# Resolution — a record on its own or first in a group

A group is a record of one field, `nodes`, which holds its items.  A path is looked up on the first
item of a group and, where it leads nowhere, on the group itself.  There it leads nowhere either,
unless it starts with `nodes`: that is the only field that the group has (`lookup_group`).

So a record gives as the first of a group what it gives on its own, by every template of which no
path starts with `nodes`, whatever items follow it (`derive_group`).  It must be no group itself: of
a group in a group only the outer one is opened.
-/

namespace Permalink

namespace Value

/-- The group of a first item and more. -/
def group (first : Value) (more : List Value) : Value :=
  mapping [(text ['n', 'o', 'd', 'e', 's'], items .list (first :: more))]

section Group

variable {record : Value} {more : List Value} {path : List Text}

/-- The first of a group is found unless it is null. -/
theorem firstOfGroup_group (record : Value) (more : List Value) :
    (group record more).firstOfGroup = .ok record.defined := rfl

/-- A group has only its items. -/
theorem child?_group {name : Text} (h : name ≠ ['n', 'o', 'd', 'e', 's']) :
    (group record more).child? name = .ok none := by
  rw [child?, group, slot?, keyed?, if_neg h.symm]
  rfl

/-- **A path that does not start with its items** leads nowhere from a group. -/
theorem lookup_group (hpath : path ≠ []) (hhead : path.head? ≠ some ['n', 'o', 'd', 'e', 's']) :
    (group record more).lookup path = .ok none := by
  cases path with
  | nil => exact absurd rfl hpath
  | cons name path =>
      rw [lookup, child?_group fun h => hhead (congrArg some h)]
      rfl

/-- **Such a path leads to the same** from a record that is no group, from itself and from the group
of which it is the first. -/
theorem lookupField_group (hpath : path ≠ [])
    (hhead : path.head? ≠ some ['n', 'o', 'd', 'e', 's'])
    (hrecord : record.firstOfGroup = .ok none) :
    (group record more).lookupField path = record.lookupField path := by
  have hgroup : (group record more).lookup path = .ok none := lookup_group hpath hhead
  rw [lookupField_eq_lookup hrecord, lookupField, firstOfGroup_group]
  cases hdefined : record.defined with
  | none =>
      obtain rfl := defined_eq_none_iff.1 hdefined
      exact hgroup.trans (lookup_null path).symm
  | some item =>
      obtain ⟨rfl, -⟩ := defined_eq_some_iff.1 hdefined
      change (record.lookup path >>= _) = record.lookup path
      -- Where the item has the path, that is the outcome; else it is left to the group.
      cases record.lookup path with
      | error fault => rfl
      | ok found =>
          cases found with
          | none => exact hgroup
          | some v => rfl

/-- An item of a group that can be shown can be shown. -/
theorem exists_serialize_of_group (h : ∃ shown, (group record more).serialize = .ok shown) :
    ∃ shown, record.serialize = .ok shown := by
  rw [exists_serialize_iff] at h ⊢
  intro hrecord
  exact h (.entry List.mem_cons_self (.item (by decide) List.mem_cons_self hrecord))

end Group

end Value

/-- A segment of such a path has the same value. -/
theorem Segment.value_group (o : SlugOptions) {s : Segment} {record : Value} (more : List Value)
    (hpath : s.path ≠ []) (hhead : s.path.head? ≠ some ['n', 'o', 'd', 'e', 's'])
    (hrecord : record.firstOfGroup = .ok none) :
    s.value o (record.group more) = s.value o record := by
  rw [value, value, Value.lookupField_group hpath hhead hrecord]

namespace Resolution

/-- **A record on its own and first in a group.**  Let no path of the template start with `nodes`,
and let the record be no group.  Then, under any setting, the group of it and any more items gives
what the record gives: the same path with the same errors, or the same fault; if it can be shown,
as the record then can as well. -/
theorem derive_group {given : Text} {t : Template} (ht : Template.analyze given = .ok t)
    (hpaths : ∀ s ∈ t.segments, s.path.head? ≠ some ['n', 'o', 'd', 'e', 's'])
    (setting : Option Value) {record : Value} (hrecord : record.firstOfGroup = .ok none)
    (more : List Value) (hshown : ∃ shown, (record.group more).serialize = .ok shown) :
    (derive setting given (record.group more)).result = (derive setting given record).result := by
  obtain ⟨shown, hgroup⟩ := hshown
  obtain ⟨shown', hitem⟩ := Value.exists_serialize_of_group ⟨shown, hgroup⟩
  refine result_derive_congr ht setting (fun o s hs => ?_) fun _ _ _ _ fault => ?_
  · have hpath := (Template.written_of_analyze ht hs).1.path_ne_nil
    exact Segment.value_group o more hpath (hpaths s hs) hrecord
  · rw [hgroup, hitem]
    exact iff_of_false nofun nofun

/-- The template `{P.a__b}-{P.c}-{P.a}`. -/
def threePaths : Template :=
  let text := "\x7bP.a__b\x7d-\x7bP.c\x7d-\x7bP.a\x7d".toList
  { given := text, stripped := text
    segments := [Segment.printed ['P'] 0 [.name ['a'], .name ['b']],
      Segment.printed ['P'] 9 [.name ['c']], Segment.printed ['P'] 15 [.name ['a']]]
    model := some ['P'] }

/-- A record with the empty group in its field `nodes`, in which one of the three paths leads to a
text, one nowhere and one to a mapping. -/
def emptyGroup : Value :=
  .mapping [(.text ['n', 'o', 'd', 'e', 's'], .items .list []),
    (.text ['a'], .mapping [(.text ['b'], .text ['X', ' ', 'Y'])])]

/-- The record on its own and first in a group. -/
theorem derive_group_emptyGroup :
    Template.analyze threePaths.given = .ok threePaths ∧
    (∀ s ∈ threePaths.segments, s.path.head? ≠ some ['n', 'o', 'd', 'e', 's']) ∧
    emptyGroup.firstOfGroup = .ok none ∧
    (∃ shown, (emptyGroup.group [.null]).serialize = .ok shown) ∧
    (derive none threePaths.given (emptyGroup.group [.null])).result =
      (derive none threePaths.given emptyGroup).result ∧
    (derive none threePaths.given emptyGroup).result =
      .ok ⟨threePaths.stripped, "x-y-\x7bP.c\x7d-\x7bP.a\x7d".toList,
        [Segment.printed ['P'] 9 [.name ['c']], Segment.printed ['P'] 15 [.name ['a']]]⟩ := by
  have ht : Template.analyze threePaths.given = .ok threePaths := by decide
  have hpaths : ∀ s ∈ threePaths.segments, s.path.head? ≠ some ['n', 'o', 'd', 'e', 's'] := by
    decide
  have hrecord : emptyGroup.firstOfGroup = .ok none := rfl
  have hshown : ∃ shown, (emptyGroup.group [.null]).serialize = .ok shown := ⟨_, rfl⟩
  refine ⟨ht, hpaths, hrecord, hshown, derive_group ht hpaths none hrecord [.null] hshown, ?_⟩
  rw [derive_eq_resolve ht rfl, resolve_of_pairwise (by decide)]
  decide +kernel

end Resolution
end Permalink
